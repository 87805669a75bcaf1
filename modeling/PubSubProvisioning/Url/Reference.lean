import PubSubProvisioning.Url.Parser

/-!
# References

A reference names a URL as seen from another one.  What it does not state is taken from there: the
scheme, the authority, the directory that a path begins in, and the query of a reference that has at
most a fragment.  A reference that has a scheme stands alone, unless the scheme is the one of the
other URL and no authority follows.

References are read here as they are seen from a URL with a special scheme other than `file`.
-/

namespace PubSubProvisioning.Url

open PubSubProvisioning.Text (fields trimBy)

/-- The trail to the directory of a path: all segments but the last. -/
def Path.directory : Path → Trail
  | .segments list => { behind := list.dropLast.reverse }
  | .rootless _ => {}

/-- Reads the path of a reference.  It begins at the root if a slash, of either kind, stands in
front, and in the directory of the other path if none does. -/
def Path.follow (path : Path) (text : List Char) : Path :=
  let slashed := text.map fun c => if isSlash true c then '/' else c
  let trail :=
    match slashed with
    | '/' :: rest => Trail.addAll .special {} (fields '/' rest)
    | _ => Trail.addAll .special path.directory (fields '/' slashed)
  .segments (trail.segments .special)

/-- Reads a reference without a scheme. -/
def follow (url : Url) (text : List Char) : Except ParseError Url := do
  let slashes := text.takeWhile (isSlash true)
  if 2 ≤ slashes.length then
    -- A third slash is passed over only where one of the first two is a backslash.
    let behind := text.drop (if "//".toList.isPrefixOf text then 2 else slashes.length)
    let (authority, rest) ← readAuthority url.scheme behind
    pure (specialUrl url.scheme authority rest)
  else
    let pathText := text.takeWhile (!endsPath ·)
    let rest := text.drop pathText.length
    if pathText.isEmpty then
      let (query, fragment) := queryAndFragment true rest
      pure { url with query := query <|> url.query, fragment }
    else
      pure (withTail url.scheme url.authority (url.path.follow pathText) rest)

/-- Reads a reference, as it is seen from a URL. -/
def resolve (url : Url) (reference : String) : Except ParseError Url :=
  let text := visible (trimBy (·.toNat ≤ 0x20) reference.toList)
  match splitScheme? text with
  | none => url.follow text
  | some (scheme, rest) =>
      if scheme = url.scheme && (rest.takeWhile (isSlash true)).length < 2 then url.follow rest
      else parse reference

end PubSubProvisioning.Url
