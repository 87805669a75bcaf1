import PubSubProvisioning.Text.Blank
import PubSubProvisioning.Url.Path

/-!
# Reading URLs

Reading follows the URL standard, for URLs that stand alone.  Controls and spaces at the ends, and
tabs and line ends anywhere, are no part of a URL.  What the scheme is decides how the rest is cut:
a special scheme is followed by an authority whatever the number of slashes, any other one by an
authority only after exactly two.
-/

namespace PubSubProvisioning.Url

open PubSubProvisioning.Text (digitsNumber trimBy)

/-- The scheme before the first colon, in lower case, and the text after that colon. -/
def splitScheme? (text : List Char) : Option (String × List Char) :=
  let scheme := text.takeWhile fun c =>
    c.isAlphanum || c = '+' || c = '-' || c = '.'
  match text.drop scheme.length with
  | ':' :: rest =>
      if scheme.head?.any Char.isAlpha then some (String.ofList (scheme.map Char.toLower), rest)
      else none
  | _ => none

/-! ## The authority -/

/-- The name and password before an at sign.  Only the first colon divides them, and an empty
password is none. -/
def credentials (text : List Char) : String × Option String :=
  let written := fun part => String.ofList (percentEncode escapedInCredentials part)
  let username := text.takeWhile (· ≠ ':')
  match text.drop (username.length + 1) with
  | [] => (written username, none)
  | password => (written username, some (written password))

/-- The port at the front of a text, and what follows it. -/
def port? (scheme : String) (text : List Char) : Except ParseError (Option Nat × List Char) :=
  let digits := text.takeWhile Char.isDigit
  let rest := text.drop digits.length
  let number := digitsNumber 10 digits
  if 65535 < number || rest.head?.any fun c => !endsAuthority true c then .error .port
  else if digits.isEmpty || some number = defaultPort? scheme then .ok (none, rest)
  else .ok (some number, rest)

/-- The length of a host at the front of a text: up to a colon outside brackets. -/
def hostLength : Bool → List Char → Nat
  | _, [] => 0
  | bracketed, c :: rest =>
      if c = ':' && !bracketed then 0
      else hostLength (c = '[' || bracketed && c ≠ ']') rest + 1

/-- What an authority says of the host and the port: all that is behind its last at sign. -/
def addressPart (front : List Char) : List Char :=
  (front.reverse.takeWhile (· ≠ '@')).reverse

/-- What an authority says of the name and the password: all that is before its last at sign. -/
def credentialsPart (front : List Char) : List Char :=
  front.take (front.length - (addressPart front).length - 1)

/-- The host of an address. -/
def hostPart (address : List Char) : List Char :=
  address.take (hostLength false address)

/-- The port of an address, behind its host; it begins with a colon unless it is empty. -/
def portPart (address : List Char) : List Char :=
  address.drop (hostPart address).length

/-- Reads the port of an address that `rest` follows. -/
def portBefore? (scheme : String) (part rest : List Char) :
    Except ParseError (Option Nat × List Char) :=
  match part with
  | ':' :: text => port? scheme (text ++ rest)
  | _ => .ok (none, part ++ rest)

/-- Reads what stands before the path: credentials up to the last at sign, the host, and the
port. -/
def readAuthority (scheme : String) (text : List Char) : Except ParseError (Authority × List Char) := do
  let special := (schemeKind scheme).isSpecial
  let front := text.takeWhile (!endsAuthority special ·)
  let rest := text.drop front.length
  let address := addressPart front
  let (username, password) := credentials (credentialsPart front)
  if front = ['@'] && !rest.isEmpty then throw .emptyHost
  if special && (hostPart address).isEmpty then throw .emptyHost
  let host ← if special then domainHost (hostPart address) else plainHost (hostPart address)
  let hostIsEmpty := host = .name ""
  if hostIsEmpty && !(portPart address).isEmpty then throw .emptyHost
  let (port, rest) ← portBefore? scheme (portPart address) rest
  if hostIsEmpty && (username ≠ "" || password.isSome) then throw .emptyHost
  pure (⟨username, password, host, port⟩, rest)

/-! ## What follows the path -/

/-- Reads the query and the fragment, from the mark of the first of them on. -/
def queryAndFragment (special : Bool) (text : List Char) : Option String × Option String :=
  let fragment := fun part => String.ofList (percentEncode escapedInFragment part)
  match text with
  | '?' :: rest =>
      let query := rest.takeWhile (· ≠ '#')
      let written := String.ofList (percentEncode (escapedInQuery special) query)
      match rest.drop query.length with
      | _ :: after => (some written, some (fragment after))
      | [] => (some written, none)
  | _ :: after => (none, some (fragment after))
  | [] => (none, none)

/-- Puts a URL together from its front and the text of the rest.  A path that begins with an empty
segment is guarded where no authority stands before it. -/
def withTail (scheme : String) (authority : Option Authority) (path : Path) (rest : List Char) :
    Url :=
  let (query, fragment) := queryAndFragment (schemeKind scheme).isSpecial rest
  let guarded :=
    match authority, path with
    | none, .segments ("" :: _ :: _) => true
    | _, _ => false
  ⟨scheme, authority, guarded, path, query, fragment⟩

/-! ## Whole URLs -/

/-- A text without the slash, of either kind, that it begins with. -/
def withoutSlash (text : List Char) : List Char :=
  if (visible text).head?.any (isSlash true) then dropVisible 1 text else text

/-- Reads the rest of a special URL after its authority.  Its path has a first slash, written or
not. -/
def specialUrl (scheme : String) (authority : Authority) (text : List Char) : Url :=
  let pathText := text.takeWhile (!endsPath ·)
  let trail := Trail.read .special (withoutSlash pathText)
  withTail scheme (some authority) (.segments (trail.segments .special))
    (text.drop pathText.length)

/-- A `file` URL that names `host`, with the text behind the first slash of its path, breaks and
all.  A drive is on no host. -/
def localUrl (host : Host) (text : List Char) : Url :=
  let pathText := text.takeWhile (!endsPath ·)
  let trail := Trail.read .file pathText
  withTail "file" (some { host := if trail.onDrive then .name "" else host })
    (.segments (trail.segments .file)) (visible (text.drop pathText.length))

/-- Reads the rest of a `file` URL, breaks and all.  The local host is none, and what looks like a
drive letter is not taken for a host.  Where two slashes lead to no host, the first slash of the
path is implied, so that one more opens an empty segment. -/
def fileUrl (text : List Char) : Except ParseError Url := do
  let seen := visible text
  if seen.length < 2 || !(seen.take 2).all (isSlash true) then
    pure (localUrl (.name "") (withoutSlash text))
  else
    let hostText := (seen.drop 2).takeWhile (!endsAuthority true ·)
    let behindHost := dropVisible (2 + hostText.length) text
    if hostText.isEmpty || isDriveLetter hostText then
      pure (localUrl (.name "") (dropVisible 2 text))
    else
      match ← domainHost hostText with
      | .name "localhost" => pure (localUrl (.name "") behindHost)
      | host => pure (localUrl host (withoutSlash behindHost))

/-- Reads the rest of a URL whose scheme is neither `file` nor special.  It has a path of segments
only where it has a slash or an authority. -/
def otherUrl (scheme : String) (text : List Char) : Except ParseError Url := do
  let segments := fun (pathText : List Char) =>
    Path.segments ((Trail.read .other pathText).segments .other)
  match text with
  | '/' :: '/' :: after =>
      let (authority, rest) ← readAuthority scheme after
      let pathText := rest.takeWhile (!endsPath ·)
      let path :=
        match pathText with
        | [] => .segments []
        | '/' :: behindSlash => segments behindSlash
        | _ => segments pathText
      pure (withTail scheme (some authority) path (rest.drop pathText.length))
  | '/' :: after =>
      let pathText := after.takeWhile (!endsPath ·)
      pure (withTail scheme none (segments pathText) (after.drop pathText.length))
  | _ =>
      let pathText := text.takeWhile (!endsPath ·)
      pure (withTail scheme none
        (.rootless (String.ofList (percentEncode escapedAlways pathText)))
        (text.drop pathText.length))

/-- Reads a URL. -/
def parse (text : String) : Except ParseError Url :=
  let trimmed := trimBy (·.toNat ≤ 0x20) text.toList
  match splitScheme? (visible trimmed) with
  | none => .error .relative
  | some (scheme, rest) =>
      match schemeKind scheme with
      | .file => fileUrl ((trimmed.dropWhile (· ≠ ':')).tail)
      | .special => do
          let (authority, rest) ← readAuthority scheme (rest.dropWhile (isSlash true))
          pure (specialUrl scheme authority rest)
      | .other => otherUrl scheme rest

end PubSubProvisioning.Url
