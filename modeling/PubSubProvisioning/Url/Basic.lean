import PubSubProvisioning.Url.Host

/-!
# URLs

A URL is kept as its parts, each in the form in which it is written.  `Url.text` writes the parts
one after another, so two URLs with the same parts have the same text.
-/

namespace PubSubProvisioning

namespace Url

/-- How a scheme is treated by the URL standard. -/
inductive SchemeKind where
  | file
  | special
  | other
  deriving DecidableEq, Repr

/-- The kind of a scheme. -/
def schemeKind (scheme : String) : SchemeKind :=
  if scheme = "file" then .file
  else if ["http", "https", "ws", "wss", "ftp"].contains scheme then .special
  else .other

/-- Whether a kind of scheme takes a backslash for a slash and a domain name for a host. -/
def SchemeKind.isSpecial : SchemeKind → Bool
  | .other => false
  | _ => true

/-- The port that a scheme uses unless another one is given. -/
def defaultPort? (scheme : String) : Option Nat :=
  match scheme with
  | "http" | "ws" => some 80
  | "https" | "wss" => some 443
  | "ftp" => some 21
  | _ => none

/-- What stands between the two slashes and the path: who asks, and whom. -/
structure Authority where
  username : String := ""
  password : Option String := none
  host : Host
  port : Option Nat := none
  deriving DecidableEq, Repr

/-- A path is a list of segments, each behind a slash, or a text without any structure. -/
inductive Path where
  | segments (list : List String)
  | rootless (text : String)
  deriving DecidableEq, Repr

end Url

/-- A URL by its parts.  A path that begins with an empty segment would read as an authority where
there is none; `guarded` says that a dot segment is written in front of the path to keep them
apart. -/
structure Url where
  scheme : String
  authority : Option Url.Authority
  guarded : Bool
  path : Url.Path
  query : Option String
  fragment : Option String
  deriving DecidableEq, Repr

namespace Url

/-- The name and password as a URL writes them, with the sign that ends them. -/
def Authority.credentials (authority : Authority) : String :=
  match authority.password with
  | some password => authority.username ++ ":" ++ password ++ "@"
  | none => if authority.username = "" then "" else authority.username ++ "@"

/-- The host, and the port unless it is the scheme's own. -/
def Authority.hostAndPort (authority : Authority) : String :=
  match authority.port with
  | some port => authority.host.text ++ ":" ++ toString port
  | none => authority.host.text

/-- The host of a URL, if it has an authority. -/
def host? (url : Url) : Option Host :=
  url.authority.map (·.host)

/-- The port of a URL, given or implied by the scheme. -/
def effectivePort? (url : Url) : Option Nat :=
  url.authority.bind (·.port) <|> defaultPort? url.scheme

/-- The text of a path. -/
def Path.text : Path → String
  | .segments list => String.join (list.map ("/" ++ ·))
  | .rootless text => text

/-- The scheme, and the authority with or without the credentials, or the guard of the path. -/
def origin (url : Url) (withCredentials : Bool) : String :=
  match url.authority with
  | some authority =>
      url.scheme ++ "://" ++ (if withCredentials then authority.credentials else "") ++
        authority.hostAndPort
  | none => url.scheme ++ (if url.guarded then ":/." else ":")

/-- The path, the query and the fragment. -/
def tail (url : Url) : String :=
  url.path.text ++ (url.query.map ("?" ++ ·)).getD "" ++ (url.fragment.map ("#" ++ ·)).getD ""

/-- The text of a URL. -/
def text (url : Url) : String :=
  url.origin true ++ url.tail

/-- Whether paths can be added to a URL. -/
def isBase (url : Url) : Bool :=
  match url.path with
  | .segments _ => true
  | .rootless _ => false

end Url

end PubSubProvisioning
