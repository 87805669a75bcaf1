import PubSubProvisioning.Http.Client

/-!
# HTTP on the wire

How a request is written to a connection of its own, and how the reply is read from all that the
server writes until it closes the connection.
-/

namespace PubSubProvisioning.Http

open PubSubProvisioning.Text (digitsNumber fields hexNumber trimBy)
open PubSubProvisioning.Unicode (Utf8.decode? Utf8.encode)

/-! ## Writing requests -/

/-- A line of a header. -/
def headerLine (name : String) (value : List UInt8) : List UInt8 :=
  Utf8.encode (name ++ ": ").toList ++ value ++ Utf8.encode "\r\n".toList

/-- The name of a method. -/
def Method.name : Method → String
  | .put => "PUT"
  | .get => "GET"
  | .connect => "CONNECT"

/-- The host of a request.  The port is left out where it is the scheme's own, unless a way to the
host is to be opened. -/
def Request.host (request : Request) : String :=
  match request.method, request.url.host?, request.url.effectivePort? with
  | .connect, some host, some port => s!"{host.text}:{port}"
  | _, _, _ => (request.url.authority.map Url.Authority.hostAndPort).getD ""

/-- What a request asks for, as its first line names it: the path and the query, or the host to
which a way is to be opened. -/
def Request.target (request : Request) : String :=
  match request.method with
  | .put | .get => { request.url with fragment := none }.tail
  | .connect => request.host

/-- The octets of a request.  Only one to store a resource has a body. -/
def Request.octets (request : Request) : List UInt8 :=
  let text := fun (value : String) => Utf8.encode value.toList
  let body := text request.body
  let contentLines :=
    match request.method with
    | .put =>
        headerLine "content-type" (text "application/json") ++
          headerLine "content-length" (text (toString body.length))
    | .get | .connect => []
  text s!"{request.method.name} {request.target} HTTP/1.1\r\n" ++
    headerLine "host" (text request.host) ++
    headerLine "user-agent" (text userAgent) ++
    headerLine "accept" (text "*/*") ++
    request.referer.toList.flatMap (headerLine "referer" ∘ text) ++
    request.authorization.flatMap (headerLine "authorization") ++
    contentLines ++
    headerLine "connection" (text "close") ++
    text "\r\n" ++ body

/-! ## Reading replies -/

/-- The octets before and after the first occurrence of a row of octets. -/
def cut? (mark : List UInt8) : List UInt8 → Option (List UInt8 × List UInt8)
  | [] => none
  | octet :: rest =>
      if mark.isPrefixOf (octet :: rest) then some ([], (octet :: rest).drop mark.length)
      else (cut? mark rest).map fun (before, after) => (octet :: before, after)

/-- The end of a line. -/
def lineEnd : List UInt8 :=
  [0x0D, 0x0A]

/-- Octets as the characters of the same numbers. -/
def characters (octets : List UInt8) : List Char :=
  octets.map fun octet => Char.ofNat octet.toNat

/-- The lines of a header. -/
def headerLines (head : List UInt8) : List (List Char) :=
  (fields '\n' (characters head)).map fun line => line.filter (· ≠ '\r')

/-- The value of a header, if it is there. -/
def headerValue? (lines : List (List Char)) (name : String) : Option (List Char) :=
  lines.findSome? fun line =>
    let key := line.takeWhile (· ≠ ':')
    if key.map Char.toLower = name.toList then
      some (trimBy (fun c => c = ' ' || c = '\t') (line.drop (key.length + 1)))
    else none

/-- The content of a body in chunks, and whether its last chunk is there; `limit` bounds their
number. -/
def chunks : Nat → List UInt8 → List UInt8 × Bool
  | 0, _ => ([], false)
  | limit + 1, octets =>
      match cut? lineEnd octets with
      | none => ([], false)
      | some (line, rest) =>
          let size := hexNumber ((characters line).takeWhile fun c => c ≠ ';' && c ≠ ' ')
          if size = 0 then ([], true)
          else if rest.length < size then (rest, false)
          else
            let (others, complete) := chunks limit (rest.drop (size + lineEnd.length))
            (rest.take size ++ others, complete)

/-- The body of a reply, and whether all of it is there.  A body of unknown length ends with the
connection. -/
def bodyOf (lines : List (List Char)) (rest : List UInt8) : List UInt8 × Bool :=
  if headerValue? lines "transfer-encoding" = some "chunked".toList then
    chunks (rest.length + 1) rest
  else
    match headerValue? lines "content-length" with
    | some digits =>
        let length := digitsNumber 10 digits
        (rest.take length, length ≤ rest.length)
    | none => (rest, true)

/-- The location that a header names, if its octets spell a text. -/
def location? (lines : List (List Char)) : Option String := do
  let value ← headerValue? lines "location"
  let text ← Utf8.decode? (value.map fun c => UInt8.ofNat c.toNat)
  pure (String.ofList text)

/-- The return that the octets of a connection make. -/
def Return.ofOctets (octets : List UInt8) : Return :=
  match cut? (lineEnd ++ lineEnd) octets with
  | none => .dropped
  | some (head, rest) =>
      let lines := headerLines head
      match fields ' ' (lines.headD []) with
      | _ :: code :: _ =>
          if code.length = 3 && code.all Char.isDigit then
            let (body, complete) := bodyOf lines.tail rest
            .reply
              { status := digitsNumber 10 code, body, complete, location := location? lines.tail }
          else .dropped
      | _ => .dropped

end PubSubProvisioning.Http
