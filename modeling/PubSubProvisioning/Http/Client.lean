import PubSubProvisioning.Failure
import PubSubProvisioning.Http.Base64
import PubSubProvisioning.Http.Status
import PubSubProvisioning.Url.Reference

/-!
# An HTTP client

A request is put together from a URL, a token and a body, and sent over a network.  The network is
given by the replies that will come back, so what a program does over it is a function of them.

A reply may send the client on to another URL.  The client follows, with a request of its own for
each such reply, and what it has sent for in the end is the reply to the last of them.
-/

namespace PubSubProvisioning.Http

open PubSubProvisioning.Unicode (Utf8.encode Utf8.decode?)

/-! ## Requests -/

/-- What a request asks for: that a resource be stored, that one be shown, or that a way to a server
be opened for requests that nobody on the way can read. -/
inductive Method where
  | put
  | get
  | connect
  deriving DecidableEq, Repr

/-- A request as it is sent.  The credentials of its URL are in the header, and behind them the
token.  Where a reply has led to the request, the header also names the URL that it comes from. -/
structure Request where
  method : Method
  url : Url
  authorization : List (List UInt8)
  body : String
  referer : Option String := none
  deriving DecidableEq, Repr

/-- How the program introduces itself. -/
def userAgent : String :=
  "pubsubc/0.1.0"

/-- The text that percent code spells, if it spells one. -/
def decodedText? (coded : String) : Option (List Char) :=
  Utf8.decode? (Url.percentDecode coded.toList)

/-- The user name and password of a URL, if it has either.  A name that spells no text is not used,
and a password that spells none counts as missing. -/
def login? (url : Url) : Option (List Char × Option (List Char)) := do
  let authority ← url.authority
  let username ← decodedText? authority.username
  let password := authority.password.bind decodedText?
  if username.isEmpty && password.isNone then none else some (username, password)

/-- The URL without its user name and password. -/
def withoutLogin (url : Url) : Url :=
  { url with
    authority := url.authority.map fun authority =>
      { authority with username := "", password := none } }

/-- The header value for a user name and a password. -/
def basicAuthorization (login : List Char × Option (List Char)) : List UInt8 :=
  Utf8.encode ("Basic ".toList ++
    Base64.encode (Utf8.encode (login.1 ++ ':' :: login.2.getD [])))

/-- The header value for a token. -/
def bearerAuthorization (token : String) : List UInt8 :=
  Utf8.encode ("Bearer " ++ token).toList

/-- Whether a header value may hold an octet. -/
def isHeaderOctet (octet : UInt8) : Bool :=
  (0x20 ≤ octet || octet = 0x09) && octet ≠ 0x7F

/-- The number of octets that a request may spend on its target. -/
def targetLimit : Nat :=
  65534

/-- Whether a URL is one of HTTP. -/
def isHttp (url : Url) : Bool :=
  url.scheme = "http" || url.scheme = "https"

/-- Whether a request can write a URL: within the limit, and with a host without the few characters
that a URL allows there and a request does not. -/
def isWritable (url : Url) : Bool :=
  url.text.utf8ByteSize ≤ targetLimit &&
    url.authority.all fun authority =>
      authority.host.text.toList.all fun c => !"\"`\x7b\x7d".toList.contains c

/-- Whether a request can be sent to a URL. -/
def isTarget (url : Url) : Bool :=
  isHttp url && isWritable url

/-- Puts a request together.  A token that is no header value is found out before a URL that is no
target. -/
def request (url : Url) (token : Option String) (body : String) : Except TransportFault Request :=
  let bearer := token.toList.map bearerAuthorization
  let (bare, basic) :=
    match login? url with
    | some login => (withoutLogin url, [basicAuthorization login])
    | none => (url, [])
  if !bearer.all (·.all isHeaderOctet) then .error (.building none)
  else if isTarget bare then
    .ok { method := .put, url := bare, authorization := basic ++ bearer, body }
  else .error (.building (some bare.text))

/-- The request that has to succeed before a request to a secure server can be sent. -/
def Request.opening (request : Request) : Request :=
  { request with method := .connect, authorization := [], body := "", referer := none }

/-! ## Replies -/

/-- A reply, whose body may break off.  Of its header only the location matters, if it is a text. -/
structure Reply where
  status : Nat
  body : List UInt8
  complete : Bool
  location : Option String := none
  deriving DecidableEq, Repr

/-- The body of the reply, if it arrives.  Two codes announce that there is none. -/
def Reply.body? (reply : Reply) : Option (List UInt8) :=
  if reply.status = 204 ∨ reply.status = 304 then some []
  else if reply.complete then some reply.body
  else none

/-- What comes back for one request: a reply, or a connection that is closed without one. -/
inductive Return where
  | reply (reply : Reply)
  | dropped
  deriving DecidableEq, Repr

/-- What is known of a request from what comes back for it. -/
def Request.outcome (request : Request) : Return → Except TransportFault Reply
  | .reply received => .ok received
  | .dropped => .error (.sending request.url.text)

/-- The reply of a service that has nothing to say. -/
def plainReply : Return :=
  .reply { status := 200, body := Utf8.encode "\x7b\x7d".toList, complete := true }

/-! ## Redirections -/

/-- How a reply sends a client on: with the request that it has made, or to look at what stands
elsewhere. -/
inductive RedirectionKind where
  | again
  | look
  deriving DecidableEq, Repr

/-- The kind of redirection that a status announces, if it announces one. -/
def redirectionKind? (status : Nat) : Option RedirectionKind :=
  if [307, 308].contains status then some .again
  else if [301, 302, 303].contains status then some .look
  else none

/-- How and where to a reply sends a client on, if it does. -/
def Reply.redirection? (reply : Reply) : Option (RedirectionKind × String) := do
  let kind ← redirectionKind? reply.status
  let location ← reply.location
  pure (kind, location)

/-- How and where to what comes back sends a client on, if it does. -/
def Return.redirection? : Return → Option (RedirectionKind × String)
  | .reply received => received.redirection?
  | .dropped => none

/-- How and to which URL the reply to a request sends a client on.  A URL without a host, or one
that no request can write, is not followed. -/
def Request.redirection? (request : Request) (reply : Reply) : Option (RedirectionKind × Url) := do
  let (kind, location) ← reply.redirection?
  let url ← (request.url.resolve location).toOption
  if isWritable url && url.host?.any (· ≠ .name "") then some (kind, url) else none

/-- How and to which URL the outcome of handing over a request sends the client on, if it does. -/
def Request.onward? (request : Request) (outcome : Except TransportFault Reply) :
    Option (RedirectionKind × Url) :=
  outcome.toOption.bind request.redirection?

/-- Whether two URLs lead to the same server. -/
def sameServer (url other : Url) : Bool :=
  url.host? = other.host? && url.effectivePort? = other.effectivePort?

/-- The URL that a request to `url` may say it comes from: nothing that was asked for in secret is
made known to others. -/
def Request.origin? (request : Request) (url : Url) : Option String :=
  if url.scheme = "http" && request.url.scheme = "https" then none
  else some (withoutLogin { request.url with fragment := none }).text

/-- The request that a redirection to `url` leads to.  No other server is shown the credentials. -/
def Request.redirected (request : Request) (kind : RedirectionKind) (url : Url) : Request where
  method := if kind = .again then request.method else .get
  url
  authorization := if sameServer request.url url then request.authorization else []
  body := if kind = .again then request.body else ""
  referer := request.origin? url <|> request.referer

/-- The number of redirections that are followed for one request. -/
def redirectionLimit : Nat :=
  10

/-! ## Networks -/

/-- What a client is connected to: whether servers can be reached at all and whether they can be
reached in secret, what will come back for the requests in turn, and the requests sent so far.
After the last of the returns come plain replies. -/
structure Network where
  reachable : Bool := true
  secure : Bool := true
  returns : List Return := []
  sent : List Request := []
  deriving DecidableEq, Repr

namespace Network

/-- Takes note of a request, and uses up what comes back for it. -/
def after (network : Network) (request : Request) : Network :=
  { network with returns := network.returns.tail, sent := network.sent ++ [request] }

/-- Hands over one request. -/
def hand (network : Network) (request : Request) : Except TransportFault Reply × Network :=
  if !network.reachable then (request.outcome .dropped, network)
  else if request.url.scheme = "https" && !network.secure then
    (request.outcome .dropped, network.after request.opening)
  else (request.outcome (network.returns.headD plainReply), network.after request)

/-- Hands over a request, and follows the redirections from there, `limit` of them at most. -/
def follow (network : Network) (request : Request) (limit : Nat) :
    Except TransportFault Reply × Network :=
  let handed := network.hand request
  match request.onward? handed.1 with
  | none => handed
  | some (kind, url) =>
      match limit with
      | 0 => (.error (.redirecting request.url.text), handed.2)
      | limit + 1 =>
          if isHttp url then handed.2.follow (request.redirected kind url) limit
          else (.error (.building (some url.text)), handed.2)

/-- Sends a request. -/
def send (network : Network) (request : Request) : Except TransportFault Reply × Network :=
  network.follow request redirectionLimit

end Network

end PubSubProvisioning.Http
