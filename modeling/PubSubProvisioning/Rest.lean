import PubSubProvisioning.Dialogue
import PubSubProvisioning.Http.Client
import PubSubProvisioning.Json.Reader
import PubSubProvisioning.Json.Writer
import PubSubProvisioning.Unicode.Utf8

/-!
# The service over HTTP

Each resource of the service has a URL, and is created by a request to store it there.  A session
holds what all of its requests share: the URL of the service, the project, and the token.

Only the status of a reply decides whether a resource was created.  The body of a reply that reports
an error says more about it, if it can be read.
-/

namespace PubSubProvisioning

open PubSubProvisioning.Http (Network Reply)

namespace Rest

/-! ## Sessions and resources -/

/-- The collections of a project. -/
inductive Collection where
  | topics
  | subscriptions
  deriving DecidableEq, Repr

/-- The name of a collection in paths. -/
def Collection.name : Collection → String
  | .topics => "topics"
  | .subscriptions => "subscriptions"

/-- A client bound to one project of the service. -/
structure Session where
  base : Url
  project : String
  accessToken : Option String
  deriving DecidableEq, Repr

namespace Session

/-- Opens a session.  No request is made. -/
def open? (settings : ServiceSettings) (project : String) : Except BackendError Session :=
  if project = "" then .error (.other "project ID string is empty")
  else
    match Url.parse settings.endpoint with
    | .error reason => .error (.invalidEndpoint settings.endpoint reason.message)
    | .ok base =>
        if base.isBase then .ok ⟨base, project, settings.accessToken⟩
        else .error (.invalidEndpoint settings.endpoint "not a base URL")

/-- The URL of a resource. -/
def resourceUrl (session : Session) (collection : Collection) (id : String) :
    Except BackendError Url :=
  match session.base.append? ["v1", "projects", session.project, collection.name, id] with
  | some url => .ok url
  | none => .error (.invalidEndpoint session.base.text "not a base URL")

/-- The name of a resource across projects. -/
def resourceName (session : Session) (collection : Collection) (id : String) : String :=
  s!"projects/{session.project}/{collection.name}/{id}"

end Session

/-! ## Bodies -/

/-- The body of a request for a topic. -/
def topicBody : String :=
  Json.objectText []

/-- The body of a request for a subscription. -/
def subscriptionBody (config : SubscriptionConfig) : String :=
  let pushConfig := config.pushUrl.toList.map fun url =>
    ("pushConfig", Json.objectText [("pushEndpoint", Json.stringText url)])
  let deadLetterPolicy := config.deadLetters.toList.map fun policy =>
    ("deadLetterPolicy",
      Json.objectText
        [("deadLetterTopic", Json.stringText policy.topicName),
         ("maxDeliveryAttempts", toString policy.attempts)])
  Json.objectText (("topic", Json.stringText config.topic.name) :: pushConfig ++ deadLetterPolicy)

/-- The name in the description of a created resource: nothing if the description cannot be read,
and perhaps no name in one that can. -/
def createdName? (input : Json.Input) : Option (Option String) := do
  match ← Json.fields? ["name"] 1 (← Json.read? input) with
  | [none] | [some .null] => some none
  | [some (.string (some name))] => some (some name)
  | _ => none

/-- What the body of a reply says about an error. -/
structure ErrorDetail where
  code : Nat
  message : String
  status : String
  deriving DecidableEq, Repr

/-- Reads the description of an error. -/
def errorDetail? (input : Json.Input) : Option ErrorDetail := do
  match ← Json.fields? ["error"] 1 (← Json.read? input) with
  | [some envelope] =>
      match ← Json.fields? ["code", "message", "status"] 0 envelope with
      | [code, message, status] =>
          some
            ⟨← Json.natField? 0x10000 code, ← Json.textField? message, ← Json.textField? status⟩
      | _ => none
  | _ => none

/-- The error that a reply reports.  A description that cannot be read is taken for a plain
message. -/
def apiError (status : Nat) (resource body : String) : BackendError :=
  let detail :=
    (errorDetail? (.ofText body)).getD
      ⟨status, Text.trim body, (Http.reason? status).getD "UNKNOWN"⟩
  if status = 409 ∨ detail.status = "ALREADY_EXISTS" then .alreadyExists resource
  else .api (if detail.code = 0 then status else detail.code) detail.status detail.message

/-! ## Requests -/

/-- The outcome of a request, the events on the way, and the network after it. -/
structure Exchange (α : Type) where
  outcome : Except BackendError α
  events : List Event
  network : Network

/-- What a reply means for the resource that was to be created. -/
def judge (resource : String) (reply : Reply) : Except BackendError Unit × List Event :=
  if Http.isSuccess reply.status then
    match reply.body? with
    | none => (.error (.transport .decodingBody), [])
    | some body =>
        match createdName? (.ofOctets body) with
        | none => (.ok (), [.bodyIgnored resource body])
        | some none => (.ok (), [])
        | some (some name) => (.ok (), [.resourceNamed name])
  else
    let body := String.ofList (Unicode.Utf8.decodeLenient (reply.body?.getD []))
    (.error (apiError reply.status resource body), [])

/-- Asks the service to store a resource. -/
def Session.put (session : Session) (collection : Collection) (id body : String)
    (network : Network) : Exchange Unit :=
  match session.resourceUrl collection id with
  | .error error => ⟨.error error, [], network⟩
  | .ok url =>
      match Http.request url session.accessToken body with
      | .error fault => ⟨.error (.transport fault), [.requestSent url.text], network⟩
      | .ok request =>
          match network.send request with
          | (.error fault, network) =>
              ⟨.error (.transport fault), [.requestSent url.text], network⟩
          | (.ok reply, network) =>
              let (outcome, events) := judge (session.resourceName collection id) reply
              ⟨outcome,
                .requestSent url.text :: .statusReceived (Http.statusText reply.status) :: events,
                network⟩

/-- Creates a topic. -/
def Session.createTopic (session : Session) (id : String) (network : Network) :
    Exchange TopicHandle :=
  let exchange := session.put .topics id topicBody network
  { exchange with outcome := exchange.outcome.map fun _ => ⟨session.project, id⟩ }

/-- Creates a subscription. -/
def Session.createSubscription (session : Session) (id : String) (config : SubscriptionConfig)
    (network : Network) : Exchange SubscriptionHandle :=
  let exchange := session.put .subscriptions id (subscriptionBody config) network
  { exchange with outcome := exchange.outcome.map fun _ => ⟨session.project, id⟩ }

/-! ## The service as a state machine -/

/-- The network, and the session that is open on it. -/
structure State where
  session : Option Session := none
  network : Network
  deriving DecidableEq, Repr

/-- A call without a session fails. -/
def noSession : BackendError :=
  .other "no session is open"

/-- The answer to a call. -/
def answer (settings : ServiceSettings) (state : State) : (call : Call) → Answer State call
  | .connect project =>
      match Session.open? settings project with
      | .error error => ⟨.error error, [], state⟩
      | .ok session => ⟨.ok (), [.endpointUsed session.base.text], { state with session }⟩
  | .createTopic id =>
      match state.session with
      | none => ⟨.error noSession, [], state⟩
      | some session =>
          let exchange := session.createTopic id state.network
          ⟨exchange.outcome, exchange.events, { state with network := exchange.network }⟩
  | .createSubscription id config =>
      match state.session with
      | none => ⟨.error noSession, [], state⟩
      | some session =>
          let exchange := session.createSubscription id config state.network
          ⟨exchange.outcome, exchange.events, { state with network := exchange.network }⟩
  | .close =>
      ⟨.ok (), state.session.toList.map (.sessionClosing ·.project), state⟩

/-- The service that settings point to. -/
def backend (settings : ServiceSettings) : Backend State :=
  ⟨answer settings⟩

end Rest

end PubSubProvisioning
