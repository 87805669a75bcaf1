import PubSubProvisioning.Build
import PubSubProvisioning.Failure
import PubSubProvisioning.Resource
import PubSubProvisioning.Settings

/-!
# What a run reports of itself

Each event has a level, the component that it comes from, and a text.  A log keeps the events whose
level and component its filter lets through.
-/

namespace PubSubProvisioning

open PubSubProvisioning.Text (quote)

/-- How much an event matters, the weightiest first. -/
inductive Level where
  | error
  | warn
  | info
  | debug
  | trace
  deriving DecidableEq, Repr

/-- The name of a level. -/
def Level.name : Level → String
  | .error => "ERROR"
  | .warn => "WARN"
  | .info => "INFO"
  | .debug => "DEBUG"
  | .trace => "TRACE"

/-- Zero for the weightiest level. -/
def Level.rank : Level → Nat
  | .error => 0
  | .warn => 1
  | .info => 2
  | .debug => 3
  | .trace => 4

/-- The parts of the program that report events. -/
inductive Component where
  | program
  | command
  | batch
  | parser
  | validation
  | provisioner
  | service
  deriving DecidableEq, Repr

/-- The path by which a log filter names a component. -/
def Component.path : Component → String
  | .program => "pubsubc"
  | .command => "pubsubc::app"
  | .batch => "pubsubc::core::batch"
  | .parser => "pubsubc::core::parser"
  | .validation => "pubsubc::utils::validation"
  | .provisioner => "pubsubc::core::provisioner"
  | .service => "pubsubc::adapters::pubsub_rest"

/-- Something that happened in a run. -/
inductive Event where
  | settingsRead (settings : Settings)
  | provisioned (count : Nat)
  | stopped (variableName suggestion : String)
  | processing (variableName : String)
  | topicRepeated (topic : String)
  | subscriptionRepeated (subscription topic : String)
  | deadLetterPairPlanned (subscription topic : String)
  | connected (project : String)
  | closeFailed (project : String) (cause : BackendError)
  | created (summary : Summary)
  | creatingTopic (topic : String)
  | creatingSubscription (subscription : String)
  | creatingPushSubscription (subscription url : String)
  | creatingDeadLetterTopic (topic : String)
  | creatingDeadLetterSubscription (subscription url : String)
  | deadLettersGranted (topic project : String)
  | endpointUsed (url : String)
  | requestSent (url : String)
  | statusReceived (status : String)
  | bodyIgnored (resource : String) (body : List UInt8)
  | resourceNamed (name : String)
  | sessionClosing (project : String)
  deriving DecidableEq, Repr

namespace Event

/-- How much the event matters. -/
def level : Event → Level
  | .stopped .. => .error
  | .subscriptionRepeated .. | .closeFailed .. => .warn
  | .created .. => .info
  | _ => .debug

/-- Where the event comes from. -/
def component : Event → Component
  | .settingsRead .. => .program
  | .provisioned .. | .stopped .. => .command
  | .processing .. => .batch
  | .topicRepeated .. => .parser
  | .subscriptionRepeated .. | .deadLetterPairPlanned .. => .validation
  | .connected .. | .closeFailed .. | .created .. | .creatingTopic .. | .creatingSubscription ..
  | .creatingPushSubscription .. | .creatingDeadLetterTopic .. | .creatingDeadLetterSubscription ..
  | .deadLettersGranted .. => .provisioner
  | .endpointUsed .. | .requestSent .. | .statusReceived .. | .bodyIgnored .. | .resourceNamed ..
  | .sessionClosing .. => .service

/-- The event in words.  Indentation shows which resource is created for which other one. -/
def text (build : Build) : Event → String
  | .settingsRead settings => s!"Settings: {settings.description}"
  | .provisioned count => s!"Provisioned {count} projects"
  | .stopped variableName suggestion =>
      s!"Provisioning stopped at {variableName}. Suggestion: {suggestion}"
  | .processing variableName => s!"Processing {variableName}"
  | .topicRepeated topic => s!"Topic {quote topic} defined twice, keeping the last one"
  | .subscriptionRepeated subscription topic =>
      s!"Subscription {quote subscription} is listed twice on topic {quote topic}; " ++
        "the backend will reject the second one"
  | .deadLetterPairPlanned subscription topic =>
      s!"Subscription {quote subscription} on topic {quote topic} gets a dead letter pair"
  | .connected project => s!"Client connected with project ID {quote project}"
  | .closeFailed project cause =>
      s!"Failed to close session for project {quote project}: {cause.message}"
  | .created summary =>
      s!"Project {quote summary.project}: created {summary.topics} topics, " ++
        s!"{summary.subscriptions} subscriptions, {summary.deadLetterPairs} dead letter pairs"
  | .creatingTopic topic => s!"  Creating topic {quote topic}"
  | .creatingSubscription subscription => s!"    Creating subscription {quote subscription}"
  | .creatingPushSubscription subscription url =>
      s!"    Creating push subscription {quote subscription} with target {quote url}"
  | .creatingDeadLetterTopic topic => s!"      Creating DLQ topic {quote topic}"
  | .creatingDeadLetterSubscription subscription url =>
      s!"      Creating DLQ subscription {quote subscription} with target {quote url}"
  | .deadLettersGranted topic project =>
      s!"      The topic {quote topic} on project {quote project} has a dead letter policy"
  | .endpointUsed url => s!"Using Pub/Sub endpoint {url}"
  | .requestSent url => s!"PUT {url}"
  | .statusReceived status => s!"Pub/Sub response status: {status}"
  | .bodyIgnored resource body =>
      s!"Ignoring undecodable response body: {build.undecodable resource body}"
  | .resourceNamed name => s!"Created {name}"
  | .sessionClosing project => s!"Closing session for project {quote project}"

end Event

end PubSubProvisioning
