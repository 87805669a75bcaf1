import PubSubProvisioning.Subscription

/-!
# Topics and subscriptions of the service

How the service names what it keeps, and how a new subscription is configured.
-/

namespace PubSubProvisioning

/-- A topic that the service keeps. -/
structure TopicHandle where
  project : String
  id : String
  deriving DecidableEq, Repr

/-- The name of a topic across projects. -/
def TopicHandle.name (topic : TopicHandle) : String :=
  s!"projects/{topic.project}/topics/{topic.id}"

/-- A subscription that the service keeps. -/
structure SubscriptionHandle where
  project : String
  id : String
  deriving DecidableEq, Repr

/-- What becomes of a message that cannot be delivered: after so many attempts it goes to a topic of
its own. -/
structure DeadLetterPolicy where
  topicName : String
  attempts : Int
  deriving DecidableEq, Repr

/-- How often delivery is attempted before a message is given up. -/
def deliveryAttempts : Int :=
  5

/-- The configuration of a new subscription. -/
structure SubscriptionConfig where
  topic : TopicHandle
  pushUrl : Option String := none
  deadLetters : Option DeadLetterPolicy := none
  deriving DecidableEq, Repr

namespace SubscriptionConfig

/-- Messages wait until they are fetched. -/
def pull (topic : TopicHandle) : SubscriptionConfig :=
  { topic }

/-- Messages are pushed to a URL. -/
def push (topic : TopicHandle) (url : String) : SubscriptionConfig :=
  { topic, pushUrl := some url }

/-- Undeliverable messages go to another topic. -/
def withDeadLetters (config : SubscriptionConfig) (topic : TopicHandle) : SubscriptionConfig :=
  { config with deadLetters := some ⟨topic.name, deliveryAttempts⟩ }

end SubscriptionConfig

/-- The topic and the subscription that take the undeliverable messages of a subscription. -/
structure DeadLetterPair where
  topic : String
  subscription : String
  url : String
  deriving DecidableEq, Repr

/-- How the names of a dead letter pair end. -/
def deadLetterEnding : String :=
  "-dlq"

/-- The pair is named after the topic and the subscription that it serves. -/
def DeadLetterPair.of (topic subscription : String) (endpoint : PushEndpoint) : DeadLetterPair :=
  ⟨topic ++ deadLetterEnding, subscription ++ deadLetterEnding, endpoint.deadLetterUrl⟩

/-- What a pass over a project has created. -/
structure Summary where
  project : String
  topics : Nat := 0
  subscriptions : Nat := 0
  deadLetterPairs : Nat := 0
  deriving DecidableEq, Repr

end PubSubProvisioning
