import PubSubProvisioning.Dialogue
import PubSubProvisioning.Project

/-!
# Provisioning one project

A pass connects to the service, creates the topics of a project in order, each followed by its
subscriptions, and closes the session whatever happened.  It stops at the first failure; what has
been created by then stays.

A subscription with a dead letter pair is created last of the three: the service does not take a
policy whose topic it does not have.
-/

namespace PubSubProvisioning

/-- A part of a pass: a dialogue that may end the pass with an error. -/
abbrev Pass (α : Type) : Type :=
  ExceptT ProvisionError Dialogue α

namespace Pass

/-- Reports an event. -/
def report (event : Event) : Pass Unit :=
  ExceptT.lift (Dialogue.report event)

/-- Makes a call; if it fails, the pass fails with the error that `wrap` makes of it. -/
def call (call : Call) (wrap : BackendError → ProvisionError) : Pass call.Grant :=
  ExceptT.mk (Dialogue.ask call fun outcome => .done (outcome.mapError wrap))

/-- Goes on with a value, or ends the pass because the project is malformed. -/
def accept {α : Type} (value : Except Malformed α) : Pass α :=
  ExceptT.mk (.done (value.mapError .malformed))

end Pass

/-- Creates the topic and the subscription for the undeliverable messages of a subscription of
`topic`. -/
def createDeadLetterPair (topic : TopicHandle) (subscription : String) (endpoint : PushEndpoint) :
    Pass TopicHandle := do
  let pair := DeadLetterPair.of topic.id subscription endpoint
  Pass.report (.creatingDeadLetterTopic pair.topic)
  let deadLetters ← Pass.call (.createTopic pair.topic)
    (.deadLetterTopicFailed topic.project topic.id pair.topic)
  Pass.report (.creatingDeadLetterSubscription pair.subscription pair.url)
  let _ ← Pass.call (.createSubscription pair.subscription (.push deadLetters pair.url))
    (.deadLetterSubscriptionFailed topic.project pair.topic pair.subscription pair.url)
  pure deadLetters

/-- Creates what the configuration of a subscription refers to, and adds it to the summary. -/
def configure (topic : TopicHandle) (plan : SubscriptionPlan) (summary : Summary) :
    Pass (SubscriptionConfig × Summary) := do
  match plan.delivery with
  | .pull =>
      Pass.report (.creatingSubscription plan.id)
      pure (.pull topic, summary)
  | .push endpoint =>
      Pass.report (.creatingPushSubscription plan.id endpoint.url)
      pure (.push topic endpoint.url, summary)
  | .pushWithDeadLetter endpoint =>
      Pass.report (.creatingPushSubscription plan.id endpoint.url)
      let deadLetters ← createDeadLetterPair topic plan.id endpoint
      Pass.report (.deadLettersGranted topic.id topic.project)
      let summary :=
        { summary with
          topics := summary.topics + 1
          subscriptions := summary.subscriptions + 1
          deadLetterPairs := summary.deadLetterPairs + 1 }
      pure ((SubscriptionConfig.push topic endpoint.url).withDeadLetters deadLetters, summary)

/-- Creates a subscription of `topic`. -/
def createSubscription (topic : TopicHandle) (plan : SubscriptionPlan) (summary : Summary) :
    Pass Summary := do
  let (config, summary) ← configure topic plan summary
  let endpoint := plan.delivery.endpoint?.map PushEndpoint.url
  let _ ← Pass.call (.createSubscription plan.id config)
    (.subscriptionFailed topic.project topic.id plan.id endpoint)
  pure { summary with subscriptions := summary.subscriptions + 1 }

/-- Creates the subscriptions of `topic` that tokens ask for. -/
def createSubscriptions (topic : TopicHandle) (summary : Summary) : List String → Pass Summary
  | [] => pure summary
  | token :: rest => do
      let plan ← Pass.accept (SubscriptionPlan.ofToken token)
      let summary ← createSubscription topic plan summary
      createSubscriptions topic summary rest

/-- Creates topics with their subscriptions. -/
def createTopics (project : String) (summary : Summary) : List TopicSpec → Pass Summary
  | [] => pure summary
  | spec :: rest => do
      Pass.report (.creatingTopic spec.id)
      let topic ← Pass.call (.createTopic spec.id) (.topicFailed project spec.id)
      let summary ← createSubscriptions topic { summary with topics := summary.topics + 1 }
        spec.tokens
      createTopics project summary rest

/-- A whole pass over a project. -/
def ProjectSpec.provision (spec : ProjectSpec) : Dialogue (Except ProvisionError Summary) := do
  match ← Dialogue.call (.connect spec.id) with
  | .error cause => pure (.error (.connectFailed spec.id cause))
  | .ok () =>
      Dialogue.report (.connected spec.id)
      let result ← (createTopics spec.id { project := spec.id } spec.topics).run
      match ← Dialogue.call .close with
      | .error cause => Dialogue.report (.closeFailed spec.id cause)
      | .ok () => pure ()
      match result with
      | .ok summary => Dialogue.report (.created summary)
      | .error _ => pure ()
      pure result

end PubSubProvisioning
