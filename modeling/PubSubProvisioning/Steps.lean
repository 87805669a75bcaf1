import PubSubProvisioning.Provision

/-!
# Passes as lists of steps

Whatever a pass asks of the service in a session, it asks for one of four purposes: for a topic of
the project, for the topic or the subscription of a dead letter pair, or for a subscription that a
token describes.  A step is such a purpose, and the script of a project lists its steps in order, up
to the first token that cannot be read.

A script is made without a service.  What a step depends on besides is which topics are at hand: the
service may have granted them under names other than those asked for.
-/

namespace PubSubProvisioning

/-! ## Steps -/

/-- The topics at hand: the one whose subscriptions are being created, and the dead letter topic
that was granted last. -/
structure Handles where
  topic : TopicHandle
  deadLetters : TopicHandle
  deriving DecidableEq, Repr

/-- What is at hand before anything has been granted.  No call of a script depends on the names. -/
def Handles.initial (project : String) : Handles :=
  ⟨⟨project, ""⟩, ⟨project, ""⟩⟩

/-- What a call is made for. -/
inductive Step where
  | topic (id : String)
  | deadLetterTopic (subscription : String) (endpoint : PushEndpoint)
  | deadLetterSubscription (subscription : String) (endpoint : PushEndpoint)
  | subscription (plan : SubscriptionPlan)
  deriving DecidableEq, Repr

namespace SubscriptionPlan

/-- How the subscription that a plan is for is configured, given the topics at hand. -/
def configOn (handles : Handles) (plan : SubscriptionPlan) : SubscriptionConfig :=
  match plan.delivery with
  | .pull => .pull handles.topic
  | .push endpoint => .push handles.topic endpoint.url
  | .pushWithDeadLetter endpoint =>
      (SubscriptionConfig.push handles.topic endpoint.url).withDeadLetters handles.deadLetters

/-- The steps that lead to a subscription. -/
def steps (plan : SubscriptionPlan) : List Step :=
  match plan.delivery with
  | .pull | .push _ => [.subscription plan]
  | .pushWithDeadLetter endpoint =>
      [.deadLetterTopic plan.id endpoint, .deadLetterSubscription plan.id endpoint,
        .subscription plan]

end SubscriptionPlan

namespace Step

/-- The call that a step makes. -/
def call (handles : Handles) : Step → Call
  | .topic id => .createTopic id
  | .deadLetterTopic _ _ => .createTopic (handles.topic.id ++ deadLetterEnding)
  | .deadLetterSubscription id endpoint =>
      .createSubscription (id ++ deadLetterEnding)
        (.push handles.deadLetters endpoint.deadLetterUrl)
  | .subscription plan => .createSubscription plan.id (plan.configOn handles)

/-- The topics at hand once the call is granted. -/
def next (handles : Handles) : (step : Step) → (step.call handles).Grant → Handles
  | .topic _, granted => { handles with topic := granted }
  | .deadLetterTopic _ _, granted => { handles with deadLetters := granted }
  | .deadLetterSubscription _ _, _ => handles
  | .subscription _, _ => handles

/-- The error of a pass for `project` whose call for this step is refused. -/
def error (project : String) (handles : Handles) : Step → BackendError → ProvisionError
  | .topic id => .topicFailed project id
  | .deadLetterTopic _ _ =>
      .deadLetterTopicFailed handles.topic.project handles.topic.id
        (handles.topic.id ++ deadLetterEnding)
  | .deadLetterSubscription id endpoint =>
      .deadLetterSubscriptionFailed handles.topic.project (handles.topic.id ++ deadLetterEnding)
        (id ++ deadLetterEnding) endpoint.deadLetterUrl
  | .subscription plan =>
      .subscriptionFailed handles.topic.project handles.topic.id plan.id
        (plan.delivery.endpoint?.map PushEndpoint.url)

/-- What is reported before the call. -/
def events (handles : Handles) : Step → List Event
  | .topic id => [.creatingTopic id]
  | .deadLetterTopic id endpoint =>
      [.creatingPushSubscription id endpoint.url,
        .creatingDeadLetterTopic (handles.topic.id ++ deadLetterEnding)]
  | .deadLetterSubscription id endpoint =>
      [.creatingDeadLetterSubscription (id ++ deadLetterEnding) endpoint.deadLetterUrl]
  | .subscription plan =>
      match plan.delivery with
      | .pull => [.creatingSubscription plan.id]
      | .push endpoint => [.creatingPushSubscription plan.id endpoint.url]
      | .pushWithDeadLetter _ => [.deadLettersGranted handles.topic.id handles.topic.project]

/-- The summary once the call is granted.  A pair counts when it is complete. -/
def count (summary : Summary) : Step → Summary
  | .topic _ | .deadLetterTopic _ _ => { summary with topics := summary.topics + 1 }
  | .deadLetterSubscription _ _ =>
      { summary with
        subscriptions := summary.subscriptions + 1
        deadLetterPairs := summary.deadLetterPairs + 1 }
  | .subscription _ => { summary with subscriptions := summary.subscriptions + 1 }

/-- Performs a step, and yields the topics at hand after it. -/
def perform (project : String) (handles : Handles) (step : Step) : Pass Handles := do
  ExceptT.lift (Dialogue.reportAll (step.events handles))
  let granted ← Pass.call (step.call handles) (step.error project handles)
  pure (step.next handles granted)

end Step

/-- Performs steps in turn. -/
def performAll (project : String) : Handles → List Step → Pass Handles
  | handles, [] => pure handles
  | handles, step :: rest => do
      let handles ← step.perform project handles
      performAll project handles rest

/-- Steps in a row are performed in a row. -/
theorem performAll_append (project : String) (handles : Handles) (first second : List Step) :
    performAll project handles (first ++ second) =
      performAll project handles first >>= fun handles => performAll project handles second := by
  induction first generalizing handles with
  | nil => rfl
  | cons step rest inductionHypothesis =>
      simp only [List.cons_append, performAll, bind_assoc, inductionHypothesis]

/-! ## Scripts -/

/-- The steps of a part of a pass, and why it ends with them if it is cut short. -/
structure Script where
  steps : List Step
  flaw : Option Malformed := none
  deriving DecidableEq, Repr

namespace Script

/-- One part of a script after another, unless the script ends with the first one. -/
def andThen (first second : Script) : Script :=
  match first.flaw with
  | none => ⟨first.steps ++ second.steps, second.flaw⟩
  | some _ => first

/-- The script for the subscription that a token asks for. -/
def ofToken (token : String) : Script :=
  match SubscriptionPlan.ofToken token with
  | .ok plan => ⟨plan.steps, none⟩
  | .error reason => ⟨[], some reason⟩

/-- The script for the subscriptions that tokens ask for. -/
def ofTokens : List String → Script
  | [] => ⟨[], none⟩
  | token :: rest => (ofToken token).andThen (ofTokens rest)

/-- The script for topics with their subscriptions. -/
def ofTopics : List TopicSpec → Script
  | [] => ⟨[], none⟩
  | spec :: rest =>
      (Script.mk [.topic spec.id] none).andThen ((ofTokens spec.tokens).andThen (ofTopics rest))

/-- Performs the steps of a script, and then gives up if there is a reason to. -/
def perform (project : String) (handles : Handles) (script : Script) : Pass Handles := do
  let handles ← performAll project handles script.steps
  match script.flaw with
  | none => pure handles
  | some reason => Pass.accept (.error reason)

/-- Without a flaw there are only the steps to perform. -/
theorem perform_mk_none (project : String) (handles : Handles) (steps : List Step) :
    (Script.mk steps none).perform project handles = performAll project handles steps :=
  bind_pure _

/-- Parts of a script are performed in a row. -/
theorem perform_andThen (project : String) (handles : Handles) (first second : Script) :
    (first.andThen second).perform project handles =
      first.perform project handles >>= fun handles => second.perform project handles := by
  obtain ⟨steps, flaw⟩ := first
  cases flaw with
  | none => simp only [perform, andThen, performAll_append, bind_assoc, pure_bind]
  | some reason =>
      simp only [perform, andThen, bind_assoc]
      rfl

/-- Performs a script, and adds what its steps create to a summary. -/
def tally (project : String) (handles : Handles) (summary : Summary) (script : Script) :
    Pass Summary := do
  let _ ← script.perform project handles
  pure (script.steps.foldl Step.count summary)

/-- What a part of a pass results in, given what its steps result in. -/
def conclude (script : Script) (summary : Summary) :
    Except ProvisionError Handles → Except ProvisionError Summary
  | .error error => .error error
  | .ok _ =>
      match script.flaw with
      | none => .ok (script.steps.foldl Step.count summary)
      | some reason => .error (.malformed reason)

/-- Parts of a script are performed in a row and counted together. -/
theorem tally_andThen (project : String) (handles : Handles) (summary : Summary)
    (first second : Script) :
    (first.andThen second).tally project handles summary =
      first.perform project handles >>= fun handles =>
        second.tally project handles (first.steps.foldl Step.count summary) := by
  simp only [tally, perform_andThen, bind_assoc]
  obtain ⟨steps, flaw⟩ := first
  cases flaw with
  | none => simp only [andThen, List.foldl_append]
  | some reason =>
      -- Nothing is counted, as a script with a flaw never comes to its end.
      simp only [perform, bind_assoc]
      rfl

end Script

/-- The script of a project. -/
def ProjectSpec.script (spec : ProjectSpec) : Script :=
  .ofTopics spec.topics

end PubSubProvisioning
