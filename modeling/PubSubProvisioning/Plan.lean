import PubSubProvisioning.Provision

/-!
# Plans

The calls that create a project, under the assumption that the service grants each of them under the
names that it is asked for.  A plan is made without a service, and says beforehand what a pass will
ask of one; it ends where the pass would find a token that cannot be read.
-/

namespace PubSubProvisioning

/-- The calls that create a subscription of `topic`. -/
def SubscriptionPlan.calls (topic : TopicHandle) (plan : SubscriptionPlan) : List Call :=
  match plan.delivery with
  | .pull => [.createSubscription plan.id (.pull topic)]
  | .push endpoint => [.createSubscription plan.id (.push topic endpoint.url)]
  | .pushWithDeadLetter endpoint =>
      let pair := DeadLetterPair.of topic.id plan.id endpoint
      let deadLetters : TopicHandle := ⟨topic.project, pair.topic⟩
      [.createTopic pair.topic,
       .createSubscription pair.subscription (.push deadLetters pair.url),
       .createSubscription plan.id
         ((SubscriptionConfig.push topic endpoint.url).withDeadLetters deadLetters)]

/-- A part of a plan: its calls, and whether all that they are for could be read. -/
structure PlannedCalls where
  calls : List Call
  complete : Bool
  deriving DecidableEq, Repr

namespace PlannedCalls

/-- Nothing to plan. -/
def empty : PlannedCalls :=
  ⟨[], true⟩

/-- One part of a plan after another, unless the plan ends with the first one. -/
def andThen (first second : PlannedCalls) : PlannedCalls :=
  if first.complete then ⟨first.calls ++ second.calls, second.complete⟩ else first

@[simp]
theorem empty_andThen (second : PlannedCalls) : empty.andThen second = second :=
  rfl

@[simp]
theorem andThen_empty (first : PlannedCalls) : first.andThen empty = first := by
  cases first with
  | mk calls complete => cases complete <;> simp [andThen, empty]

/-- Parts of a plan can be put together in either order of grouping. -/
theorem andThen_assoc (first second third : PlannedCalls) :
    (first.andThen second).andThen third = first.andThen (second.andThen third) := by
  cases first with
  | mk calls complete =>
      cases complete with
      | false => simp [andThen]
      | true => cases second with
        | mk others finished => cases finished <;> simp [andThen]

/-- The plan for the subscription that a token asks for. -/
def ofToken (topic : TopicHandle) (token : String) : PlannedCalls :=
  match SubscriptionPlan.ofToken token with
  | .ok plan => ⟨plan.calls topic, true⟩
  | .error _ => ⟨[], false⟩

/-- The plan for the subscriptions that tokens ask for. -/
def ofTokens (topic : TopicHandle) : List String → PlannedCalls
  | [] => empty
  | token :: rest => (ofToken topic token).andThen (ofTokens topic rest)

/-- The plan for a topic with its subscriptions. -/
def ofTopic (project : String) (spec : TopicSpec) : PlannedCalls :=
  (PlannedCalls.mk [.createTopic spec.id] true).andThen (ofTokens ⟨project, spec.id⟩ spec.tokens)

/-- The plan for topics with their subscriptions. -/
def ofTopics (project : String) : List TopicSpec → PlannedCalls
  | [] => empty
  | spec :: rest => (ofTopic project spec).andThen (ofTopics project rest)

end PlannedCalls

/-- The plan for a project. -/
def ProjectSpec.plan (spec : ProjectSpec) : PlannedCalls :=
  .ofTopics spec.id spec.topics

end PubSubProvisioning
