import Mathlib.Control.Monad.Basic
import PubSubProvisioning.Proofs.Following
import PubSubProvisioning.Proofs.Rehearsal

/-!
# A pass refines its plan

The plan of a project is made without a service.  Where the service names what it grants as it was
asked to, a pass makes exactly the calls of that plan, up to and including the first one that is
refused, between the `connect` and the `close` of one session.

The proof goes through the functions of a pass from the inside out: the dead letter pair, what comes
before a subscription, the subscription, the tokens of a topic, the topics of a project.
-/

namespace PubSubProvisioning

variable {σ : Type}

/-! ## A subscription and what it refers to -/

namespace SubscriptionPlan

/-- The configuration of the subscription that a plan is for. -/
def config (topic : TopicHandle) (plan : SubscriptionPlan) : SubscriptionConfig :=
  match plan.delivery with
  | .pull => .pull topic
  | .push endpoint => .push topic endpoint.url
  | .pushWithDeadLetter endpoint =>
      (SubscriptionConfig.push topic endpoint.url).withDeadLetters
        ⟨topic.project, topic.id ++ deadLetterEnding⟩

/-- The calls for what the configuration refers to. -/
def pairCalls (topic : TopicHandle) (plan : SubscriptionPlan) : List Call :=
  match plan.delivery with
  | .pull | .push _ => []
  | .pushWithDeadLetter endpoint =>
      let pair := DeadLetterPair.of topic.id plan.id endpoint
      [.createTopic pair.topic,
       .createSubscription pair.subscription (.push ⟨topic.project, pair.topic⟩ pair.url)]

/-- A subscription is created last of what its plan names. -/
theorem calls_eq_pairCalls_append (topic : TopicHandle) (plan : SubscriptionPlan) :
    plan.calls topic =
      plan.pairCalls topic ++ [.createSubscription plan.id (plan.config topic)] := by
  obtain ⟨id, delivery⟩ := plan
  cases delivery <;> rfl

end SubscriptionPlan

namespace Pass

variable {backend : Backend σ} {start : σ} {project : String}

/-- Creating a topic yields the topic of that ID. -/
theorem follows_createTopic (echoes : backend.Echoes start project) (id : String)
    (wrap : BackendError → ProvisionError) (keeps : ∀ cause, (wrap cause).cause? = some cause) :
    Follows backend start project ⟨[.createTopic id], true⟩ (fun topic => topic = ⟨project, id⟩)
      (Pass.call (.createTopic id) wrap) := by
  apply (Follows.call rfl keeps).imp
  rintro topic ⟨state, session, granted⟩
  exact echoes state session id topic granted

theorem follows_createDeadLetterPair (echoes : backend.Echoes start project) (topic : String)
    (subscription : String) (endpoint : PushEndpoint) :
    let pair := DeadLetterPair.of topic subscription endpoint
    Follows backend start project
      ⟨[.createTopic pair.topic,
        .createSubscription pair.subscription (.push ⟨project, pair.topic⟩ pair.url)], true⟩
      (fun deadLetters => deadLetters = ⟨project, pair.topic⟩)
      (createDeadLetterPair ⟨project, topic⟩ subscription endpoint) := by
  intro pair
  apply Follows.after_report
  apply (follows_createTopic echoes pair.topic
    (.deadLetterTopicFailed project topic pair.topic) fun _ => rfl).bind_first
  rintro _ rfl
  apply Follows.after_report
  apply (Follows.call rfl fun _ => rfl).bind_empty
  intro _ _
  exact Follows.pure _ rfl

theorem follows_configure (echoes : backend.Echoes start project) (topic : String)
    (plan : SubscriptionPlan) (summary : Summary) :
    Follows backend start project ⟨plan.pairCalls ⟨project, topic⟩, true⟩
      (fun configured => configured.1 = plan.config ⟨project, topic⟩)
      (configure ⟨project, topic⟩ plan summary) := by
  obtain ⟨id, delivery⟩ := plan
  cases delivery with
  | pull => exact Follows.after_report (Follows.pure _ rfl)
  | push endpoint => exact Follows.after_report (Follows.pure _ rfl)
  | pushWithDeadLetter endpoint =>
      apply Follows.after_report
      apply (follows_createDeadLetterPair echoes topic id endpoint).bind_empty
      rintro _ rfl
      exact Follows.after_report (Follows.pure _ rfl)

theorem follows_createSubscription (echoes : backend.Echoes start project) (topic : String)
    (plan : SubscriptionPlan) (summary : Summary) :
    Follows backend start project ⟨plan.calls ⟨project, topic⟩, true⟩ (fun _ => True)
      (createSubscription ⟨project, topic⟩ plan summary) := by
  rw [SubscriptionPlan.calls_eq_pairCalls_append]
  change Follows backend start project
    (PlannedCalls.andThen ⟨plan.pairCalls ⟨project, topic⟩, true⟩
      ⟨[.createSubscription plan.id (plan.config ⟨project, topic⟩)], true⟩) _ _
  apply (follows_configure echoes topic plan summary).bind
  rintro ⟨_, summary⟩ rfl
  apply (Follows.call rfl fun _ => rfl).bind_empty
  intro _ _
  exact Follows.pure _ trivial

/-! ## Tokens and topics -/

theorem follows_createSubscriptions (echoes : backend.Echoes start project) (topic : String)
    (summary : Summary) (tokens : List String) :
    Follows backend start project (.ofTokens ⟨project, topic⟩ tokens) (fun _ => True)
      (createSubscriptions ⟨project, topic⟩ summary tokens) := by
  induction tokens generalizing summary with
  | nil => exact Follows.pure _ trivial
  | cons token rest inductionHypothesis =>
      rw [PlannedCalls.ofTokens, PlannedCalls.ofToken, createSubscriptions]
      cases read : SubscriptionPlan.ofToken token with
      | error reason =>
          apply (Follows.accept (.error reason)).bind
          intro plan unread
          contradiction
      | ok plan =>
          change Follows backend start project
            (PlannedCalls.empty.andThen (PlannedCalls.andThen ⟨plan.calls ⟨project, topic⟩, true⟩
              (.ofTokens ⟨project, topic⟩ rest))) _ _
          apply (Follows.accept (.ok plan)).bind
          rintro _ ⟨⟩
          apply (follows_createSubscription echoes topic plan summary).bind
          intro summary _
          exact inductionHypothesis summary

theorem follows_createTopics (echoes : backend.Echoes start project) (summary : Summary)
    (specs : List TopicSpec) :
    Follows backend start project (.ofTopics project specs) (fun _ => True)
      (createTopics project summary specs) := by
  induction specs generalizing summary with
  | nil => exact Follows.pure _ trivial
  | cons spec rest inductionHypothesis =>
      rw [PlannedCalls.ofTopics, PlannedCalls.ofTopic, PlannedCalls.andThen_assoc, createTopics]
      apply Follows.after_report
      apply (follows_createTopic echoes spec.id (.topicFailed project spec.id) fun _ => rfl).bind
      rintro _ rfl
      apply (follows_createSubscriptions echoes spec.id _ spec.tokens).bind
      intro summary _
      exact inductionHypothesis summary

end Pass

/-! ## Whole passes -/

namespace ProjectSpec

variable {backend : Backend σ} {start : σ}

/-- In a session that has been opened, a pass does what pursuing its plan does. -/
theorem matches_plan {spec : ProjectSpec} (echoes : backend.Echoes start spec.id)
    (opened : (backend.answer start (.connect spec.id)).outcome = .ok ()) :
    Pass.Matches backend (backend.answer start (.connect spec.id)).state spec.plan (fun _ => True)
      ((createTopics spec.id { project := spec.id } spec.topics).hold backend
        (backend.answer start (.connect spec.id)).state) :=
  (Pass.follows_createTopics echoes _ spec.topics _ (.opened opened)).1

/-- The calls of a pass in such a session are the session's own and those of its plan. -/
theorem calls_provision_of_opened {spec : ProjectSpec} (echoes : backend.Echoes start spec.id)
    (opened : (backend.answer start (.connect spec.id)).outcome = .ok ()) :
    Entry.calls (spec.provision.run backend start).transcript =
      .connect spec.id ::
        ((backend.pursue (backend.answer start (.connect spec.id)).state spec.plan.calls).made ++
          [.close]) := by
  rw [(run_provision_of_opened opened).1, (matches_plan echoes opened).calls]

/-- Such a pass ends as its plan does. -/
theorem provision_endsAs_of_opened {spec : ProjectSpec} (echoes : backend.Echoes start spec.id)
    (opened : (backend.answer start (.connect spec.id)).outcome = .ok ()) :
    Pass.EndsAs
      (backend.pursue (backend.answer start (.connect spec.id)).state spec.plan.calls).refusal
      spec.plan.complete (fun _ => True) (spec.provision.run backend start).result := by
  rw [(run_provision_of_opened opened).2.1]
  exact (matches_plan echoes opened).ends

/-- A pass refines its plan.  Where `connect` is refused it is the only call; otherwise the calls of
the plan follow, up to and including the first one that is refused, and then `close`.  The pass
succeeds exactly if no call was refused and the plan is complete; else it fails with the cause of
the refusal, or with the reason why the plan is cut short. -/
theorem provision_refines_plan (backend : Backend σ) (start : σ) (spec : ProjectSpec)
    (echoes : backend.Echoes start spec.id) :
    let held := spec.provision.run backend start
    let opening := backend.answer start (.connect spec.id)
    (∀ cause, opening.outcome = .error cause →
      Entry.calls held.transcript = [.connect spec.id] ∧
        held.result = .error (.connectFailed spec.id cause)) ∧
    (opening.outcome = .ok () →
      let pursuit := backend.pursue opening.state spec.plan.calls
      Entry.calls held.transcript = .connect spec.id :: (pursuit.made ++ [.close]) ∧
        Pass.EndsAs pursuit.refusal spec.plan.complete (fun _ => True) held.result) := by
  intro held opening
  constructor
  · intro cause refused
    obtain ⟨calls, result, -⟩ := run_provision_of_refused refused
    exact ⟨calls, result⟩
  · intro opened pursuit
    constructor
    · exact calls_provision_of_opened echoes opened
    · exact provision_endsAs_of_opened echoes opened

/-- The dead letter pair of the first topic stands behind its subscription.  A service that refuses
the dead letter subscription of the second pair sees nothing of what was to follow, not even the
token that cannot be read. -/
theorem provision_refused_in_dead_letter_pair :
    let start : Rehearsal :=
      { rules := [⟨.createSubscription, some "r-dlq", 0, none, .other "no", 0⟩] }
    let spec : ProjectSpec := ⟨"p", [⟨"t", ["s+h|80+dlq"]⟩, ⟨"u", ["r+g+dlq", "late+"]⟩]⟩
    let held := spec.provision.run Rehearsal.backend start
    Rehearsal.backend.Echoes start spec.id ∧
      Entry.calls held.transcript =
        [.connect "p", .createTopic "t", .createTopic "t-dlq",
          .createSubscription "s-dlq" ⟨⟨"p", "t-dlq"⟩, some "http://h:80/dead", none⟩,
          .createSubscription "s"
            ⟨⟨"p", "t"⟩, some "http://h:80", some ⟨"projects/p/topics/t-dlq", 5⟩⟩,
          .createTopic "u", .createTopic "u-dlq",
          .createSubscription "r-dlq" ⟨⟨"p", "u-dlq"⟩, some "http://g/dead", none⟩, .close] ∧
      held.result = .error (.deadLetterSubscriptionFailed "p" "u-dlq" "r-dlq" "http://g/dead"
        (.other "no")) := by
  intro start spec held
  have echoes : Rehearsal.backend.Echoes start spec.id := Rehearsal.echoes rfl rfl
  have opened : (Rehearsal.backend.answer start (.connect spec.id)).outcome = .ok () := rfl
  have refined := ((provision_refines_plan Rehearsal.backend start spec echoes).2 opened).1
  refine ⟨echoes, ?_, by decide +kernel⟩
  rw [refined]
  decide +kernel

end ProjectSpec

end PubSubProvisioning
