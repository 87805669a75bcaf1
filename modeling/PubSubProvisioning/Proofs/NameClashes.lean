import PubSubProvisioning.Proofs.FreshService

/-!
# Passes that meet a name again

A project all of whose tokens can be read goes through on a fresh service that registers names
exactly if its topics and dead letter topics have different IDs, and so do its subscriptions and
dead letter subscriptions.  Otherwise the pass ends at the first name of its plan that has occurred
before.  What has been created up to there stays, and nothing else is created.
-/

namespace PubSubProvisioning

variable {σ : Type}

/-! ## IDs of topics and subscriptions -/

namespace Resource

/-- The ID of a topic. -/
def topicId? : Resource → Option String
  | .topic id => some id
  | .subscription _ => none

/-- The ID of a subscription. -/
def subscriptionId? : Resource → Option String
  | .topic _ => none
  | .subscription id => some id

theorem mem_filterMap_topicId? {names : List Resource} {id : String} :
    id ∈ names.filterMap topicId? ↔ .topic id ∈ names := by
  rw [List.mem_filterMap]
  constructor
  · rintro ⟨name, member, same⟩
    cases name with
    | topic other =>
        obtain rfl : other = id := Option.some.inj same
        exact member
    | subscription other => contradiction
  · intro member
    exact ⟨.topic id, member, rfl⟩

theorem mem_filterMap_subscriptionId? {names : List Resource} {id : String} :
    id ∈ names.filterMap subscriptionId? ↔ .subscription id ∈ names := by
  rw [List.mem_filterMap]
  constructor
  · rintro ⟨name, member, same⟩
    cases name with
    | topic other => contradiction
    | subscription other =>
        obtain rfl : other = id := Option.some.inj same
        exact member
  · intro member
    exact ⟨.subscription id, member, rfl⟩

/-- Names are different exactly if those of topics are, and those of subscriptions. -/
theorem nodup_iff {names : List Resource} :
    names.Nodup ↔ (names.filterMap topicId?).Nodup ∧ (names.filterMap subscriptionId?).Nodup := by
  induction names with
  | nil => simp
  | cons name rest inductionHypothesis =>
      rw [List.nodup_cons, inductionHypothesis]
      cases name with
      | topic id =>
          have topics : (Resource.topic id :: rest).filterMap topicId? =
              id :: rest.filterMap topicId? := rfl
          have subscriptions : (Resource.topic id :: rest).filterMap subscriptionId? =
              rest.filterMap subscriptionId? := rfl
          rw [topics, subscriptions, List.nodup_cons, mem_filterMap_topicId?, and_assoc]
      | subscription id =>
          have topics : (Resource.subscription id :: rest).filterMap topicId? =
              rest.filterMap topicId? := rfl
          have subscriptions : (Resource.subscription id :: rest).filterMap subscriptionId? =
              id :: rest.filterMap subscriptionId? := rfl
          rw [topics, subscriptions, List.nodup_cons, mem_filterMap_subscriptionId?, and_left_comm]

end Resource

namespace SubscriptionPlan

/-- The IDs of the subscriptions that are created for one, in order. -/
def subscriptionIds (plan : SubscriptionPlan) : List String :=
  if plan.hasPair then [plan.id ++ deadLetterEnding, plan.id] else [plan.id]

theorem filterMap_subscriptionId?_resources (topic : String) (plan : SubscriptionPlan) :
    (plan.resources topic).filterMap Resource.subscriptionId? = plan.subscriptionIds := by
  rw [resources, subscriptionIds]
  split <;> rfl

theorem filterMap_topicId?_flatMap_resources (topic : String) (plans : List SubscriptionPlan) :
    (plans.flatMap (·.resources topic)).filterMap Resource.topicId? =
      (plans.filter (·.hasPair)).map fun _ => topic ++ deadLetterEnding := by
  induction plans with
  | nil => rfl
  | cons plan rest inductionHypothesis =>
      rw [List.flatMap_cons, List.filterMap_append, inductionHypothesis, resources,
        List.filter_cons]
      split <;> rfl

end SubscriptionPlan

namespace ProjectSpec

/-- The IDs of the topics that a project creates, in order: each topic, and its dead letter topic
once for each subscription with a dead letter pair. -/
def topicIds (spec : ProjectSpec) : List String :=
  spec.topics.flatMap fun topic =>
    topic.id :: (topic.plans.filter (·.hasPair)).map fun _ => topic.id ++ deadLetterEnding

/-- The IDs of the subscriptions that a project creates, in order. -/
def subscriptionIds (spec : ProjectSpec) : List String :=
  spec.topics.flatMap fun topic => topic.plans.flatMap SubscriptionPlan.subscriptionIds

theorem filterMap_topicId?_resources (spec : ProjectSpec) :
    spec.resources.filterMap Resource.topicId? = spec.topicIds := by
  rw [resources, List.filterMap_flatMap, topicIds]
  congr 1
  funext topic
  have own : (Resource.topic topic.id).topicId? = some topic.id := rfl
  rw [TopicSpec.resources, List.filterMap_cons_some own,
    SubscriptionPlan.filterMap_topicId?_flatMap_resources]

theorem filterMap_subscriptionId?_resources (spec : ProjectSpec) :
    spec.resources.filterMap Resource.subscriptionId? = spec.subscriptionIds := by
  rw [resources, List.filterMap_flatMap, subscriptionIds]
  congr 1
  funext topic
  have own : (Resource.topic topic.id).subscriptionId? = none := rfl
  rw [TopicSpec.resources, List.filterMap_cons_none own, List.filterMap_flatMap]
  simp only [SubscriptionPlan.filterMap_subscriptionId?_resources]

/-- A project uses no name twice exactly if no ID of its topics occurs twice, and none of its
subscriptions. -/
theorem nodup_resources_iff_ids (spec : ProjectSpec) :
    spec.resources.Nodup ↔ spec.topicIds.Nodup ∧ spec.subscriptionIds.Nodup := by
  rw [Resource.nodup_iff, filterMap_topicId?_resources, filterMap_subscriptionId?_resources]

end ProjectSpec

/-! ## The service in memory -/

/-- Without rules and aliases of topics, a rehearsal that is told to remember registers what it
creates, whatever project its topics are said to be of. -/
theorem Rehearsal.registers_of_fresh (project : String) (projectAlias : Option String) :
    backend.Registers { remembers := true, projectAlias } project (Holds project) where
  toRemembers := remembers_of_fresh project projectAlias
  keeps := by
    intro state session call name creates held other
    obtain ⟨text, refused⟩ := refuses_held rfl rfl session creates held
    have kept : (backend.answer state call).state.resources = state.resources :=
      resources_of_refused creates refused
    rw [Holds, Holds, kept]
  closes := by
    intro state session name
    have kept : (backend.answer state .close).state.resources = state.resources :=
      state.meet_resources .close state.project
    rw [Holds, Holds, kept]

/-! ## Passes on a service that registers -/

namespace ProjectSpec

variable {backend : Backend σ} {start : σ} {holds : σ → Resource → Prop} {spec : ProjectSpec}

/-- A pass whose tokens can all be read goes through on a fresh service that registers names exactly
if the IDs of its topics are different, and so are those of its subscriptions.  Otherwise it fails,
because a resource exists already, with the first call of its plan whose name has occurred before:
the calls up to that one are made, and the service holds what those before it have created. -/
theorem provision_ends_at_first_clash
    (read : ∀ topic ∈ spec.topics, ∀ token ∈ topic.tokens, ∃ plan,
      SubscriptionPlan.ofToken token = .ok plan)
    (registers : backend.Registers start spec.id holds) :
    let held := spec.provision.run backend start
    let planned := spec.plan.calls.filterMap Call.resource?
    ((∃ summary, held.result = .ok summary) ↔ spec.topicIds.Nodup ∧ spec.subscriptionIds.Nodup) ∧
      (¬(spec.topicIds.Nodup ∧ spec.subscriptionIds.Nodup) → ∃ before clash after error,
        planned = before ++ clash :: after ∧ before.Nodup ∧ clash ∈ before ∧
          (Entry.calls held.transcript).filterMap Call.resource? = before ++ [clash] ∧
          held.result = .error error ∧ error.isAlreadyExists = true ∧
          ∀ name, holds held.state name ↔ name ∈ before) := by
  intro held planned
  have named : planned = spec.resources := filterMap_resource?_plan read
  rw [named, ← nodup_resources_iff_ids]
  constructor
  · exact (provision_succeeds_iff_nodup read registers.toRemembers).1
  · intro repeated
    rcases provision_of_remembers read registers.toRemembers with ⟨distinct, -⟩ |
      ⟨before, clash, after, error, last, request, split, new, again, asked, failed, known, session,
        creating, heldLast, left⟩
    · exact absurd distinct repeated
    · refine ⟨before, clash, after, error, split, new, again, asked, failed, known, ?_⟩
      intro name
      have created : request.resource?.isSome := by rw [creating]; rfl
      have taken : holds last clash := (heldLast clash).mpr again
      rw [left, registers.closes _ (session.created created),
        registers.keeps last session request clash creating taken, heldLast]

/-- Two dead letter pairs on one topic need one dead letter topic, and the second pair does not get
it.  The service says that its topics are of another project, which makes no difference. -/
theorem provision_ends_at_second_pair :
    let spec : ProjectSpec := ⟨"p", [⟨"t", ["r+h+dlq", "s+h+dlq"]⟩]⟩
    let start : Rehearsal := { remembers := true, projectAlias := some "other" }
    let held := spec.provision.run Rehearsal.backend start
    (∀ topic ∈ spec.topics, ∀ token ∈ topic.tokens, ∃ plan,
      SubscriptionPlan.ofToken token = .ok plan) ∧
      Rehearsal.backend.Registers start spec.id (Rehearsal.Holds spec.id) ∧
      spec.topicIds = ["t", "t-dlq", "t-dlq"] ∧
      spec.subscriptionIds = ["r-dlq", "r", "s-dlq", "s"] ∧
      ∃ error, held.result = .error error ∧ error.isAlreadyExists = true ∧
        ∀ name, Rehearsal.Holds spec.id held.state name ↔
          name ∈ [.topic "t", .topic "t-dlq", .subscription "r-dlq", .subscription "r"] := by
  intro spec start held
  have read : ∀ topic ∈ spec.topics, ∀ token ∈ topic.tokens, ∃ plan,
      SubscriptionPlan.ofToken token = .ok plan := by
    intro topic member token tokenMember
    obtain rfl := List.mem_singleton.mp member
    obtain rfl | rfl : token = "r+h+dlq" ∨ token = "s+h+dlq" := by simpa using tokenMember
    · exact ⟨⟨"r", .pushWithDeadLetter ⟨"http://h"⟩⟩, by decide +kernel⟩
    · exact ⟨⟨"s", .pushWithDeadLetter ⟨"http://h"⟩⟩, by decide +kernel⟩
  have registers := Rehearsal.registers_of_fresh spec.id (some "other")
  have repeated : ¬(spec.topicIds.Nodup ∧ spec.subscriptionIds.Nodup) := by decide +kernel
  obtain ⟨before, clash, after, error, planned, distinct, again, asked, failed, known, holds⟩ :=
    (provision_ends_at_first_clash read registers).2 repeated
  have made : (Entry.calls held.transcript).filterMap Call.resource? =
      [.topic "t", .topic "t-dlq", .subscription "r-dlq", .subscription "r"] ++
        [.topic "t-dlq"] := by decide +kernel
  obtain ⟨rfl, -⟩ := List.append_inj' (asked.symm.trans made) rfl
  exact ⟨read, registers, by decide +kernel, by decide +kernel, error, failed, known, holds⟩

end ProjectSpec

end PubSubProvisioning
