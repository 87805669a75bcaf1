import Mathlib.Data.List.Nodup
import PubSubProvisioning.Plan
import PubSubProvisioning.Proofs.Pursuit
import PubSubProvisioning.Proofs.Review

/-!
# The names that a plan uses

A plan whose tokens can all be read names a topic for each topic of the project, a subscription for
each token, and another topic and subscription for each dead letter pair.  No name is used twice
exactly if the project keeps its names apart, literal ones and derived ones alike.
-/

namespace PubSubProvisioning

/-! ## Names in the order of a plan -/

namespace SubscriptionPlan

/-- Whether a subscription comes with a dead letter pair. -/
def hasPair (plan : SubscriptionPlan) : Bool :=
  match plan.delivery with
  | .pushWithDeadLetter _ => true
  | .pull | .push _ => false

/-- What is created for a subscription of `topic`, in that order. -/
def resources (topic : String) (plan : SubscriptionPlan) : List Resource :=
  if plan.hasPair then
    [.topic (topic ++ deadLetterEnding), .subscription (plan.id ++ deadLetterEnding),
      .subscription plan.id]
  else [.subscription plan.id]

theorem filterMap_resource?_calls (topic : TopicHandle) (plan : SubscriptionPlan) :
    (plan.calls topic).filterMap Call.resource? = plan.resources topic.id := by
  obtain ⟨id, delivery⟩ := plan
  cases delivery <;> rfl

end SubscriptionPlan

/-- What is created for a topic and its subscriptions, in that order. -/
def TopicSpec.resources (topic : TopicSpec) : List Resource :=
  .topic topic.id :: topic.plans.flatMap (·.resources topic.id)

/-- What is created for a project, in that order. -/
def ProjectSpec.resources (spec : ProjectSpec) : List Resource :=
  spec.topics.flatMap TopicSpec.resources

/-! ## Plans that are not cut short -/

namespace PlannedCalls

theorem ofTokens_of_read {topic : TopicHandle} {tokens : List String}
    (read : ∀ token ∈ tokens, ∃ plan, SubscriptionPlan.ofToken token = .ok plan) :
    ofTokens topic tokens =
      ⟨(SubscriptionPlan.ofTokens tokens).flatMap (·.calls topic), true⟩ := by
  induction tokens with
  | nil => rfl
  | cons token rest inductionHypothesis =>
      obtain ⟨⟨plan, readFirst⟩, readRest⟩ := List.forall_mem_cons.mp read
      rw [ofTokens, ofToken, readFirst, inductionHypothesis readRest,
        SubscriptionPlan.ofTokens_cons_of_ok readFirst]
      rfl

theorem ofTopics_of_read {project : String} {topics : List TopicSpec}
    (read : ∀ topic ∈ topics, ∀ token ∈ topic.tokens, ∃ plan,
      SubscriptionPlan.ofToken token = .ok plan) :
    ofTopics project topics =
      ⟨topics.flatMap fun topic =>
        .createTopic topic.id :: topic.plans.flatMap (·.calls ⟨project, topic.id⟩), true⟩ := by
  induction topics with
  | nil => rfl
  | cons topic rest inductionHypothesis =>
      obtain ⟨readFirst, readRest⟩ := List.forall_mem_cons.mp read
      rw [ofTopics, ofTopic, ofTokens_of_read readFirst, inductionHypothesis readRest]
      rfl

end PlannedCalls

namespace ProjectSpec

/-- The plan of a project all of whose tokens can be read asks for the resources of the project in
order. -/
theorem filterMap_resource?_plan {spec : ProjectSpec}
    (read : ∀ topic ∈ spec.topics, ∀ token ∈ topic.tokens, ∃ plan,
      SubscriptionPlan.ofToken token = .ok plan) :
    spec.plan.calls.filterMap Call.resource? = spec.resources := by
  rw [plan, PlannedCalls.ofTopics_of_read read, resources, List.filterMap_flatMap]
  congr 1
  funext topic
  have first : (Call.createTopic topic.id).resource? = some (.topic topic.id) := rfl
  rw [TopicSpec.resources, List.filterMap_cons_some first, List.filterMap_flatMap]
  simp only [SubscriptionPlan.filterMap_resource?_calls]

end ProjectSpec

/-! ## Names that are used once -/

/-- A project keeps its names apart if no topic has two dead letter pairs, no two topics list the
same subscription, no topic has the ID of a dead letter topic, and no subscription has that of a
dead letter subscription. -/
structure ProjectSpec.NamesApart (spec : ProjectSpec) : Prop where
  onePair : ∀ topic ∈ spec.topics,
    topic.plans.Pairwise fun first second => ¬(first.hasPair ∧ second.hasPair)
  subscriptions : spec.topics.Pairwise fun first second =>
    ∀ plan ∈ first.plans, ∀ other ∈ second.plans, plan.id ≠ other.id
  deadLetterTopics : ∀ topic ∈ spec.topics, (∃ plan ∈ topic.plans, plan.hasPair) →
    ∀ other ∈ spec.topics, other.id ≠ topic.id ++ deadLetterEnding
  deadLetterSubscriptions : ∀ topic ∈ spec.topics, ∀ plan ∈ topic.plans, plan.hasPair →
    ∀ second ∈ spec.topics, ∀ other ∈ second.plans, other.id ≠ plan.id ++ deadLetterEnding

/-- A name never equals the one derived from it. -/
theorem ne_append_deadLetterEnding (id : String) : id ≠ id ++ deadLetterEnding := by
  intro same
  have lengths := congrArg String.length same
  simp [String.length_append, deadLetterEnding] at lengths

namespace SubscriptionPlan

theorem mem_resources {plan : SubscriptionPlan} {topic : String} {resource : Resource} :
    resource ∈ plan.resources topic ↔
      resource = .subscription plan.id ∨
        plan.hasPair ∧ (resource = .topic (topic ++ deadLetterEnding) ∨
          resource = .subscription (plan.id ++ deadLetterEnding)) := by
  rw [resources]
  cases plan.hasPair with
  | true => simp [or_comm, or_assoc]
  | false => simp

/-- What is created for one subscription has different names. -/
theorem nodup_resources (topic : String) (plan : SubscriptionPlan) :
    (plan.resources topic).Nodup := by
  rw [resources]
  split
  · simp [Ne.symm (ne_append_deadLetterEnding plan.id)]
  · simp

/-- Neither of two subscriptions has the name of the other one or of its dead letter subscription.
-/
def Apart (first second : SubscriptionPlan) : Prop :=
  first.id ≠ second.id ∧ (first.hasPair → second.id ≠ first.id ++ deadLetterEnding) ∧
    (second.hasPair → first.id ≠ second.id ++ deadLetterEnding)

/-- Among subscriptions that are apart, none has the name of a dead letter subscription. -/
theorem ne_of_pairwise_apart {plans : List SubscriptionPlan} (apart : plans.Pairwise Apart)
    {plan other : SubscriptionPlan} (member : plan ∈ plans) (otherMember : other ∈ plans)
    (pair : plan.hasPair) : other.id ≠ plan.id ++ deadLetterEnding := by
  have all := List.Pairwise.forall_of_forall_of_flip
    (R := fun first second : SubscriptionPlan =>
      first.hasPair → second.id ≠ first.id ++ deadLetterEnding)
    (fun plan _ _ => ne_append_deadLetterEnding plan.id)
    (apart.imp fun {_ _} apart => apart.2.1) (apart.imp fun {_ _} apart => apart.2.2)
  exact all member otherMember pair

/-- What two subscriptions have in common is a name of theirs, or the dead letter topic. -/
theorem disjoint_resources_iff {first second : SubscriptionPlan} {topic other : String} :
    (first.resources topic).Disjoint (second.resources other) ↔
      first.Apart second ∧ ¬(first.hasPair ∧ second.hasPair ∧ topic = other) := by
  rw [resources, resources, Apart]
  cases first.hasPair <;> cases second.hasPair <;>
    simp [eq_comm] <;> grind

end SubscriptionPlan

namespace TopicSpec

/-- Whether a topic comes with a dead letter topic. -/
def HasPair (topic : TopicSpec) : Prop :=
  ∃ plan ∈ topic.plans, plan.hasPair

/-- The names of one topic are different as long as its subscriptions are apart and at most one of
them has a dead letter pair. -/
theorem nodup_resources_iff {topic : TopicSpec} :
    topic.resources.Nodup ↔
      topic.plans.Pairwise SubscriptionPlan.Apart ∧
        topic.plans.Pairwise fun first second => ¬(first.hasPair ∧ second.hasPair) := by
  have own : .topic topic.id ∉ topic.plans.flatMap (·.resources topic.id) := by
    intro member
    obtain ⟨plan, -, member⟩ := List.mem_flatMap.mp member
    simp [SubscriptionPlan.mem_resources, ne_append_deadLetterEnding] at member
  rw [resources, List.nodup_cons, List.nodup_flatMap, ← List.pairwise_and_iff]
  constructor
  · rintro ⟨-, -, disjoint⟩
    apply disjoint.imp
    intro first second apart
    simpa using SubscriptionPlan.disjoint_resources_iff.mp apart
  · intro apart
    have disjoint : topic.plans.Pairwise fun first second =>
        (first.resources topic.id).Disjoint (second.resources topic.id) := by
      apply apart.imp
      intro first second apart
      exact SubscriptionPlan.disjoint_resources_iff.mpr (by simpa using apart)
    exact ⟨own, fun plan _ => plan.nodup_resources topic.id, disjoint⟩

theorem mem_resources {topic : TopicSpec} {resource : Resource} :
    resource ∈ topic.resources ↔
      resource = .topic topic.id ∨
        ∃ plan ∈ topic.plans, resource ∈ plan.resources topic.id := by
  simp [resources]

/-- Two topics use no name in common as long as neither has the name of the other one or of its dead
letter topic, and their subscriptions are apart. -/
theorem disjoint_resources_iff {first second : TopicSpec} (different : first.id ≠ second.id) :
    first.resources.Disjoint second.resources ↔
      (first.HasPair → second.id ≠ first.id ++ deadLetterEnding) ∧
        (second.HasPair → first.id ≠ second.id ++ deadLetterEnding) ∧
        ∀ plan ∈ first.plans, ∀ other ∈ second.plans, plan.Apart other := by
  constructor
  · intro disjoint
    constructor
    · rintro ⟨plan, member, pair⟩ same
      have derived : .topic second.id ∈ plan.resources first.id :=
        SubscriptionPlan.mem_resources.mpr (.inr ⟨pair, .inl (by rw [same])⟩)
      exact disjoint (mem_resources.mpr (.inr ⟨plan, member, derived⟩))
        (mem_resources.mpr (.inl rfl))
    constructor
    · rintro ⟨plan, member, pair⟩ same
      have derived : .topic first.id ∈ plan.resources second.id :=
        SubscriptionPlan.mem_resources.mpr (.inr ⟨pair, .inl (by rw [same])⟩)
      exact disjoint (mem_resources.mpr (.inl rfl))
        (mem_resources.mpr (.inr ⟨plan, member, derived⟩))
    · intro plan member other otherMember
      have apart : (plan.resources first.id).Disjoint (other.resources second.id) :=
        fun resource here there =>
          disjoint (mem_resources.mpr (.inr ⟨plan, member, here⟩))
            (mem_resources.mpr (.inr ⟨other, otherMember, there⟩))
      exact (SubscriptionPlan.disjoint_resources_iff.mp apart).1
  · rintro ⟨firstApart, secondApart, apart⟩ resource here there
    rcases mem_resources.mp here with rfl | ⟨plan, member, here⟩
    · rcases mem_resources.mp there with same | ⟨other, otherMember, there⟩
      · exact different (Resource.topic.inj same)
      · obtain ⟨pair, same⟩ : other.hasPair ∧ first.id = second.id ++ deadLetterEnding := by
          simpa [SubscriptionPlan.mem_resources] using there
        exact secondApart ⟨other, otherMember, pair⟩ same
    · rcases mem_resources.mp there with rfl | ⟨other, otherMember, there⟩
      · obtain ⟨pair, same⟩ : plan.hasPair ∧ second.id = first.id ++ deadLetterEnding := by
          simpa [SubscriptionPlan.mem_resources] using here
        exact firstApart ⟨plan, member, pair⟩ same
      · have disjoint := SubscriptionPlan.disjoint_resources_iff.mpr
          ⟨apart plan member other otherMember, fun both => different both.2.2⟩
        exact disjoint here there

end TopicSpec

namespace ProjectSpec

variable {spec : ProjectSpec}

/-- A project that uses no name twice keeps its names apart. -/
theorem namesApart_of_nodup_resources (topics : (spec.topics.map (·.id)).Nodup)
    (distinct : spec.resources.Nodup) : spec.NamesApart := by
  rw [resources, List.nodup_flatMap] at distinct
  obtain ⟨within, disjoint⟩ := distinct
  have different : spec.topics.Pairwise fun first second => first.id ≠ second.id :=
    List.pairwise_map.mp topics
  have across := (different.and disjoint).imp fun {_ _} both =>
    (TopicSpec.disjoint_resources_iff both.1).mp both.2
  constructor
  case onePair =>
    intro topic member
    exact (TopicSpec.nodup_resources_iff.mp (within topic member)).2
  case subscriptions =>
    apply across.imp
    rintro first second ⟨-, -, apart⟩ plan member other otherMember
    exact (apart plan member other otherMember).1
  case deadLetterTopics =>
    intro topic member pair other otherMember
    have all := List.Pairwise.forall_of_forall_of_flip
      (R := fun first second : TopicSpec =>
        first.HasPair → second.id ≠ first.id ++ deadLetterEnding)
      (fun topic _ _ => ne_append_deadLetterEnding topic.id)
      (across.imp fun {_ _} apart => apart.1) (across.imp fun {_ _} apart => apart.2.1)
    exact all member otherMember pair
  case deadLetterSubscriptions =>
    intro topic member plan planMember pair second secondMember other otherMember
    -- Two subscriptions of one topic are apart as well, so a topic may be compared with itself.
    have reflexive : ∀ topic ∈ spec.topics, ∀ plan ∈ topic.plans, ∀ other ∈ topic.plans,
        plan.hasPair → other.id ≠ plan.id ++ deadLetterEnding := by
      intro topic member plan planMember other otherMember
      have apart := (TopicSpec.nodup_resources_iff.mp (within topic member)).1
      exact SubscriptionPlan.ne_of_pairwise_apart apart planMember otherMember
    have all := List.Pairwise.forall_of_forall_of_flip
      (R := fun first second : TopicSpec => ∀ plan ∈ first.plans, ∀ other ∈ second.plans,
        plan.hasPair → other.id ≠ plan.id ++ deadLetterEnding)
      reflexive
      (across.imp fun {_ _} apart plan planMember other otherMember =>
        (apart.2.2 plan planMember other otherMember).2.1)
      (across.imp fun {_ _} apart plan planMember other otherMember =>
        (apart.2.2 other otherMember plan planMember).2.2)
    exact all member secondMember plan planMember other otherMember pair

/-- A project that keeps its names apart uses none twice, as long as its topics differ and so do the
subscriptions of each. -/
theorem nodup_resources_of_namesApart (topics : (spec.topics.map (·.id)).Nodup)
    (listed : ∀ topic ∈ spec.topics, (topic.plans.map (·.id)).Nodup) (apart : spec.NamesApart) :
    spec.resources.Nodup := by
  have different : spec.topics.Pairwise fun first second => first.id ≠ second.id :=
    List.pairwise_map.mp topics
  rw [resources, List.nodup_flatMap]
  constructor
  · intro topic member
    have unlike : topic.plans.Pairwise fun first second => first.id ≠ second.id :=
      List.pairwise_map.mp (listed topic member)
    have single := apart.deadLetterSubscriptions topic member
    apply TopicSpec.nodup_resources_iff.mpr
    constructor
    · apply unlike.imp_of_mem
      intro first second firstMember secondMember differ
      exact ⟨differ, fun pair => single first firstMember pair topic member second secondMember,
        fun pair => single second secondMember pair topic member first firstMember⟩
    · exact apart.onePair topic member
  · apply (different.and apart.subscriptions).imp_of_mem
    rintro first second firstMember secondMember ⟨differ, unlisted⟩
    apply (TopicSpec.disjoint_resources_iff differ).mpr
    constructor
    · exact fun pair => apart.deadLetterTopics first firstMember pair second secondMember
    constructor
    · exact fun pair => apart.deadLetterTopics second secondMember pair first firstMember
    · intro plan planMember other otherMember
      exact ⟨unlisted plan planMember other otherMember,
        fun pair => apart.deadLetterSubscriptions first firstMember plan planMember pair second
          secondMember other otherMember,
        fun pair => apart.deadLetterSubscriptions second secondMember other otherMember pair first
          firstMember plan planMember⟩

/-- Where topics differ, and the subscriptions of each topic differ, no name of a project is used
twice exactly if the project keeps its names apart. -/
theorem nodup_resources_iff_namesApart (topics : (spec.topics.map (·.id)).Nodup)
    (listed : ∀ topic ∈ spec.topics, (topic.plans.map (·.id)).Nodup) :
    spec.resources.Nodup ↔ spec.NamesApart :=
  ⟨namesApart_of_nodup_resources topics, nodup_resources_of_namesApart topics listed⟩

end ProjectSpec

end PubSubProvisioning
