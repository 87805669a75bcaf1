import PubSubProvisioning.Validation

/-!
# What a review accepts

A review accepts a project exactly if every token of every topic can be read and has a push endpoint
that passes, where it has one.  A review that accepts a project remarks on no repeated subscription
exactly if the subscriptions of each topic have different IDs; it does not compare topics.
-/

namespace PubSubProvisioning

variable {α : Type}

/-- What is read and then checked is what can be read and passes. -/
theorem checked_eq_ok_iff {read : Except Malformed α} {check : α → Except Malformed Unit}
    {value : α} :
    (do let found ← read; check found; pure found) = .ok value ↔
      read = .ok value ∧ check value = .ok () := by
  cases read with
  | error reason => simp [bind, Except.bind]
  | ok other =>
      cases checked : check other with
      | error reason =>
          simp only [bind, Except.bind, checked, reduceCtorEq, Except.ok.injEq, false_iff, not_and]
          rintro rfl
          simp [checked]
      | ok _ =>
          simp only [bind, Except.bind, checked, pure, Except.pure, Except.ok.injEq]
          constructor
          · rintro rfl
            exact ⟨rfl, checked⟩
          · exact And.left

/-- What those of the tokens ask for that can be read. -/
def SubscriptionPlan.ofTokens (tokens : List String) : List SubscriptionPlan :=
  tokens.filterMap fun token => (SubscriptionPlan.ofToken token).toOption

/-- What the tokens of a topic ask for. -/
def TopicSpec.plans (topic : TopicSpec) : List SubscriptionPlan :=
  SubscriptionPlan.ofTokens topic.tokens

namespace SubscriptionPlan

theorem ofTokens_cons_of_ok {token : String} {plan : SubscriptionPlan}
    (read : ofToken token = .ok plan) (rest : List String) :
    ofTokens (token :: rest) = plan :: ofTokens rest := by
  simp [ofTokens, read, Except.toOption]

/-- A checked token is one that can be read and whose endpoint passes. -/
theorem ofCheckedToken_eq_ok_iff {token : String} {plan : SubscriptionPlan} :
    ofCheckedToken token = .ok plan ↔ ofToken token = .ok plan ∧ plan.checkEndpoint = .ok () := by
  rw [ofCheckedToken, checked_eq_ok_iff]

end SubscriptionPlan

/-! ## The tokens of one topic -/

/-- No event remarks that a subscription is repeated. -/
def Event.NoRepeats (events : List Event) : Prop :=
  ∀ subscription topic, .subscriptionRepeated subscription topic ∉ events

theorem Event.noRepeats_append_iff {first second : List Event} :
    NoRepeats (first ++ second) ↔ NoRepeats first ∧ NoRepeats second := by
  simp only [NoRepeats, List.mem_append, not_or, forall_and]

/-- A subscription is remarked on if it is among those before it. -/
theorem SubscriptionPlan.noRepeats_remarks_iff {plan : SubscriptionPlan} {seen : List String}
    {topic : String} : Event.NoRepeats (plan.remarks seen topic) ↔ plan.id ∉ seen := by
  obtain ⟨id, delivery⟩ := plan
  cases delivery <;> by_cases repeated : id ∈ seen <;>
    simp [Event.NoRepeats, remarks, repeated]

theorem Review.andThen_verdict_eq_ok_iff {first second : Review} :
    (first.andThen second).verdict = .ok () ↔ first.verdict = .ok () ∧ second.verdict = .ok () := by
  rw [andThen]
  cases first.verdict with
  | error reason => simp
  | ok _ => simp

/-- Where the first review accepts, the remarks of both are made. -/
theorem Review.andThen_events {first : Review} (accepted : first.verdict = .ok ())
    (second : Review) : (first.andThen second).events = first.events ++ second.events := by
  rw [andThen, accepted]

theorem reviewTokens_verdict_eq_ok_iff {topic : String} {seen tokens : List String} :
    (reviewTokens topic seen tokens).verdict = .ok () ↔
      ∀ token ∈ tokens, ∃ plan, SubscriptionPlan.ofCheckedToken token = .ok plan := by
  induction tokens generalizing seen with
  | nil => simp [reviewTokens, Review.clean]
  | cons token rest inductionHypothesis =>
      rw [reviewTokens, List.forall_mem_cons]
      cases checked : SubscriptionPlan.ofCheckedToken token with
      | error reason => simp
      | ok plan => simp [Review.andThen_verdict_eq_ok_iff, inductionHypothesis]

/-- The remarks on the tokens of a topic compare each subscription with those before it. -/
theorem noRepeats_reviewTokens_iff {topic : String} {seen tokens : List String}
    (accepted : (reviewTokens topic seen tokens).verdict = .ok ()) :
    Event.NoRepeats (reviewTokens topic seen tokens).events ↔
      ((SubscriptionPlan.ofTokens tokens).map (·.id)).Nodup ∧
        ∀ plan ∈ SubscriptionPlan.ofTokens tokens, plan.id ∉ seen := by
  induction tokens generalizing seen with
  | nil => simp [reviewTokens, Review.clean, SubscriptionPlan.ofTokens, Event.NoRepeats]
  | cons token rest inductionHypothesis =>
      rw [reviewTokens] at accepted ⊢
      cases checked : SubscriptionPlan.ofCheckedToken token with
      | error reason => simp [checked] at accepted
      | ok plan =>
          rw [checked] at accepted
          have acceptedRest := (Review.andThen_verdict_eq_ok_iff.mp accepted).2
          have read := (SubscriptionPlan.ofCheckedToken_eq_ok_iff.mp checked).1
          dsimp only
          rw [Review.andThen_events rfl, Event.noRepeats_append_iff,
            SubscriptionPlan.noRepeats_remarks_iff, inductionHypothesis acceptedRest,
            SubscriptionPlan.ofTokens_cons_of_ok read, List.map_cons, List.nodup_cons,
            List.forall_mem_cons]
          constructor
          · rintro ⟨unseen, distinct, others⟩
            have fresh : plan.id ∉ (SubscriptionPlan.ofTokens rest).map (·.id) := by
              intro member
              obtain ⟨other, otherMem, same⟩ := List.mem_map.mp member
              exact others other otherMem (by simp [same])
            have unseenOthers : ∀ other ∈ SubscriptionPlan.ofTokens rest, other.id ∉ seen := by
              intro other otherMem seenOther
              exact others other otherMem (List.mem_cons_of_mem _ seenOther)
            exact ⟨⟨fresh, distinct⟩, unseen, unseenOthers⟩
          · rintro ⟨⟨fresh, distinct⟩, unseen, others⟩
            have apart : ∀ other ∈ SubscriptionPlan.ofTokens rest, other.id ∉ plan.id :: seen := by
              intro other otherMem seenOther
              rcases List.mem_cons.mp seenOther with same | seenOther
              · exact fresh (List.mem_map.mpr ⟨other, otherMem, same⟩)
              · exact others other otherMem seenOther
            exact ⟨unseen, distinct, apart⟩

/-! ## Whole projects -/

theorem reviewTopics_verdict_eq_ok_iff {topics : List TopicSpec} :
    (reviewTopics topics).verdict = .ok () ↔
      ∀ topic ∈ topics, (reviewTokens topic.id [] topic.tokens).verdict = .ok () := by
  induction topics with
  | nil => simp [reviewTopics, Review.clean]
  | cons topic rest inductionHypothesis =>
      rw [reviewTopics, Review.andThen_verdict_eq_ok_iff, inductionHypothesis, List.forall_mem_cons]

theorem noRepeats_reviewTopics_iff {topics : List TopicSpec}
    (accepted : (reviewTopics topics).verdict = .ok ()) :
    Event.NoRepeats (reviewTopics topics).events ↔
      ∀ topic ∈ topics, (topic.plans.map (·.id)).Nodup := by
  induction topics with
  | nil => simp [reviewTopics, Review.clean, Event.NoRepeats]
  | cons topic rest inductionHypothesis =>
      rw [reviewTopics, Review.andThen_verdict_eq_ok_iff] at accepted
      obtain ⟨acceptedFirst, acceptedRest⟩ := accepted
      rw [reviewTopics, Review.andThen_events acceptedFirst, Event.noRepeats_append_iff,
        noRepeats_reviewTokens_iff acceptedFirst, inductionHypothesis acceptedRest,
        List.forall_mem_cons]
      simp [TopicSpec.plans]

namespace ProjectSpec

/-- A project is accepted exactly if all of its tokens can be read and all of its endpoints pass. -/
theorem validate_eq_ok_iff {spec : ProjectSpec} :
    spec.validate = .ok () ↔
      ∀ topic ∈ spec.topics, ∀ token ∈ topic.tokens, ∃ plan,
        SubscriptionPlan.ofToken token = .ok plan ∧ plan.checkEndpoint = .ok () := by
  simp only [validate, review, reviewTopics_verdict_eq_ok_iff, reviewTokens_verdict_eq_ok_iff,
    SubscriptionPlan.ofCheckedToken_eq_ok_iff]

/-- All tokens of an accepted project can be read. -/
theorem read_of_validate {spec : ProjectSpec} (accepted : spec.validate = .ok ()) :
    ∀ topic ∈ spec.topics, ∀ token ∈ topic.tokens, ∃ plan,
      SubscriptionPlan.ofToken token = .ok plan := by
  intro topic member token tokenMember
  obtain ⟨plan, read, -⟩ := validate_eq_ok_iff.mp accepted topic member token tokenMember
  exact ⟨plan, read⟩

/-- An accepted project gets no remark on a repeated subscription exactly if no topic lists one
twice. -/
theorem noRepeats_review_iff {spec : ProjectSpec} (accepted : spec.validate = .ok ()) :
    Event.NoRepeats spec.review.events ↔
      ∀ topic ∈ spec.topics, (topic.plans.map (·.id)).Nodup :=
  noRepeats_reviewTopics_iff accepted

end ProjectSpec

end PubSubProvisioning
