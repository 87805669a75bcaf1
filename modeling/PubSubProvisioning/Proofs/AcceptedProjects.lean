import Mathlib.Control.Monad.Basic
import PubSubProvisioning.Proofs.BatchRun
import PubSubProvisioning.Proofs.Review
import PubSubProvisioning.Rehearsal

/-!
# Accepted projects

A review reads every token before the service hears of the project, and the pass reads each of them
again when its turn comes, with resources created already.  A token that could be read once can be
read again: a pass over an accepted project fails only where a call fails, whatever the service
answers.  In a batch, a malformed value is therefore found before any call is made for it.
-/

namespace PubSubProvisioning

variable {σ α β : Type}

/-! ## Parts that fail only where a call fails -/

namespace Pass

/-- Held with a service in any state, a part fails only because a call fails. -/
def FailsByCalls (backend : Backend σ) (pass : Pass α) : Prop :=
  ∀ state error, (pass.hold backend state).result = .error error → error.cause?.isSome

namespace FailsByCalls

variable {backend : Backend σ}

theorem pure (value : α) : FailsByCalls backend (Pure.pure value) := by
  intro state error failed
  rw [hold_pure] at failed
  contradiction

theorem report (event : Event) : FailsByCalls backend (Pass.report event) := by
  intro state error failed
  rw [hold_report] at failed
  contradiction

theorem call {request : Call} {wrap : BackendError → ProvisionError}
    (keeps : ∀ cause, (wrap cause).cause? = some cause) :
    FailsByCalls backend (Pass.call request wrap) := by
  intro state error failed
  rw [hold_call] at failed
  dsimp only at failed
  cases outcome : (backend.answer state request).outcome with
  | error cause =>
      rw [outcome] at failed
      obtain rfl : wrap cause = error := Except.error.inj failed
      rw [keeps]
      rfl
  | ok grant =>
      rw [outcome] at failed
      contradiction

theorem bind {first : Pass α} {next : α → Pass β} (leading : FailsByCalls backend first)
    (following : ∀ value, FailsByCalls backend (next value)) :
    FailsByCalls backend (first >>= next) := by
  intro state error failed
  cases result : (first.hold backend state).result with
  | error cause =>
      rw [hold_bind_of_error result] at failed
      obtain rfl : cause = error := Except.error.inj failed
      exact leading state cause result
  | ok value =>
      rw [hold_bind_of_ok result, Held.after_result] at failed
      exact following value _ error failed

end FailsByCalls

/-! ## The parts of a pass -/

variable {backend : Backend σ}

theorem failsByCalls_createDeadLetterPair (topic : TopicHandle) (subscription : String)
    (endpoint : PushEndpoint) :
    FailsByCalls backend (createDeadLetterPair topic subscription endpoint) := by
  apply (FailsByCalls.report _).bind
  intro _
  apply (FailsByCalls.call fun _ => rfl).bind
  intro deadLetters
  apply (FailsByCalls.report _).bind
  intro _
  apply (FailsByCalls.call fun _ => rfl).bind
  intro _
  exact FailsByCalls.pure deadLetters

theorem failsByCalls_configure (topic : TopicHandle) (plan : SubscriptionPlan)
    (summary : Summary) : FailsByCalls backend (configure topic plan summary) := by
  obtain ⟨id, delivery⟩ := plan
  cases delivery with
  | pull => exact (FailsByCalls.report _).bind fun _ => FailsByCalls.pure _
  | push endpoint => exact (FailsByCalls.report _).bind fun _ => FailsByCalls.pure _
  | pushWithDeadLetter endpoint =>
      apply (FailsByCalls.report _).bind
      intro _
      apply (failsByCalls_createDeadLetterPair topic id endpoint).bind
      intro deadLetters
      exact (FailsByCalls.report _).bind fun _ => FailsByCalls.pure _

theorem failsByCalls_createSubscription (topic : TopicHandle) (plan : SubscriptionPlan)
    (summary : Summary) : FailsByCalls backend (createSubscription topic plan summary) := by
  apply (failsByCalls_configure topic plan summary).bind
  rintro ⟨config, summary⟩
  apply (FailsByCalls.call fun _ => rfl).bind
  intro _
  exact FailsByCalls.pure _

/-- Tokens that can be read leave nothing but calls to fail. -/
theorem failsByCalls_createSubscriptions (topic : TopicHandle) (summary : Summary)
    {tokens : List String}
    (read : ∀ token ∈ tokens, ∃ plan, SubscriptionPlan.ofToken token = .ok plan) :
    FailsByCalls backend (createSubscriptions topic summary tokens) := by
  induction tokens generalizing summary with
  | nil => exact FailsByCalls.pure summary
  | cons token rest inductionHypothesis =>
      obtain ⟨⟨plan, readFirst⟩, readRest⟩ := List.forall_mem_cons.mp read
      rw [createSubscriptions, readFirst, accept_ok_bind]
      apply (failsByCalls_createSubscription topic plan summary).bind
      intro summary
      exact inductionHypothesis summary readRest

theorem failsByCalls_createTopics (project : String) (summary : Summary) {topics : List TopicSpec}
    (read : ∀ topic ∈ topics, ∀ token ∈ topic.tokens, ∃ plan,
      SubscriptionPlan.ofToken token = .ok plan) :
    FailsByCalls backend (createTopics project summary topics) := by
  induction topics generalizing summary with
  | nil => exact FailsByCalls.pure summary
  | cons spec rest inductionHypothesis =>
      obtain ⟨readFirst, readRest⟩ := List.forall_mem_cons.mp read
      rw [createTopics]
      apply (FailsByCalls.report _).bind
      intro _
      apply (FailsByCalls.call fun _ => rfl).bind
      intro topic
      apply (failsByCalls_createSubscriptions topic _ readFirst).bind
      intro summary
      exact inductionHypothesis summary readRest

end Pass

/-! ## Whole passes and batches -/

/-- A pass whose tokens can all be read fails only because a call fails. -/
theorem ProjectSpec.isSome_cause_of_provision {spec : ProjectSpec}
    (read : ∀ topic ∈ spec.topics, ∀ token ∈ topic.tokens, ∃ plan,
      SubscriptionPlan.ofToken token = .ok plan)
    {backend : Backend σ} {start : σ} {error : ProvisionError}
    (failed : (spec.provision.run backend start).result = .error error) :
    error.cause?.isSome := by
  cases opening : (backend.answer start (.connect spec.id)).outcome with
  | error cause =>
      rw [(run_provision_of_refused opening).2.1] at failed
      obtain rfl := Except.error.inj failed
      rfl
  | ok _ =>
      rw [(run_provision_of_opened opening).2.1] at failed
      exact Pass.failsByCalls_createTopics spec.id _ read _ error failed

/-- A pass over an accepted project never finds it malformed. -/
theorem ProjectSpec.provision_ne_malformed {spec : ProjectSpec} (accepted : spec.validate = .ok ())
    (backend : Backend σ) (start : σ) (reason : Malformed) :
    (spec.provision.run backend start).result ≠ .error (.malformed reason) := by
  intro failed
  have caused := isSome_cause_of_provision (read_of_validate accepted) failed
  contradiction

/-- An attempt that fails for a malformed value is over before the pass. -/
theorem ProjectVariable.Fails.hold_of_malformed {backend : Backend σ} {state : σ}
    {entry : ProjectVariable} {reason : Malformed} {calls : List Call}
    (fails : entry.Fails backend state (.malformed reason) calls) :
    entry.provision.hold backend state =
      ⟨.error (.malformed reason), state, (ProjectSpec.remarks entry.value).map .noted⟩ := by
  cases fails with
  | unread _ unread => exact hold_provision_of_error (ProjectSpec.ofCheckedValue_of_unread unread)
  | refused spec _ read refused =>
      exact hold_provision_of_error (ProjectSpec.ofCheckedValue_of_refused read refused)
  | stopped spec _ read accepted failed =>
      exact absurd failed (spec.provision_ne_malformed accepted backend state reason)

/-- Nothing is called for a malformed value.  A pass over a project that validation accepts never
finds it malformed, and a batch that ends with a malformed value has left the service where the
passes for the variables before it did: after them come only events. -/
theorem malformed_value_makes_no_call :
    (∀ spec : ProjectSpec, spec.validate = .ok () →
      ∀ (σ : Type) (backend : Backend σ) (start : σ) (reason : Malformed),
        (spec.provision.run backend start).result ≠ .error (.malformed reason)) ∧
    ∀ (σ : Type) (backend : Backend σ) (start : σ) (entries : List ProjectVariable) (name : String)
      (reason : Malformed),
      ((provisionAll entries).run backend start).result = .error ⟨name, .malformed reason⟩ →
        ∃ k entry events, entries[k]? = some entry ∧ entry.name = name ∧
          let held := (provisionAll entries).run backend start
          let before := (provisionAll (entries.take k)).run backend start
          (∃ summaries, before.result = .ok summaries) ∧ held.state = before.state ∧
            held.transcript = before.transcript ++ (Event.processing name :: events).map .noted := by
  constructor
  · intro spec accepted σ backend start reason
    exact spec.provision_ne_malformed accepted backend start reason
  · intro σ backend start entries name reason failed
    obtain ⟨front, passes, reached, rest, rfl, succession, ends⟩ :=
      exists_succession backend start entries
    obtain ⟨summaries, left, -⟩ := succession.held
    cases rest with
    | nil =>
        rw [List.append_nil, summaries] at failed
        contradiction
    | cons entry others =>
        obtain ⟨error, calls, fails⟩ := ends entry others rfl
        have ended := succession.run_of_fails fails others
        rw [ended] at failed
        obtain ⟨rfl, rfl⟩ := BatchFailure.mk.inj (Except.error.inj failed)
        have attempt := fails.hold_of_malformed
        refine ⟨front.length, entry, ProjectSpec.remarks entry.value, by simp, rfl, ?_⟩
        rw [List.take_left, ended, attempt]
        exact ⟨⟨_, summaries⟩, left.symm, rfl⟩

/-- The second of two variables has a bad token on its second topic: the calls of the batch are
those for the first variable. -/
theorem malformed_value_after_provisioned_one :
    let spec : ProjectSpec := ⟨"p", [⟨"a", ["s"]⟩]⟩
    let entries : List ProjectVariable :=
      [⟨"PUBSUB_PROJECT1", "p,a:s"⟩, ⟨"PUBSUB_PROJECT2", "q,a,b:s+h+retry"⟩]
    let start : Rehearsal := {}
    let held := (provisionAll entries).run Rehearsal.backend start
    spec.validate = .ok () ∧
      (spec.provision.run Rehearsal.backend start).result ≠ .error (.malformed .noTopics) ∧
      held.result =
        .error ⟨"PUBSUB_PROJECT2", .malformed (.unknownOption "s+h+retry" "retry")⟩ ∧
      Entry.calls held.transcript =
        [.connect "p", .createTopic "a", .createSubscription "s" (.pull ⟨"p", "a"⟩), .close] := by
  intro spec entries start held
  have accepted : spec.validate = .ok () := by decide +kernel
  have failed : held.result =
      .error ⟨"PUBSUB_PROJECT2", .malformed (.unknownOption "s+h+retry" "retry")⟩ := by
    decide +kernel
  obtain ⟨well, quiet⟩ := malformed_value_makes_no_call
  obtain ⟨k, entry, events, listed, named, -, -, transcript⟩ :=
    quiet Rehearsal Rehearsal.backend start entries _ _ failed
  obtain rfl : k = 1 := by
    match k, listed with
    | 0, listed =>
        obtain rfl := Option.some.inj listed
        contradiction
    | 1, _ => rfl
    | k + 2, listed => contradiction
  refine ⟨accepted, well spec accepted Rehearsal Rehearsal.backend start .noTopics, failed, ?_⟩
  rw [transcript, Entry.calls_append, Entry.calls_map_noted, List.append_nil]
  decide +kernel

end PubSubProvisioning
