import PubSubProvisioning.Proofs.BatchRun
import PubSubProvisioning.Proofs.Stepwise

/-!
# Services that concur

Two services concur if they grant the same calls with the same results, and refuse the same calls
for whatever reasons.  A batch goes the same way with either of them: it makes the same calls, and
ends with the same summaries or with the same failure, but for the reason that the service gave.
-/

namespace PubSubProvisioning

variable {σ τ α β ε : Type}

/-! ## Outcomes that agree -/

/-- Outcomes that agree: both are the same value, or both are errors, and these are related. -/
inductive AgreeUpTo (related : ε → ε → Prop) : Except ε α → Except ε α → Prop where
  | value (value : α) : AgreeUpTo related (.ok value) (.ok value)
  | errors {error other : ε} : related error other → AgreeUpTo related (.error error) (.error other)

theorem AgreeUpTo.map {related : ε → ε → Prop} {outcome other : Except ε α}
    (agree : AgreeUpTo related outcome other) (change : α → β) :
    AgreeUpTo related (outcome.map change) (other.map change) := by
  cases agree with
  | value value => exact .value (change value)
  | errors same => exact .errors same

/-- Without values there is nothing to agree on but which outcome is an error. -/
theorem AgreeUpTo.of_eq_ok_iff {outcome other : Except ε Unit}
    (same : outcome = .ok () ↔ other = .ok ()) : AgreeUpTo (fun _ _ => True) outcome other := by
  cases outcome with
  | ok _ =>
      rw [same.mp rfl]
      exact .value ()
  | error _ =>
      cases other with
      | ok _ => nomatch same.mpr rfl
      | error _ => exact .errors trivial

namespace ProvisionError

/-- The error with another cause, where it has one. -/
def withCause (cause : BackendError) : ProvisionError → ProvisionError
  | .malformed reason => .malformed reason
  | .connectFailed project _ => .connectFailed project cause
  | .topicFailed project topic _ => .topicFailed project topic cause
  | .subscriptionFailed project topic subscription endpoint _ =>
      .subscriptionFailed project topic subscription endpoint cause
  | .deadLetterTopicFailed project topic deadLetterTopic _ =>
      .deadLetterTopicFailed project topic deadLetterTopic cause
  | .deadLetterSubscriptionFailed project deadLetterTopic deadLetterSubscription endpoint _ =>
      .deadLetterSubscriptionFailed project deadLetterTopic deadLetterSubscription endpoint cause

/-- Errors that are the same but for the error of the service that they report. -/
def AgreeButForCause (error other : ProvisionError) : Prop :=
  ∀ cause, error.withCause cause = other.withCause cause

theorem AgreeButForCause.refl (error : ProvisionError) : error.AgreeButForCause error :=
  fun _ => rfl

end ProvisionError

/-- The errors of one step agree. -/
theorem Step.agree_error (project : String) (handles : Handles) (step : Step)
    (cause other : BackendError) :
    (step.error project handles cause).AgreeButForCause (step.error project handles other) := by
  intro _
  cases step <;> rfl

/-- Failures of one variable that are the same but for the error of the service. -/
def BatchFailure.AgreeButForCause (failure other : BatchFailure) : Prop :=
  failure.variableName = other.variableName ∧ failure.error.AgreeButForCause other.error

/-- Dialogues that have been held with the same calls, and whose results agree. -/
structure Held.Agree (errors : ε → ε → Prop) (states : σ → τ → Prop) (held : Held σ (Except ε α))
    (again : Held τ (Except ε α)) : Prop where
  calls : Entry.calls held.transcript = Entry.calls again.transcript
  result : AgreeUpTo errors held.result again.result
  state : states held.state again.state

/-! ## Services that concur -/

/-- Services whose states are related grant the same calls with the same results, and their states
stay related. -/
def Backend.Concurs (first : Backend σ) (second : Backend τ) (states : σ → τ → Prop) : Prop :=
  ∀ state other call, states state other →
    AgreeUpTo (fun _ _ => True) (first.answer state call).outcome (second.answer other call).outcome ∧
      states (first.answer state call).state (second.answer other call).state

section Runs

variable {first : Backend σ} {second : Backend τ} {states : σ → τ → Prop} {state : σ} {other : τ}

theorem hold_performAll_of_concurs (concurs : first.Concurs second states) (project : String)
    (handles : Handles) (steps : List Step) (start : states state other) :
    ((performAll project handles steps).hold first state).Agree ProvisionError.AgreeButForCause states
      ((performAll project handles steps).hold second other) := by
  induction steps generalizing handles state other with
  | nil => exact ⟨rfl, .value handles, start⟩
  | cons step rest inductionHypothesis =>
      obtain ⟨outcomes, after⟩ := concurs state other (step.call handles) start
      generalize held : (first.answer state (step.call handles)).outcome = outcome at outcomes
      generalize again : (second.answer other (step.call handles)).outcome = outcome' at outcomes
      cases outcomes with
      | errors _ =>
          obtain ⟨answered, result, left⟩ := hold_performAll_cons_of_error project held rest
          obtain ⟨answered', result', left'⟩ := hold_performAll_cons_of_error project again rest
          refine ⟨?_, ?_, ?_⟩
          · rw [Entry.calls_of_answered answered, Entry.calls_of_answered answered']
            rfl
          · rw [result, result']
            exact .errors (step.agree_error project handles _ _)
          · rw [left, left']
            exact after
      | value granted =>
          obtain ⟨answered, result, left⟩ := hold_performAll_cons_of_ok project held rest
          obtain ⟨answered', result', left'⟩ := hold_performAll_cons_of_ok project again rest
          have later := inductionHypothesis (step.next handles granted) after
          refine ⟨?_, ?_, ?_⟩
          · simp only [Entry.calls_of_answered answered, Entry.calls_of_answered answered',
              List.map_cons, Entry.map_call_answered, later.calls]
          · rw [result, result']
            exact later.result
          · rw [left, left']
            exact later.state

/-- A script concludes from results that agree what agrees. -/
theorem Script.agree_conclude (script : Script) (summary : Summary)
    {result result' : Except ProvisionError Handles}
    (agree : AgreeUpTo ProvisionError.AgreeButForCause result result') :
    AgreeUpTo ProvisionError.AgreeButForCause (script.conclude summary result)
      (script.conclude summary result') := by
  cases agree with
  | errors same => exact .errors same
  | value handles =>
      simp only [conclude]
      cases script.flaw with
      | none => exact .value _
      | some reason => exact .errors (.refl _)

theorem ProjectSpec.provision_of_concurs (concurs : first.Concurs second states)
    (start : states state other) (spec : ProjectSpec) :
    (spec.provision.run first state).Agree ProvisionError.AgreeButForCause states
      (spec.provision.run second other) := by
  obtain ⟨outcomes, opened⟩ := concurs state other (.connect spec.id) start
  generalize held : (first.answer state (.connect spec.id)).outcome = outcome at outcomes
  generalize again : (second.answer other (.connect spec.id)).outcome = outcome' at outcomes
  cases outcomes with
  | errors _ =>
      obtain ⟨answered, result, left⟩ := answered_provision_of_refused held
      obtain ⟨answered', result', left'⟩ := answered_provision_of_refused again
      refine ⟨?_, ?_, ?_⟩
      · rw [Entry.calls_of_answered answered, Entry.calls_of_answered answered']
        rfl
      · rw [result, result']
        exact .errors fun _ => rfl
      · rw [left, left']
        exact opened
  | value _ =>
      obtain ⟨answered, result, left⟩ := hold_steps_of_opened held
      obtain ⟨answered', result', left'⟩ := hold_steps_of_opened again
      have performed := hold_performAll_of_concurs concurs spec.id (.initial spec.id)
        spec.script.steps opened
      refine ⟨?_, ?_, ?_⟩
      · simp only [Entry.calls_of_answered answered, Entry.calls_of_answered answered', sessionLog,
          List.map_cons, List.map_append, List.map_nil, Entry.map_call_answered, performed.calls]
      · rw [result, result']
        exact spec.script.agree_conclude _ performed.result
      · rw [left, left']
        exact (concurs _ _ .close performed.state).2

theorem ProjectVariable.hold_provision_of_concurs (concurs : first.Concurs second states)
    (start : states state other) (entry : ProjectVariable) :
    (entry.provision.hold first state).Agree ProvisionError.AgreeButForCause states
      (entry.provision.hold second other) := by
  cases checked : ProjectSpec.ofCheckedValue entry.value with
  | error reason =>
      rw [hold_provision_of_error checked, hold_provision_of_error checked]
      exact ⟨rfl, .errors (.refl _), start⟩
  | ok spec =>
      rw [hold_provision_of_ok checked, hold_provision_of_ok checked]
      have ofPass := spec.provision_of_concurs concurs start
      exact ⟨by simp [ofPass.calls], ofPass.result, ofPass.state⟩

/-- A batch goes the same way with services that concur. -/
theorem provisionAll_of_concurs (concurs : first.Concurs second states)
    (start : states state other) (entries : List ProjectVariable) :
    ((provisionAll entries).run first state).Agree BatchFailure.AgreeButForCause states
      ((provisionAll entries).run second other) := by
  induction entries generalizing state other with
  | nil => exact ⟨rfl, .value [], start⟩
  | cons entry rest inductionHypothesis =>
      obtain ⟨calls, outcomes, after⟩ := entry.hold_provision_of_concurs concurs start
      generalize held : (entry.provision.hold first state).result = outcome at outcomes
      generalize again : (entry.provision.hold second other).result = outcome' at outcomes
      cases outcomes with
      | errors same =>
          rw [run_provisionAll_cons_of_error held, run_provisionAll_cons_of_error again]
          refine ⟨?_, .errors ⟨rfl, same⟩, after⟩
          rw [Entry.calls_noted_cons, Entry.calls_noted_cons, calls]
      | value summary =>
          have later := inductionHypothesis after
          rw [run_provisionAll_cons_of_ok held, run_provisionAll_cons_of_ok again]
          refine ⟨?_, later.result.map _, later.state⟩
          simp only [Entry.calls_noted_cons, Entry.calls_append, calls, later.calls]

end Runs

end PubSubProvisioning
