import PubSubProvisioning.Plan
import PubSubProvisioning.Proofs.Pass

/-!
# Passes follow their plans

Every part of a pass is planned.  As long as the service grants what it is asked for, under the
names that it was asked for, the part makes the calls of its plan in order; it stops with the first
one that is refused or, where the plan is cut short, with the reason why a token could not be read.

`Follows.bind` puts parts together in a row.  Each function of a pass then has one lemma, which goes
through the function part by part, and the lemma on a list of parts is an induction on that list.
-/

namespace PubSubProvisioning

variable {σ α β : Type}

namespace Pass

/-! ## Following a plan -/

/-- How a part of a pass ends: with the cause of the first refusal, with a value, or, where its plan
is cut short, with the reason why. -/
def EndsAs (refusal : Option BackendError) (complete : Bool) (yields : α → Prop)
    (result : Except ProvisionError α) : Prop :=
  match refusal, complete with
  | some cause, _ => ∃ error, result = .error error ∧ error.cause? = some cause
  | none, true => ∃ value, result = .ok value ∧ yields value
  | none, false => ∃ reason, result = .error (.malformed reason)

/-- A part that has been held came to the same as pursuing the calls of its plan. -/
structure Matches (backend : Backend σ) (state : σ) (plan : PlannedCalls) (yields : α → Prop)
    (held : Held σ (Except ProvisionError α)) : Prop where
  calls : Entry.calls held.transcript = (backend.pursue state plan.calls).made
  reaches : held.state = (backend.pursue state plan.calls).state
  ends : EndsAs (backend.pursue state plan.calls).refusal plan.complete yields held.result

/-- Wherever in a session it is held, a part comes to its plan, and the session goes on. -/
def Follows (backend : Backend σ) (start : σ) (project : String) (plan : PlannedCalls)
    (yields : α → Prop) (pass : Pass α) : Prop :=
  ∀ state, backend.InSession start project state →
    Matches backend state plan yields (pass.hold backend state) ∧
      backend.InSession start project (pass.hold backend state).state

variable {backend : Backend σ} {start : σ} {project : String}

theorem EndsAs.imp {refusal : Option BackendError} {complete : Bool} {yields weaker : α → Prop}
    {result : Except ProvisionError α} (ends : EndsAs refusal complete yields result)
    (weaken : ∀ value, yields value → weaker value) : EndsAs refusal complete weaker result := by
  match refusal, complete with
  | some _, _ => exact ends
  | none, true =>
      obtain ⟨value, succeeded, holds⟩ := ends
      exact ⟨value, succeeded, weaken value holds⟩
  | none, false => exact ends

theorem Follows.imp {plan : PlannedCalls} {yields weaker : α → Prop} {pass : Pass α}
    (follows : Follows backend start project plan yields pass)
    (weaken : ∀ value, yields value → weaker value) :
    Follows backend start project plan weaker pass := by
  intro state session
  obtain ⟨held, kept⟩ := follows state session
  exact ⟨⟨held.calls, held.reaches, held.ends.imp weaken⟩, kept⟩

/-! ## Single parts -/

theorem Follows.pure (value : α) {yields : α → Prop} (holds : yields value) :
    Follows backend start project .empty yields (Pure.pure value) := by
  intro state session
  rw [hold_pure]
  exact ⟨⟨rfl, rfl, value, rfl, holds⟩, session⟩

theorem Follows.report (event : Event) :
    Follows backend start project .empty (fun _ => True) (Pass.report event) := by
  intro state session
  rw [hold_report]
  exact ⟨⟨rfl, rfl, (), rfl, trivial⟩, session⟩

/-- Reading a value makes no call, and a value that cannot be read cuts the plan short. -/
theorem Follows.accept (value : Except Malformed α) :
    Follows backend start project ⟨[], value.isOk⟩ (fun read => value = .ok read)
      (Pass.accept value) := by
  intro state session
  rw [hold_accept]
  cases value with
  | error reason => exact ⟨⟨rfl, rfl, reason, rfl⟩, session⟩
  | ok read => exact ⟨⟨rfl, rfl, read, rfl, rfl⟩, session⟩

/-- A call to create a resource is a plan of its own. -/
theorem Follows.call {request : Call} (creating : request.resource?.isSome)
    {wrap : BackendError → ProvisionError} (keeps : ∀ cause, (wrap cause).cause? = some cause) :
    Follows backend start project ⟨[request], true⟩
      (fun grant => ∃ state, backend.InSession start project state ∧
        (backend.answer state request).outcome = .ok grant)
      (Pass.call request wrap) := by
  intro state session
  rw [hold_call]
  constructor
  · cases outcome : (backend.answer state request).outcome with
    | error cause =>
        constructor <;> rw [Backend.pursue_cons_of_error outcome]
        · simp [Entry.calls]
        · exact ⟨wrap cause, by simp only [outcome]; rfl, keeps cause⟩
    | ok grant =>
        constructor <;> rw [Backend.pursue_cons_of_ok outcome]
        · simp [Entry.calls]
        · simp
        · exact ⟨grant, by simp only [outcome]; rfl, state, session, outcome⟩
  · exact session.created creating

/-! ## Parts in a row -/

/-- Parts in a row follow their plans in a row. -/
theorem Follows.bind {first : Pass α} {next : α → Pass β} {plan others : PlannedCalls}
    {between : α → Prop} {yields : β → Prop}
    (leading : Follows backend start project plan between first)
    (following : ∀ value, between value →
      Follows backend start project others yields (next value)) :
    Follows backend start project (plan.andThen others) yields (first >>= next) := by
  intro state session
  obtain ⟨held, kept⟩ := leading state session
  have ends := held.ends
  obtain ⟨calls, complete⟩ := plan
  cases refusal : (backend.pursue state calls).refusal with
  | some cause =>
      -- The others are not made, so the plan may name them or not.
      rw [refusal] at ends
      obtain ⟨error, failed, caused⟩ := ends
      have unchanged : backend.pursue state (PlannedCalls.andThen ⟨calls, complete⟩ others).calls =
          backend.pursue state calls := by
        cases complete with
        | false => rfl
        | true => exact Backend.pursue_append_of_refusal refusal others.calls
      rw [hold_bind_of_error failed]
      constructor
      · constructor <;> rw [unchanged]
        · exact held.calls
        · exact held.reaches
        · rw [refusal]
          exact ⟨error, rfl, caused⟩
      · exact kept
  | none =>
      rw [refusal] at ends
      cases complete with
      | false =>
          obtain ⟨reason, failed⟩ := ends
          rw [hold_bind_of_error failed]
          have cutShort : EndsAs (backend.pursue state calls).refusal false yields
              (.error (.malformed reason)) := by
            rw [refusal]
            exact ⟨reason, rfl⟩
          exact ⟨⟨held.calls, held.reaches, cutShort⟩, kept⟩
      | true =>
          obtain ⟨value, succeeded, holds⟩ := ends
          obtain ⟨rest, keptOn⟩ := following value holds _ kept
          rw [hold_bind_of_ok succeeded]
          rw [held.reaches] at rest keptOn ⊢
          constructor
          · constructor <;>
              simp only [PlannedCalls.andThen, if_true, Backend.pursue_append_of_granted refusal]
            · simpa [Held.after, held.calls] using rest.calls
            · exact rest.reaches
            · exact rest.ends
          · exact keptOn

/-- A plan that begins with a call is followed by the part that makes it and what comes after. -/
theorem Follows.bind_first {first : Pass α} {next : α → Pass β} {request : Call}
    {calls : List Call} {complete : Bool} {between : α → Prop} {yields : β → Prop}
    (leading : Follows backend start project ⟨[request], true⟩ between first)
    (following : ∀ value, between value →
      Follows backend start project ⟨calls, complete⟩ yields (next value)) :
    Follows backend start project ⟨request :: calls, complete⟩ yields (first >>= next) :=
  leading.bind following

/-- What makes no call after a part leaves its plan as it is. -/
theorem Follows.bind_empty {first : Pass α} {next : α → Pass β} {plan : PlannedCalls}
    {between : α → Prop} {yields : β → Prop}
    (leading : Follows backend start project plan between first)
    (following : ∀ value, between value →
      Follows backend start project .empty yields (next value)) :
    Follows backend start project plan yields (first >>= next) := by
  have both := leading.bind following
  rwa [PlannedCalls.andThen_empty] at both

/-- What is reported changes nothing about a plan. -/
theorem Follows.after_report {event : Event} {next : Unit → Pass α} {plan : PlannedCalls}
    {yields : α → Prop} (follows : Follows backend start project plan yields (next ())) :
    Follows backend start project plan yields (Pass.report event >>= next) :=
  (Follows.report event).bind fun () _ => follows

end Pass

end PubSubProvisioning
