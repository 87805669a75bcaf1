import PubSubProvisioning.Dialogue

/-!
# Calls made in order

A list of calls that is fixed beforehand can be put to a service one after another, up to the first
one that it refuses.  This is what a plan comes to once there is a service to carry it out.

The states that a service passes through in a session are those that calls to create resources lead
to after a successful `connect`.  In a session for a project the service should grant topics of that
project, under the IDs that they were asked for.
-/

namespace PubSubProvisioning

variable {σ : Type}

/-! ## Pursuing a list of calls -/

/-- What becomes of calls that are made in order: those that were made, why the last of them was
refused if it was, and the state that they leave behind. -/
structure Pursuit (σ : Type) where
  made : List Call
  refusal : Option BackendError
  state : σ

namespace Backend

/-- Makes calls one after another, up to and including the first one that is refused. -/
def pursue (backend : Backend σ) (state : σ) : List Call → Pursuit σ
  | [] => ⟨[], none, state⟩
  | call :: rest =>
      let answer := backend.answer state call
      match answer.outcome with
      | .error cause => ⟨[call], some cause, answer.state⟩
      | .ok _ =>
          let later := backend.pursue answer.state rest
          { later with made := call :: later.made }

@[simp]
theorem pursue_nil (backend : Backend σ) (state : σ) :
    backend.pursue state [] = ⟨[], none, state⟩ :=
  rfl

theorem pursue_cons_of_error {backend : Backend σ} {state : σ} {call : Call}
    {cause : BackendError} (refused : (backend.answer state call).outcome = .error cause)
    (rest : List Call) :
    backend.pursue state (call :: rest) =
      ⟨[call], some cause, (backend.answer state call).state⟩ := by
  simp only [pursue, refused]

theorem pursue_cons_of_ok {backend : Backend σ} {state : σ} {call : Call} {grant : call.Grant}
    (granted : (backend.answer state call).outcome = .ok grant) (rest : List Call) :
    backend.pursue state (call :: rest) =
      let later := backend.pursue (backend.answer state call).state rest
      ⟨call :: later.made, later.refusal, later.state⟩ := by
  simp only [pursue, granted]

/-- A refusal ends the pursuit, whatever else was to follow. -/
theorem pursue_append_of_refusal {backend : Backend σ} {state : σ} {first : List Call}
    {cause : BackendError} (refused : (backend.pursue state first).refusal = some cause)
    (second : List Call) :
    backend.pursue state (first ++ second) = backend.pursue state first := by
  induction first generalizing state with
  | nil => simp at refused
  | cons call rest inductionHypothesis =>
      cases outcome : (backend.answer state call).outcome with
      | error cause =>
          rw [List.cons_append, pursue_cons_of_error outcome, pursue_cons_of_error outcome]
      | ok grant =>
          rw [pursue_cons_of_ok outcome] at refused
          rw [List.cons_append, pursue_cons_of_ok outcome, pursue_cons_of_ok outcome,
            inductionHypothesis refused]

/-- Where all of the first calls are granted, the others are made after them. -/
theorem pursue_append_of_granted {backend : Backend σ} {state : σ} {first : List Call}
    (granted : (backend.pursue state first).refusal = none) (second : List Call) :
    backend.pursue state (first ++ second) =
      let later := backend.pursue (backend.pursue state first).state second
      ⟨(backend.pursue state first).made ++ later.made, later.refusal, later.state⟩ := by
  induction first generalizing state with
  | nil => rfl
  | cons call rest inductionHypothesis =>
      cases outcome : (backend.answer state call).outcome with
      | error cause =>
          rw [pursue_cons_of_error outcome] at granted
          contradiction
      | ok grant =>
          rw [pursue_cons_of_ok outcome] at granted
          rw [List.cons_append, pursue_cons_of_ok outcome, pursue_cons_of_ok outcome,
            inductionHypothesis granted]
          rfl

end Backend

/-! ## Sessions -/

/-- What a project consists of, as far as names go. -/
inductive Resource where
  | topic (id : String)
  | subscription (id : String)
  deriving DecidableEq, Repr

/-- The resource that a call asks to create. -/
def Call.resource? : Call → Option Resource
  | .createTopic id => some (.topic id)
  | .createSubscription id _ => some (.subscription id)
  | .connect _ | .close => none

namespace Backend

/-- The states of a session for `project` that is opened in the state `start`: any calls to create
resources may have been made since. -/
inductive InSession (backend : Backend σ) (start : σ) (project : String) : σ → Prop where
  | opened : (backend.answer start (.connect project)).outcome = .ok () →
      InSession backend start project (backend.answer start (.connect project)).state
  | created {state : σ} {call : Call} : InSession backend start project state →
      call.resource?.isSome → InSession backend start project (backend.answer state call).state

/-- In a session for `project`, topics are granted as topics of that project, with the IDs that they
were asked for. -/
def Echoes (backend : Backend σ) (start : σ) (project : String) : Prop :=
  ∀ state, backend.InSession start project state → ∀ id handle,
    (backend.answer state (.createTopic id)).outcome = .ok handle → handle = ⟨project, id⟩

end Backend

end PubSubProvisioning
