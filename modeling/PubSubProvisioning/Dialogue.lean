import PubSubProvisioning.Event

/-!
# Dialogues with the service

A dialogue is what the program does as seen by the service: calls, each followed by what depends on
its answer, with events reported in between.  It is a value, so the same dialogue can be held with
any service; `Dialogue.run` holds it with one that is given as a state machine, and keeps a
transcript.
-/

namespace PubSubProvisioning

/-! ## Calls and their answers -/

/-- A call to the service.  What is created belongs to the project of the last `connect`. -/
inductive Call where
  | connect (project : String)
  | createTopic (id : String)
  | createSubscription (id : String) (config : SubscriptionConfig)
  | close
  deriving DecidableEq, Repr

/-- What a call yields where it succeeds. -/
@[reducible]
def Call.Grant : Call → Type
  | .connect _ => Unit
  | .createTopic _ => TopicHandle
  | .createSubscription _ _ => SubscriptionHandle
  | .close => Unit

/-- How a call ends. -/
abbrev Call.Outcome (call : Call) : Type :=
  Except BackendError call.Grant

/-- An answer of a service: the outcome of the call, the events that the service reports of it, and
the state that the call leaves behind. -/
structure Answer (σ : Type) (call : Call) where
  outcome : call.Outcome
  events : List Event
  state : σ

/-- A service, with a state that may hold anything it remembers of earlier calls. -/
structure Backend (σ : Type) where
  answer : σ → (call : Call) → Answer σ call

/-! ## Dialogues -/

/-- A program that calls the service and reports events until it has a result. -/
inductive Dialogue (α : Type) : Type where
  | done (result : α)
  | note (event : Event) (next : Dialogue α)
  | ask (call : Call) (next : call.Outcome → Dialogue α)

namespace Dialogue

variable {α β σ : Type}

/-- Goes on with another dialogue, once there is a result. -/
def bind (first : Dialogue α) (next : α → Dialogue β) : Dialogue β :=
  match first with
  | .done result => next result
  | .note event rest => .note event (rest.bind next)
  | .ask call rest => .ask call fun outcome => (rest outcome).bind next

instance : Monad Dialogue where
  pure := .done
  bind := .bind

@[simp]
theorem pure_eq (result : α) : (pure result : Dialogue α) = .done result :=
  rfl

@[simp]
theorem done_bind (result : α) (next : α → Dialogue β) :
    (Dialogue.done result >>= next) = next result :=
  rfl

@[simp]
theorem note_bind (event : Event) (rest : Dialogue α) (next : α → Dialogue β) :
    (Dialogue.note event rest >>= next) = .note event (rest >>= next) :=
  rfl

@[simp]
theorem ask_bind (call : Call) (rest : call.Outcome → Dialogue α) (next : α → Dialogue β) :
    (Dialogue.ask call rest >>= next) = .ask call fun outcome => rest outcome >>= next :=
  rfl

/-- A dialogue whose result is handed on unchanged is that dialogue. -/
theorem bind_done (dialogue : Dialogue α) : dialogue >>= .done = dialogue := by
  induction dialogue with
  | done result => rfl
  | note event rest inductionHypothesis => rw [note_bind, inductionHypothesis]
  | ask call rest inductionHypothesis =>
      rw [ask_bind]
      congr 1
      funext outcome
      exact inductionHypothesis outcome

/-- Three dialogues in a row can be put together in either order of grouping. -/
theorem bind_bind {γ : Type} (first : Dialogue α) (next : α → Dialogue β) (last : β → Dialogue γ) :
    first >>= next >>= last = first >>= fun value => next value >>= last := by
  induction first with
  | done result => rfl
  | note event rest inductionHypothesis => simp only [note_bind, inductionHypothesis]
  | ask call rest inductionHypothesis => simp only [ask_bind, inductionHypothesis]

instance : LawfulMonad Dialogue :=
  LawfulMonad.mk' Dialogue bind_done (fun _ _ => rfl) bind_bind

/-- Reports an event. -/
def report (event : Event) : Dialogue Unit :=
  .note event (.done ())

/-- Reports events in turn. -/
def reportAll : List Event → Dialogue Unit
  | [] => .done ()
  | event :: rest => .note event (reportAll rest)

/-- Makes a call. -/
def call (call : Call) : Dialogue call.Outcome :=
  .ask call .done

end Dialogue

/-! ## Transcripts -/

/-- A call with its outcome. -/
structure AnsweredCall where
  call : Call
  outcome : call.Outcome

/-- One entry of a transcript. -/
inductive Entry where
  | noted (event : Event)
  | called (call : Call) (outcome : call.Outcome)

namespace Entry

/-- The events of a transcript. -/
def events (transcript : List Entry) : List Event :=
  transcript.filterMap fun
    | .noted event => some event
    | .called _ _ => none

/-- The calls of a transcript. -/
def calls (transcript : List Entry) : List Call :=
  transcript.filterMap fun
    | .noted _ => none
    | .called call _ => some call

/-- The calls of a transcript, each with its outcome. -/
def answered (transcript : List Entry) : List AnsweredCall :=
  transcript.filterMap fun
    | .noted _ => none
    | .called call outcome => some ⟨call, outcome⟩

@[simp]
theorem events_append (first second : List Entry) :
    events (first ++ second) = events first ++ events second := by
  simp [events]

@[simp]
theorem calls_append (first second : List Entry) :
    calls (first ++ second) = calls first ++ calls second := by
  simp [calls]

@[simp]
theorem answered_append (first second : List Entry) :
    answered (first ++ second) = answered first ++ answered second := by
  simp [answered]

/-- Without their outcomes, these are the calls of the transcript. -/
theorem map_call_answered (transcript : List Entry) :
    (answered transcript).map (·.call) = calls transcript := by
  induction transcript with
  | nil => rfl
  | cons entry rest inductionHypothesis =>
      cases entry with
      | noted event => exact inductionHypothesis
      | called call outcome => exact congrArg (call :: ·) inductionHypothesis

theorem calls_of_answered {transcript : List Entry} {log : List AnsweredCall}
    (shape : answered transcript = log) : calls transcript = log.map (·.call) := by
  rw [← shape, map_call_answered]

end Entry

/-- A dialogue that has been held: its result, the state that it leaves behind, and its
transcript. -/
structure Held (σ α : Type) where
  result : α
  state : σ
  transcript : List Entry

/-- The same with entries before the transcript. -/
def Held.after {σ α : Type} (entries : List Entry) (held : Held σ α) : Held σ α :=
  { held with transcript := entries ++ held.transcript }

namespace Dialogue

variable {α β σ : Type}

/-- Holds a dialogue with a service in a given state. -/
def run (backend : Backend σ) : Dialogue α → σ → Held σ α
  | .done result, state => ⟨result, state, []⟩
  | .note event next, state => (run backend next state).after [.noted event]
  | .ask call next, state =>
      let answer := backend.answer state call
      (run backend (next answer.outcome) answer.state).after
        (answer.events.map .noted ++ [.called call answer.outcome])

@[simp]
theorem run_done (backend : Backend σ) (result : α) (state : σ) :
    (Dialogue.done result).run backend state = ⟨result, state, []⟩ :=
  rfl

/-- Two dialogues in a row are held one after the other. -/
theorem run_bind (backend : Backend σ) (first : Dialogue α) (next : α → Dialogue β) (state : σ) :
    (first >>= next).run backend state =
      let held := first.run backend state
      ((next held.result).run backend held.state).after held.transcript := by
  induction first generalizing state with
  | done result => simp [run, Held.after]
  | note event rest inductionHypothesis =>
      simp only [note_bind, run, inductionHypothesis]
      simp [Held.after]
  | ask call rest inductionHypothesis =>
      simp only [ask_bind, run, inductionHypothesis]
      simp [Held.after]

end Dialogue

end PubSubProvisioning
