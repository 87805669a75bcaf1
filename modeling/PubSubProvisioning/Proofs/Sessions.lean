import Mathlib.Data.List.Forall2
import PubSubProvisioning.Proofs.BatchRun
import PubSubProvisioning.Proofs.Stepwise
import PubSubProvisioning.Rehearsal

/-!
# Sessions of passes in a row

A pass opens at most one session, creates what it creates in that session, and closes it with its
last call, whatever became of the calls in between.  Passes that follow one another therefore never
have two sessions open at a time, and never leave one open.

The log of calls is checked from outside as well: `AnsweredCall.session?` knows which session is
open and accepts a call only in its place.
-/

namespace PubSubProvisioning

variable {σ : Type}

/-! ## Logs of passes -/

/-- The log of a pass over a project, as far as its session goes: none is opened, or one that is
closed in the end. -/
inductive PassLog (project : String) : List AnsweredCall → Prop where
  | refused (cause : BackendError) : PassLog project [⟨.connect project, .error cause⟩]
  | closed (created : List AnsweredCall) (closing : Call.Outcome .close)
      (creating : ∀ answered ∈ created, answered.call.resource?.isSome) :
      PassLog project (sessionLog project created closing)

theorem ProjectSpec.Unfolds.passLog {spec : ProjectSpec} {log : List AnsweredCall}
    {result : Except ProvisionError Summary} (unfolds : spec.Unfolds log result) :
    PassLog spec.id log := by
  cases unfolds with
  | refused cause => exact .refused cause
  | opened made result closing course => exact .closed made closing course.creating

/-- Every pass leaves such a log. -/
theorem ProjectSpec.passLog_provision (backend : Backend σ) (start : σ) (spec : ProjectSpec) :
    PassLog spec.id (Entry.answered (spec.provision.run backend start).transcript) :=
  (spec.unfolds backend start).passLog

/-! ## The session that is open -/

/-- The project of the session that is open after a call, given that of the session before it.  A
call out of place is not accepted: one to open a session while another is open, or one to create
something or to close a session while none is. -/
def AnsweredCall.session? : Option String → AnsweredCall → Option (Option String)
  | none, ⟨.connect project, .ok _⟩ => some (some project)
  | none, ⟨.connect _, .error _⟩ => some none
  | some project, ⟨.createTopic _, _⟩ => some (some project)
  | some project, ⟨.createSubscription _ _, _⟩ => some (some project)
  | some _, ⟨.close, _⟩ => some none
  | none, ⟨.createTopic _, _⟩ | none, ⟨.createSubscription _ _, _⟩ | none, ⟨.close, _⟩ => none
  | some _, ⟨.connect _, _⟩ => none

/-- Creating resources does not change the session. -/
theorem AnsweredCall.session?_of_creating (project : String) {answered : AnsweredCall}
    (creating : answered.call.resource?.isSome) :
    answered.session? (some project) = some (some project) := by
  obtain ⟨call, outcome⟩ := answered
  cases call with
  | connect _ => contradiction
  | close => contradiction
  | createTopic _ => rfl
  | createSubscription _ _ => rfl

theorem foldlM_session?_of_creating (project : String) {created : List AnsweredCall}
    (creating : ∀ answered ∈ created, answered.call.resource?.isSome) :
    created.foldlM AnsweredCall.session? (some project) = some (some project) := by
  induction created with
  | nil => rfl
  | cons answered rest inductionHypothesis =>
      rw [List.foldlM_cons, answered.session?_of_creating project (creating _ (by simp))]
      exact inductionHypothesis fun other member => creating other (by simp [member])

/-- A pass finds no session open, and leaves none open. -/
theorem PassLog.foldlM_session? {project : String} {log : List AnsweredCall}
    (ofPass : PassLog project log) : log.foldlM AnsweredCall.session? none = some none := by
  cases ofPass with
  | refused cause => rfl
  | closed created closing creating =>
      rw [sessionLog, List.foldlM_cons]
      change (created ++ _).foldlM AnsweredCall.session? (some project) = some none
      rw [List.foldlM_append, foldlM_session?_of_creating project creating]
      rfl

/-! ## Passes in a row -/

/-- Passes over projects in turn, each of them whatever became of the one before it. -/
def provisionEach : List ProjectSpec → Dialogue (List (Except ProvisionError Summary))
  | [] => pure []
  | spec :: rest => do
      let result ← spec.provision
      let results ← provisionEach rest
      pure (result :: results)

/-- The logs of such passes, each of them held in the state that the one before it leaves behind. -/
def passLogs (backend : Backend σ) : σ → List ProjectSpec → List (List AnsweredCall)
  | _, [] => []
  | state, spec :: rest =>
      let held := spec.provision.run backend state
      Entry.answered held.transcript :: passLogs backend held.state rest

/-- The log of passes in a row is that of one after that of the other. -/
theorem answered_provisionEach (backend : Backend σ) (start : σ) (specs : List ProjectSpec) :
    Entry.answered ((provisionEach specs).run backend start).transcript =
      (passLogs backend start specs).flatten := by
  induction specs generalizing start with
  | nil => rfl
  | cons spec rest inductionHypothesis =>
      rw [provisionEach, Dialogue.run_bind]
      dsimp only
      rw [Dialogue.run_bind, passLogs, List.flatten_cons, ← inductionHypothesis,
        Held.after_answered, Held.after_answered]
      exact congrArg (_ ++ ·) (List.append_nil _)

theorem forall₂_passLogs (backend : Backend σ) (start : σ) (specs : List ProjectSpec) :
    List.Forall₂ (fun spec log => PassLog spec.id log) specs (passLogs backend start specs) := by
  induction specs generalizing start with
  | nil => exact .nil
  | cons spec rest inductionHypothesis =>
      exact .cons (spec.passLog_provision backend start) (inductionHypothesis _)

/-- Logs of passes can be put in a row. -/
theorem foldlM_session?_flatten {specs : List ProjectSpec} {logs : List (List AnsweredCall)}
    (ofPasses : List.Forall₂ (fun spec log => PassLog spec.id log) specs logs) :
    logs.flatten.foldlM AnsweredCall.session? none = some none := by
  induction ofPasses with
  | nil => rfl
  | cons ofPass _ inductionHypothesis =>
      rw [List.flatten_cons, List.foldlM_append, ofPass.foldlM_session?]
      exact inductionHypothesis

/-- In a batch, too, a session is closed before the next one is opened, and none is left open. -/
theorem foldlM_session?_provisionAll (backend : Backend σ) (start : σ)
    (entries : List ProjectVariable) :
    (Entry.answered ((provisionAll entries).run backend start).transcript).foldlM
      AnsweredCall.session? none = some none := by
  induction entries generalizing start with
  | nil => rfl
  | cons entry rest inductionHypothesis =>
      have ofAttempt : (Entry.answered (entry.provision.hold backend start).transcript).foldlM
          AnsweredCall.session? none = some none := by
        cases checked : ProjectSpec.ofCheckedValue entry.value with
        | error reason =>
            rw [ProjectVariable.hold_provision_of_error checked, Entry.answered_map_noted]
            rfl
        | ok spec =>
            rw [ProjectVariable.hold_provision_of_ok checked, Held.after_answered,
              Entry.answered_map_noted]
            exact (spec.passLog_provision backend start).foldlM_session?
      cases result : (entry.provision.hold backend start).result with
      | error error =>
          rw [run_provisionAll_cons_of_error result, Entry.answered_noted_cons]
          exact ofAttempt
      | ok summary =>
          rw [run_provisionAll_cons_of_ok result]
          dsimp only
          rw [Entry.answered_noted_cons, Entry.answered_append, List.foldlM_append, ofAttempt]
          exact inductionHypothesis _

/-! ## Closing a session -/

/-- Services that differ at most in how they answer when a session is closed. -/
def Backend.AgreeButForClose (first second : Backend σ) : Prop :=
  ∀ state call, call ≠ .close → first.answer state call = second.answer state call

theorem Backend.AgreeButForClose.alike {first second : Backend σ}
    (agree : first.AgreeButForClose second) :
    first.Alike second (·.resource?.isSome) (· = ·) := by
  rintro state _ call rfl creating
  have notClosing : call ≠ .close := by
    rintro rfl
    contradiction
  rw [agree state call notClosing]
  exact ⟨rfl, rfl⟩

/-- Whether a session can be closed changes neither the result of its pass nor the calls. -/
theorem ProjectSpec.provision_of_agreeButForClose {first second : Backend σ}
    (agree : first.AgreeButForClose second) (start : σ) (spec : ProjectSpec) :
    let held := spec.provision.run first start
    let again := spec.provision.run second start
    held.result = again.result ∧ Entry.calls held.transcript = Entry.calls again.transcript := by
  have opening := agree start (.connect spec.id) (by simp)
  obtain ⟨result, same | ⟨made, _, _, -, log, log'⟩⟩ := provision_of_alike agree.alike
    (congrArg Answer.outcome opening) (congrArg Answer.state opening) fun _ _ creating => creating
  · refine ⟨result, ?_⟩
    rw [← Entry.map_call_answered, ← Entry.map_call_answered, same]
  · refine ⟨result, ?_⟩
    rw [← Entry.map_call_answered, ← Entry.map_call_answered, log, log']
    simp [sessionLog]

/-! ## The discipline of sessions -/

/-- Passes in a row keep to their sessions, with any service.  Their log is made of one log for each
pass, which is a `connect` that is refused or a session for the project of the pass; at every call
the right session is open, and none is in the end.  Whether a session can be closed makes no
difference to its pass. -/
theorem provisionEach_keeps_sessions (backend : Backend σ) (start : σ) (specs : List ProjectSpec) :
    let log := Entry.answered ((provisionEach specs).run backend start).transcript
    log = (passLogs backend start specs).flatten ∧
      List.Forall₂ (fun spec log => PassLog spec.id log) specs (passLogs backend start specs) ∧
      log.foldlM AnsweredCall.session? none = some none ∧
      ∀ other : Backend σ, backend.AgreeButForClose other → ∀ state, ∀ spec : ProjectSpec,
        let held := spec.provision.run backend state
        let again := spec.provision.run other state
        held.result = again.result ∧ Entry.calls held.transcript = Entry.calls again.transcript := by
  intro log
  have parts : log = _ := answered_provisionEach backend start specs
  have ofPasses := forall₂_passLogs backend start specs
  refine ⟨parts, ofPasses, ?_, ?_⟩
  · rw [parts]
    exact foldlM_session?_flatten ofPasses
  · intro other agree state spec
    exact spec.provision_of_agreeButForClose agree state

/-- A rehearsal whose sessions cannot be closed. -/
def Rehearsal.unclosing : Backend Rehearsal where
  answer rehearsal
    | .close => ⟨.error (.other "busy"), [], rehearsal⟩
    | call => rehearsal.answer call

/-- A pass that finds a token that it cannot read closes its session all the same; that this fails
as well is not what it ends with. -/
theorem provision_malformed_in_unclosing_session :
    let spec : ProjectSpec := ⟨"p", [⟨"t", ["s", "late+"]⟩]⟩
    let held := spec.provision.run Rehearsal.unclosing {}
    Rehearsal.backend.AgreeButForClose Rehearsal.unclosing ∧
      held.result = .error (.malformed (.emptyEndpoint "late+")) ∧
      Entry.calls held.transcript =
        [.connect "p", .createTopic "t", .createSubscription "s" (.pull ⟨"p", "t"⟩), .close] := by
  intro spec held
  have agree : Rehearsal.backend.AgreeButForClose Rehearsal.unclosing := by
    intro state call notClosing
    cases call with
    | close => contradiction
    | _ => rfl
  obtain ⟨-, -, -, indifferent⟩ := provisionEach_keeps_sessions Rehearsal.backend {} [spec]
  obtain ⟨sameResult, sameCalls⟩ := indifferent Rehearsal.unclosing agree {} spec
  refine ⟨agree, ?_, ?_⟩
  · rw [← sameResult]
    decide +kernel
  · rw [← sameCalls]
    decide +kernel

end PubSubProvisioning
