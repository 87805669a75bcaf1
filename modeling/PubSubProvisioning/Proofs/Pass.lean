import PubSubProvisioning.Plan
import PubSubProvisioning.Proofs.Pursuit

/-!
# Parts of a pass, held one after another

A pass is put together from parts that may fail.  The lemmas here say what it means to hold such a
part with a service, for every way in which parts are made: the rest of a pass is held only where
the part before it has succeeded, in the state that it leaves behind.
-/

namespace PubSubProvisioning

variable {σ α β : Type}

/-! ## Outcomes with another kind of error -/

@[simp]
theorem mapError_ok {ε ε' : Type} (wrap : ε → ε') (value : α) :
    (Except.ok value).mapError wrap = .ok value :=
  rfl

@[simp]
theorem mapError_error {ε ε' : Type} (wrap : ε → ε') (cause : ε) :
    (Except.error cause : Except ε α).mapError wrap = .error (wrap cause) :=
  rfl

/-! ## Transcripts that go on -/

@[simp]
theorem Held.after_result (entries : List Entry) (held : Held σ α) :
    (held.after entries).result = held.result :=
  rfl

@[simp]
theorem Held.after_state (entries : List Entry) (held : Held σ α) :
    (held.after entries).state = held.state :=
  rfl

@[simp]
theorem Held.after_calls (entries : List Entry) (held : Held σ α) :
    Entry.calls (held.after entries).transcript =
      Entry.calls entries ++ Entry.calls held.transcript := by
  simp [Held.after]

/-- Events are no calls. -/
@[simp]
theorem Entry.calls_noted_cons (event : Event) (rest : List Entry) :
    Entry.calls (.noted event :: rest) = Entry.calls rest :=
  rfl

@[simp]
theorem Entry.calls_map_noted (events : List Event) : Entry.calls (events.map .noted) = [] := by
  simp [Entry.calls]

@[simp]
theorem Entry.events_map_noted (events : List Event) :
    Entry.events (events.map .noted) = events := by
  rw [Entry.events, List.filterMap_map]
  exact List.filterMap_some

/-- A call is entered once, whatever the service reports of it. -/
@[simp]
theorem Entry.calls_called (events : List Event) (request : Call) (outcome : request.Outcome) :
    Entry.calls (events.map .noted ++ [.called request outcome]) = [request] := by
  simp [Entry.calls]

@[simp]
theorem Held.after_answered (entries : List Entry) (held : Held σ α) :
    Entry.answered (held.after entries).transcript =
      Entry.answered entries ++ Entry.answered held.transcript := by
  simp [Held.after]

@[simp]
theorem Entry.answered_noted_cons (event : Event) (rest : List Entry) :
    Entry.answered (.noted event :: rest) = Entry.answered rest :=
  rfl

@[simp]
theorem Entry.answered_map_noted (events : List Event) :
    Entry.answered (events.map .noted) = [] := by
  simp [Entry.answered]

/-- A call is entered once, with its outcome. -/
@[simp]
theorem Entry.answered_called (events : List Event) (request : Call) (outcome : request.Outcome) :
    Entry.answered (events.map .noted ++ [.called request outcome]) = [⟨request, outcome⟩] := by
  simp [Entry.answered]

namespace Dialogue

theorem run_report_bind (backend : Backend σ) (event : Event) (next : Unit → Dialogue α)
    (state : σ) :
    (report event >>= next).run backend state =
      ((next ()).run backend state).after [.noted event] :=
  rfl

/-- Events that are reported in turn are entered in turn. -/
theorem run_reportAll (backend : Backend σ) (events : List Event) (state : σ) :
    (reportAll events).run backend state = ⟨(), state, events.map .noted⟩ := by
  induction events with
  | nil => rfl
  | cons event rest inductionHypothesis =>
      rw [reportAll, run, inductionHypothesis]
      rfl

theorem run_call_bind (backend : Backend σ) (request : Call)
    (next : request.Outcome → Dialogue α) (state : σ) :
    (call request >>= next).run backend state =
      ((next (backend.answer state request).outcome).run backend
        (backend.answer state request).state).after
          ((backend.answer state request).events.map .noted ++
            [.called request (backend.answer state request).outcome]) :=
  rfl

end Dialogue

/-! ## Holding a part of a pass -/

namespace Pass

/-- Holds a part of a pass with a service in a given state. -/
def hold (backend : Backend σ) (pass : Pass α) (state : σ) : Held σ (Except ProvisionError α) :=
  Dialogue.run backend pass.run state

@[simp]
theorem hold_pure (backend : Backend σ) (value : α) (state : σ) :
    (pure value : Pass α).hold backend state = ⟨.ok value, state, []⟩ :=
  rfl

@[simp]
theorem hold_report (backend : Backend σ) (event : Event) (state : σ) :
    (report event).hold backend state = ⟨.ok (), state, [.noted event]⟩ :=
  rfl

@[simp]
theorem hold_reportAll (backend : Backend σ) (events : List Event) (state : σ) :
    Pass.hold backend (ExceptT.lift (Dialogue.reportAll events)) state =
      ⟨.ok (), state, events.map .noted⟩ := by
  have lifted : (ExceptT.lift (Dialogue.reportAll events) : Pass Unit).run =
      Dialogue.reportAll events >>= fun _ => .done (.ok ()) := rfl
  rw [hold, lifted, Dialogue.run_bind, Dialogue.run_reportAll]
  simp [Held.after]

@[simp]
theorem hold_accept (backend : Backend σ) (value : Except Malformed α) (state : σ) :
    (accept value).hold backend state = ⟨value.mapError .malformed, state, []⟩ :=
  rfl

@[simp]
theorem hold_call (backend : Backend σ) (request : Call) (wrap : BackendError → ProvisionError)
    (state : σ) :
    (call request wrap).hold backend state =
      let answer := backend.answer state request
      ⟨answer.outcome.mapError wrap, answer.state,
        answer.events.map .noted ++ [.called request answer.outcome]⟩ := by
  simp [hold, call, Dialogue.run, Held.after, ExceptT.run, ExceptT.mk]

/-- A part that fails ends the pass. -/
theorem hold_bind_of_error {backend : Backend σ} {first : Pass α} {state : σ}
    {error : ProvisionError} (failed : (first.hold backend state).result = .error error)
    (next : α → Pass β) :
    (first >>= next).hold backend state =
      ⟨.error error, (first.hold backend state).state, (first.hold backend state).transcript⟩ := by
  rw [hold, ExceptT.run_bind, Dialogue.run_bind]
  rw [hold] at failed
  simp [hold, failed, Held.after]

/-- A part that succeeds hands its value on. -/
theorem hold_bind_of_ok {backend : Backend σ} {first : Pass α} {state : σ} {value : α}
    (succeeded : (first.hold backend state).result = .ok value) (next : α → Pass β) :
    (first >>= next).hold backend state =
      ((next value).hold backend (first.hold backend state).state).after
        (first.hold backend state).transcript := by
  rw [hold, ExceptT.run_bind, Dialogue.run_bind]
  rw [hold] at succeeded
  simp [hold, succeeded]

theorem hold_reportAll_bind (backend : Backend σ) (events : List Event) (next : Unit → Pass α)
    (state : σ) :
    Pass.hold backend (ExceptT.lift (Dialogue.reportAll events) >>= next) state =
      ((next ()).hold backend state).after (events.map .noted) := by
  have reported : (Pass.hold backend (ExceptT.lift (Dialogue.reportAll events)) state).result =
      .ok () := by rw [hold_reportAll]
  rw [hold_bind_of_ok reported, hold_reportAll]

/-- A value that is there is handed on. -/
theorem accept_ok_bind (value : α) (next : α → Pass β) :
    (accept (.ok value) >>= next) = next value :=
  rfl

/-- Without a value the pass is over. -/
theorem hold_accept_error_bind (backend : Backend σ) (reason : Malformed) (next : α → Pass β)
    (state : σ) :
    Pass.hold backend (accept (.error reason) >>= next) state =
      ⟨.error (.malformed reason), state, []⟩ :=
  rfl

end Pass

/-! ## Whole passes -/

namespace ProjectSpec

/-- Without a session there is nothing to create, and nothing to close. -/
theorem answered_provision_of_refused {backend : Backend σ} {start : σ} {spec : ProjectSpec}
    {cause : BackendError}
    (refused : (backend.answer start (.connect spec.id)).outcome = .error cause) :
    let held := spec.provision.run backend start
    Entry.answered held.transcript = [⟨.connect spec.id, .error cause⟩] ∧
      held.result = .error (.connectFailed spec.id cause) ∧
      held.state = (backend.answer start (.connect spec.id)).state := by
  rw [provision, Dialogue.run_call_bind, refused]
  constructor
  · rw [Held.after_answered, Entry.answered_called]
    rfl
  · exact ⟨rfl, rfl⟩

theorem run_provision_of_refused {backend : Backend σ} {start : σ} {spec : ProjectSpec}
    {cause : BackendError}
    (refused : (backend.answer start (.connect spec.id)).outcome = .error cause) :
    let held := spec.provision.run backend start
    Entry.calls held.transcript = [.connect spec.id] ∧
      held.result = .error (.connectFailed spec.id cause) ∧
      held.state = (backend.answer start (.connect spec.id)).state := by
  obtain ⟨answered, result, state⟩ := answered_provision_of_refused refused
  intro held
  rw [← Entry.map_call_answered, answered]
  exact ⟨rfl, result, state⟩

/-- What is done in a session decides the result of a pass; closing the session does not. -/
theorem answered_provision_of_opened {backend : Backend σ} {start : σ} {spec : ProjectSpec}
    (opened : (backend.answer start (.connect spec.id)).outcome = .ok ()) :
    let held := spec.provision.run backend start
    let body := (createTopics spec.id { project := spec.id } spec.topics).hold backend
      (backend.answer start (.connect spec.id)).state
    let closing := backend.answer body.state .close
    Entry.answered held.transcript =
        ⟨.connect spec.id, .ok ()⟩ ::
          (Entry.answered body.transcript ++ [⟨.close, closing.outcome⟩]) ∧
      held.result = body.result ∧ held.state = closing.state := by
  intro held body closing
  have bodyRun : (createTopics spec.id { project := spec.id } spec.topics).run.run backend
      (backend.answer start (.connect spec.id)).state = body := rfl
  have shape : held = spec.provision.run backend start := rfl
  rw [provision, Dialogue.run_call_bind, opened] at shape
  dsimp only at shape
  rw [Dialogue.run_report_bind, Dialogue.run_bind] at shape
  dsimp only at shape
  rw [Dialogue.run_call_bind, bodyRun] at shape
  rw [shape]
  -- Whether the session could be closed, and whether there is a summary, only adds events.
  cases (backend.answer body.state .close).outcome <;> cases body.result <;>
    simp only [Held.after_answered, Held.after_result, Held.after_state, Entry.answered_called,
      closing] <;>
    exact ⟨rfl, rfl, rfl⟩

theorem run_provision_of_opened {backend : Backend σ} {start : σ} {spec : ProjectSpec}
    (opened : (backend.answer start (.connect spec.id)).outcome = .ok ()) :
    let held := spec.provision.run backend start
    let body := (createTopics spec.id { project := spec.id } spec.topics).hold backend
      (backend.answer start (.connect spec.id)).state
    Entry.calls held.transcript = .connect spec.id :: (Entry.calls body.transcript ++ [.close]) ∧
      held.result = body.result ∧
      held.state = (backend.answer body.state .close).state := by
  obtain ⟨answered, result, state⟩ := answered_provision_of_opened opened
  intro held body
  rw [← Entry.map_call_answered, answered, ← Entry.map_call_answered body.transcript,
    List.map_cons, List.map_append]
  exact ⟨rfl, result, state⟩

end ProjectSpec

end PubSubProvisioning
