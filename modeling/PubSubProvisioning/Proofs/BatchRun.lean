import PubSubProvisioning.Batch
import PubSubProvisioning.Proofs.Pass
import PubSubProvisioning.Proofs.Review

/-!
# Batches, variable by variable

A batch makes one attempt for each variable, in the state that the attempts before it leave behind.
An attempt fails where the value cannot be read, where the project is refused, or in the pass; only
the last of the three concerns the service.  The batch ends with the first attempt that fails, and
what would have come after it is never looked at.
-/

namespace PubSubProvisioning

variable {σ : Type}

/-! ## Values that are checked -/

namespace ProjectSpec

/-- Reads a value and validates the project. -/
def ofCheckedValue (value : String) : Except Malformed ProjectSpec := do
  let spec ← parse value
  spec.validate
  pure spec

/-- What is remarked on a value and its project, up to where one of them is refused. -/
def remarks (value : String) : List Event :=
  (repeatedTopics value).map .topicRepeated ++
    match parse value with
    | .ok spec => spec.review.events
    | .error _ => []

theorem ofCheckedValue_eq_ok_iff {value : String} {spec : ProjectSpec} :
    ofCheckedValue value = .ok spec ↔ parse value = .ok spec ∧ spec.validate = .ok () := by
  rw [ofCheckedValue, checked_eq_ok_iff]

/-- A value is refused where it cannot be read. -/
theorem ofCheckedValue_of_unread {value : String} {reason : Malformed}
    (unread : parse value = .error reason) : ofCheckedValue value = .error reason := by
  rw [ofCheckedValue, unread]
  rfl

/-- So is a value whose project is refused. -/
theorem ofCheckedValue_of_refused {value : String} {spec : ProjectSpec} {reason : Malformed}
    (read : parse value = .ok spec) (refused : spec.validate = .error reason) :
    ofCheckedValue value = .error reason := by
  rw [ofCheckedValue, read]
  simp [refused, bind, Except.bind]

end ProjectSpec

/-- A value is checked without a call, whatever the service. -/
theorem ProjectVariable.hold_accepted (backend : Backend σ) (value : String) (state : σ) :
    (accepted value).hold backend state =
      ⟨(ProjectSpec.ofCheckedValue value).mapError .malformed, state,
        (ProjectSpec.remarks value).map .noted⟩ := by
  rw [accepted, Pass.hold_reportAll_bind, ProjectSpec.remarks, ProjectSpec.ofCheckedValue]
  cases ProjectSpec.parse value with
  | error reason =>
      rw [Pass.hold_accept_error_bind]
      simp [Held.after, bind, Except.bind]
  | ok spec =>
      rw [Pass.accept_ok_bind, Pass.hold_reportAll_bind]
      cases verdict : spec.review.verdict with
      | error reason =>
          rw [Pass.hold_accept_error_bind]
          simp [Held.after, ProjectSpec.validate, verdict, bind, Except.bind]
      | ok _ =>
          rw [Pass.accept_ok_bind, Pass.hold_pure]
          simp [Held.after, ProjectSpec.validate, verdict, bind, Except.bind, pure, Except.pure]

/-! ## One attempt -/

/-- A pass that has gone through. -/
structure CompletedPass where
  summary : Summary
  calls : List Call
  deriving DecidableEq, Repr

namespace ProjectVariable

variable {backend : Backend σ} {state after : σ} {entry : ProjectVariable} {reason : Malformed}
  {spec : ProjectSpec} {error : ProvisionError} {calls : List Call} {pass : CompletedPass}

/-- An attempt that goes through: the value is read, the project is accepted, and the pass over it
succeeds. -/
inductive GoesThrough (backend : Backend σ) (state : σ) (entry : ProjectVariable) :
    CompletedPass → σ → Prop where
  | provisioned (spec : ProjectSpec) (summary : Summary)
      (read : ProjectSpec.parse entry.value = .ok spec) (accepted : spec.validate = .ok ())
      (succeeded : (spec.provision.run backend state).result = .ok summary) :
      GoesThrough backend state entry
        ⟨summary, Entry.calls (spec.provision.run backend state).transcript⟩
        (spec.provision.run backend state).state

/-- An attempt that fails, with its error and the calls made for it: the value cannot be read, or
the project is refused, or the pass over it fails. -/
inductive Fails (backend : Backend σ) (state : σ) (entry : ProjectVariable) :
    ProvisionError → List Call → Prop where
  | unread (reason : Malformed) (unread : ProjectSpec.parse entry.value = .error reason) :
      Fails backend state entry (.malformed reason) []
  | refused (spec : ProjectSpec) (reason : Malformed)
      (read : ProjectSpec.parse entry.value = .ok spec)
      (refused : spec.validate = .error reason) :
      Fails backend state entry (.malformed reason) []
  | stopped (spec : ProjectSpec) (error : ProvisionError)
      (read : ProjectSpec.parse entry.value = .ok spec) (accepted : spec.validate = .ok ())
      (failed : (spec.provision.run backend state).result = .error error) :
      Fails backend state entry error (Entry.calls (spec.provision.run backend state).transcript)

/-- An attempt on a value that is refused is over before the pass. -/
theorem hold_provision_of_error (refused : ProjectSpec.ofCheckedValue entry.value = .error reason) :
    entry.provision.hold backend state =
      ⟨.error (.malformed reason), state, (ProjectSpec.remarks entry.value).map .noted⟩ := by
  have failed : ((accepted entry.value).hold backend state).result = .error (.malformed reason) := by
    rw [hold_accepted, refused]
    rfl
  rw [provision, Pass.hold_bind_of_error failed, hold_accepted]

/-- An attempt on a value that is accepted is the pass over its project. -/
theorem hold_provision_of_ok (checked : ProjectSpec.ofCheckedValue entry.value = .ok spec) :
    entry.provision.hold backend state =
      (spec.provision.run backend state).after
        ((ProjectSpec.remarks entry.value).map .noted) := by
  have succeeded : ((accepted entry.value).hold backend state).result = .ok spec := by
    rw [hold_accepted, checked]
    rfl
  rw [provision, Pass.hold_bind_of_ok succeeded, hold_accepted]
  rfl

/-- An attempt that goes through yields its summary and makes its calls. -/
theorem GoesThrough.held (through : GoesThrough backend state entry pass after) :
    let held := entry.provision.hold backend state
    held.result = .ok pass.summary ∧ held.state = after ∧ Entry.calls held.transcript = pass.calls := by
  obtain ⟨spec, summary, read, accepted, succeeded⟩ := through
  rw [hold_provision_of_ok (ProjectSpec.ofCheckedValue_eq_ok_iff.mpr ⟨read, accepted⟩)]
  simp [succeeded]

theorem Fails.held (fails : Fails backend state entry error calls) :
    let held := entry.provision.hold backend state
    held.result = .error error ∧ Entry.calls held.transcript = calls := by
  cases fails with
  | unread reason unread =>
      rw [hold_provision_of_error (ProjectSpec.ofCheckedValue_of_unread unread)]
      simp
  | refused spec reason read refused =>
      rw [hold_provision_of_error (ProjectSpec.ofCheckedValue_of_refused read refused)]
      simp
  | stopped spec error read accepted failed =>
      rw [hold_provision_of_ok (ProjectSpec.ofCheckedValue_eq_ok_iff.mpr ⟨read, accepted⟩)]
      simp [failed]

/-- Every attempt goes through or fails. -/
theorem goesThrough_or_fails (backend : Backend σ) (state : σ) (entry : ProjectVariable) :
    (∃ pass after, GoesThrough backend state entry pass after) ∨
      ∃ error calls, Fails backend state entry error calls := by
  cases read : ProjectSpec.parse entry.value with
  | error reason => exact .inr ⟨_, _, .unread reason read⟩
  | ok spec =>
      cases verdict : spec.validate with
      | error reason => exact .inr ⟨_, _, .refused spec reason read verdict⟩
      | ok _ =>
          cases result : (spec.provision.run backend state).result with
          | error error => exact .inr ⟨_, _, .stopped spec error read verdict result⟩
          | ok summary => exact .inl ⟨_, _, .provisioned spec summary read verdict result⟩

end ProjectVariable

/-! ## Attempts in a row -/

section Rows

variable {backend : Backend σ} {state start reached : σ} {entry : ProjectVariable}
  {front rest : List ProjectVariable} {passes : List CompletedPass}

/-- An attempt that fails is the last one. -/
theorem run_provisionAll_cons_of_error {error : ProvisionError}
    (failed : (entry.provision.hold backend state).result = .error error)
    (rest : List ProjectVariable) :
    (provisionAll (entry :: rest)).run backend state =
      ⟨.error ⟨entry.name, error⟩, (entry.provision.hold backend state).state,
        .noted (.processing entry.name) :: (entry.provision.hold backend state).transcript⟩ := by
  rw [Pass.hold] at failed
  rw [provisionAll, Dialogue.run_report_bind, Dialogue.run_bind]
  simp [failed, Held.after, Pass.hold]

/-- After an attempt that goes through, the others are made. -/
theorem run_provisionAll_cons_of_ok {summary : Summary}
    (succeeded : (entry.provision.hold backend state).result = .ok summary)
    (rest : List ProjectVariable) :
    (provisionAll (entry :: rest)).run backend state =
      let attempt := entry.provision.hold backend state
      let later := (provisionAll rest).run backend attempt.state
      ⟨later.result.map (summary :: ·), later.state,
        .noted (.processing entry.name) :: (attempt.transcript ++ later.transcript)⟩ := by
  rw [Pass.hold] at succeeded
  rw [provisionAll, Dialogue.run_report_bind, Dialogue.run_bind]
  simp [succeeded, Held.after, Pass.hold, Dialogue.run_bind]

/-- Attempts that go through one after another, each in the state that the one before it leaves
behind. -/
inductive Succession (backend : Backend σ) :
    σ → List ProjectVariable → List CompletedPass → σ → Prop where
  | nil (state : σ) : Succession backend state [] [] state
  | cons {state after reached : σ} {entry : ProjectVariable} {pass : CompletedPass}
      {rest : List ProjectVariable} {passes : List CompletedPass} :
      entry.GoesThrough backend state pass after →
      Succession backend after rest passes reached →
      Succession backend state (entry :: rest) (pass :: passes) reached

/-- A batch of nothing but such attempts yields their summaries and makes their calls. -/
theorem Succession.held (succession : Succession backend start front passes reached) :
    let held := (provisionAll front).run backend start
    held.result = .ok (passes.map (·.summary)) ∧ held.state = reached ∧
      Entry.calls held.transcript = passes.flatMap (·.calls) := by
  induction succession with
  | nil state => exact ⟨rfl, rfl, rfl⟩
  | @cons state after reached entry pass rest passes through _ inductionHypothesis =>
      obtain ⟨summary, left, calls⟩ := through.held
      obtain ⟨summaries, leftLater, callsLater⟩ := inductionHypothesis
      rw [run_provisionAll_cons_of_ok summary]
      dsimp only
      rw [left]
      refine ⟨by rw [summaries]; rfl, leftLater, ?_⟩
      rw [Entry.calls_noted_cons, Entry.calls_append, calls, callsLater, List.flatMap_cons]

/-- Whatever follows such attempts is made where they lead to. -/
theorem Succession.run_append (succession : Succession backend start front passes reached)
    (rest : List ProjectVariable) :
    (provisionAll (front ++ rest)).run backend start =
      let later := (provisionAll rest).run backend reached
      ⟨later.result.map (passes.map (·.summary) ++ ·), later.state,
        ((provisionAll front).run backend start).transcript ++ later.transcript⟩ := by
  induction succession with
  | nil state =>
      change _ = Held.mk (Except.map id ((provisionAll rest).run backend state).result) _ _
      rw [Except.map_id]
      rfl
  | @cons state after reached entry pass front passes through _ inductionHypothesis =>
      obtain ⟨summary, left, calls⟩ := through.held
      rw [List.cons_append, run_provisionAll_cons_of_ok summary, run_provisionAll_cons_of_ok summary]
      dsimp only
      rw [left, inductionHypothesis]
      cases result : ((provisionAll rest).run backend reached).result <;>
        simp [Except.map, result]

/-- The attempts go through up to the end of the batch, or up to one that fails. -/
theorem exists_succession (backend : Backend σ) (start : σ) (entries : List ProjectVariable) :
    ∃ front passes reached rest, entries = front ++ rest ∧
      Succession backend start front passes reached ∧
      ∀ entry others, rest = entry :: others →
        ∃ error calls, entry.Fails backend reached error calls := by
  induction entries generalizing start with
  | nil => exact ⟨[], [], start, [], rfl, .nil start, fun _ _ shape => by contradiction⟩
  | cons entry rest inductionHypothesis =>
      rcases entry.goesThrough_or_fails backend start with ⟨pass, after, through⟩ | fails
      · obtain ⟨front, passes, reached, others, rfl, succession, ends⟩ := inductionHypothesis after
        exact ⟨entry :: front, pass :: passes, reached, others, rfl, .cons through succession, ends⟩
      · refine ⟨[], [], start, entry :: rest, rfl, .nil start, ?_⟩
        rintro _ _ ⟨⟩
        exact fails

/-- An attempt that fails after them ends the batch, whatever was to follow. -/
theorem Succession.run_of_fails (succession : Succession backend start front passes reached)
    {error : ProvisionError} {calls : List Call} (fails : entry.Fails backend reached error calls)
    (others : List ProjectVariable) :
    (provisionAll (front ++ entry :: others)).run backend start =
      let attempt := entry.provision.hold backend reached
      ⟨.error ⟨entry.name, error⟩, attempt.state,
        ((provisionAll front).run backend start).transcript ++
          .noted (.processing entry.name) :: attempt.transcript⟩ := by
  rw [succession.run_append, run_provisionAll_cons_of_error fails.held.1]
  rfl

/-- A batch succeeds exactly if all of its attempts go through, and yields their summaries. -/
theorem result_provisionAll_eq_ok_iff {entries : List ProjectVariable} {summaries : List Summary} :
    ((provisionAll entries).run backend start).result = .ok summaries ↔
      ∃ passes reached, Succession backend start entries passes reached ∧
        summaries = passes.map (·.summary) := by
  constructor
  · intro succeeded
    obtain ⟨front, passes, reached, rest, rfl, succession, ends⟩ :=
      exists_succession backend start entries
    cases rest with
    | nil =>
        rw [List.append_nil] at succeeded ⊢
        exact ⟨passes, reached, succession, Except.ok.inj (succeeded.symm.trans succession.held.1)⟩
    | cons entry others =>
        obtain ⟨error, calls, fails⟩ := ends entry others rfl
        rw [succession.run_of_fails fails others] at succeeded
        contradiction
  · rintro ⟨passes, reached, succession, rfl⟩
    exact succession.held.1

/-- A batch that fails does so with the first attempt that fails. -/
theorem exists_fails_of_provisionAll {entries : List ProjectVariable} {failure : BatchFailure}
    (failed : ((provisionAll entries).run backend start).result = .error failure) :
    ∃ k entry passes reached calls, Succession backend start (entries.take k) passes reached ∧
      entries[k]? = some entry ∧ entry.Fails backend reached failure.error calls ∧
      failure.variableName = entry.name := by
  obtain ⟨front, passes, reached, rest, rfl, succession, ends⟩ :=
    exists_succession backend start entries
  cases rest with
  | nil =>
      rw [List.append_nil, succession.held.1] at failed
      contradiction
  | cons entry others =>
      obtain ⟨error, calls, fails⟩ := ends entry others rfl
      rw [succession.run_of_fails fails others] at failed
      obtain rfl := Except.error.inj failed
      exact ⟨front.length, entry, passes, reached, calls, by simpa using succession, by simp, fails,
        rfl⟩

/-- A batch goes through up to some variable and ends in one of two ways.  Either this was the last
one, and the summaries of the passes are the result; or the attempt for the next variable fails, and
the result is its error with the name of that variable.  The calls are those of the passes, one
after another, and those of the attempt that fails.  What is listed after it makes no difference. -/
theorem provisionAll_stops_at_first_failure (backend : Backend σ) (start : σ)
    (entries : List ProjectVariable) :
    let held := (provisionAll entries).run backend start
    ∃ k passes reached, k ≤ entries.length ∧ Succession backend start (entries.take k) passes reached ∧
      ((k = entries.length ∧ held.result = .ok (passes.map (·.summary)) ∧
          Entry.calls held.transcript = passes.flatMap (·.calls)) ∨
        ∃ entry error calls, entries[k]? = some entry ∧ entry.Fails backend reached error calls ∧
          held.result = .error ⟨entry.name, error⟩ ∧
          Entry.calls held.transcript = passes.flatMap (·.calls) ++ calls ∧
          ∀ others, (provisionAll (entries.take (k + 1) ++ others)).run backend start = held) := by
  intro held
  obtain ⟨front, passes, reached, rest, rfl, succession, ends⟩ :=
    exists_succession backend start entries
  obtain ⟨summaries, -, calls⟩ := succession.held
  refine ⟨front.length, passes, reached, by simp, by simpa using succession, ?_⟩
  cases rest with
  | nil =>
      have whole : held = (provisionAll front).run backend start := by
        simp only [held, List.append_nil]
      rw [whole]
      exact .inl ⟨by simp, summaries, calls⟩
  | cons entry rest =>
      obtain ⟨error, made, fails⟩ := ends entry rest rfl
      have ended : held = _ := succession.run_of_fails fails rest
      refine .inr ⟨entry, error, made, by simp, fails, ?_, ?_, ?_⟩
      · rw [ended]
      · rw [ended, Entry.calls_append, calls, Entry.calls_noted_cons, fails.held.2]
      · intro others
        have kept : (front ++ entry :: rest).take (front.length + 1) ++ others =
            front ++ entry :: others := by
          simp [List.take_append, List.take_of_length_le]
        rw [kept, ended, succession.run_of_fails fails others]

end Rows

end PubSubProvisioning
