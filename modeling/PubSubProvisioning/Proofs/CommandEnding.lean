import PubSubProvisioning.CommandLine
import PubSubProvisioning.Proofs.BatchRun
import PubSubProvisioning.Rehearsal

/-!
# How the command ends

The command does one of three things: it prints the version, it prints its usage, or it provisions
the projects of the variables.  It has succeeded if it was asked for the version, or if there was
something to provision and all of it was provisioned.  On a failure it says which variable failed
and why, and nothing else.
-/

namespace PubSubProvisioning

variable {σ : Type} {backend : Backend σ} {start : σ} {build : Build} {program : String}
  {flags : Flags} {entries : List ProjectVariable}

/-- The exit code tells whether the command has done what it was asked for. -/
theorem Ending.exitCode_eq_zero_iff (ending : Ending) : ending.exitCode = 0 ↔ ending.isSuccess := by
  rw [exitCode]
  cases ending.isSuccess <;> simp

/-! ## What the command does -/

/-- The version is printed without a look at the variables. -/
theorem run_runCommand_of_version (asked : flags.version = true) :
    (runCommand build flags program entries).run backend start =
      ⟨{ ending := .printedVersion, stdout := versionText build ++ "\n" }, start, []⟩ := by
  rw [runCommand, if_pos asked]
  rfl

/-- Without variables the usage is printed, and no call is made. -/
theorem run_runCommand_nil (unasked : flags.version = false) :
    (runCommand build flags program []).run backend start =
      ⟨{ ending := .printedUsage, stdout := helpText ownName }, start, []⟩ := by
  rw [runCommand, unasked]
  rfl

/-- With variables there is a batch.  Where it succeeds, all that is added to it is a report of
that. -/
theorem run_runCommand_of_ok {summaries : List Summary} (unasked : flags.version = false)
    (listed : entries ≠ [])
    (succeeded : ((provisionAll entries).run backend start).result = .ok summaries) :
    (runCommand build flags program entries).run backend start =
      let batch := (provisionAll entries).run backend start
      ⟨{ ending := .provisioned }, batch.state,
        batch.transcript ++ [.noted (.provisioned summaries.length)]⟩ := by
  have provided : entries.isEmpty = false := by simpa using listed
  rw [runCommand, unasked, provided, if_neg Bool.false_ne_true, if_neg Bool.false_ne_true,
    Dialogue.run_bind]
  simp [succeeded, Dialogue.run_report_bind, Held.after]

/-- A batch that fails is reported as well, and its failure goes to the error output. -/
theorem run_runCommand_of_error {failure : BatchFailure} (unasked : flags.version = false)
    (listed : entries ≠ [])
    (failed : ((provisionAll entries).run backend start).result = .error failure) :
    (runCommand build flags program entries).run backend start =
      let batch := (provisionAll entries).run backend start
      ⟨{ ending := .failed, stderr := s!"{program}: {failure.message}\n" }, batch.state,
        batch.transcript ++
          [.noted (.stopped failure.variableName failure.error.suggestion)]⟩ := by
  have provided : entries.isEmpty = false := by simpa using listed
  rw [runCommand, unasked, provided, if_neg Bool.false_ne_true, if_neg Bool.false_ne_true,
    Dialogue.run_bind]
  simp [failed, Dialogue.run_report_bind, Held.after]

/-- The line for a failure names the variable and gives the error in words. -/
theorem BatchFailure.line_eq (program : String) (failure : BatchFailure) :
    s!"{program}: {failure.message}\n" =
      program ++ ": " ++ failure.variableName ++ ": " ++ failure.error.message ++ "\n" := by
  rw [message]
  simp [toString, String.append_assoc]

/-! ## What it leaves behind -/

/-- The command succeeds, and its exit code is zero, exactly if it was asked for the version, or if
there are variables and the project of each of them was provisioned.  If it was asked for the
version or there is no variable, the service is never called.  If it fails, it prints one line on
the error output, with the name of the first variable that failed and the error in words; otherwise
it prints nothing there.  On the standard output it prints the version, its usage, or nothing. -/
theorem runCommand_reports_batch (build : Build) (program : String) (flags : Flags)
    (environment : Environment) (backend : Backend σ) (start : σ) :
    let entries := environment.projects
    let held := (runCommand build flags program entries).run backend start
    let done := flags.version = true ∨
      entries ≠ [] ∧ ∃ passes reached, Succession backend start entries passes reached
    (held.result.ending.isSuccess = true ↔ done) ∧
      (held.result.ending.exitCode = 0 ↔ done) ∧
      (held.result.ending = .printedUsage ↔ flags.version = false ∧ entries = []) ∧
      (flags.version = true ∨ entries = [] →
        Entry.calls held.transcript = [] ∧ held.state = start) ∧
      (held.result.ending = .failed → ∃ k entry passes reached error calls,
        Succession backend start (entries.take k) passes reached ∧
        entries[k]? = some entry ∧ entry.Fails backend reached error calls ∧
        held.result.stderr =
          program ++ ": " ++ entry.name ++ ": " ++ error.message ++ "\n") ∧
      (held.result.ending ≠ .failed → held.result.stderr = "") ∧
      held.result.stdout =
        if flags.version = true then versionText build ++ "\n"
        else if entries = [] then helpText ownName
        else "" := by
  intro entries held done
  rw [Ending.exitCode_eq_zero_iff]
  cases asked : flags.version with
  | true =>
      have shape : held = _ := run_runCommand_of_version asked
      rw [shape]
      simp [done, asked, Ending.isSuccess, Entry.calls]
  | false =>
      by_cases listed : entries = []
      · have shape : held = ⟨{ ending := .printedUsage, stdout := helpText ownName }, start, []⟩ := by
          simp only [held, listed]
          exact run_runCommand_nil asked
        rw [shape]
        simp [done, asked, listed, Ending.isSuccess, Entry.calls]
      · cases result : ((provisionAll entries).run backend start).result with
        | ok summaries =>
            obtain ⟨passes, reached, succession, -⟩ := result_provisionAll_eq_ok_iff.mp result
            have shape : held = _ := run_runCommand_of_ok asked listed result
            have all : done := .inr ⟨listed, passes, reached, succession⟩
            rw [shape]
            simp [all, listed, Ending.isSuccess]
        | error failure =>
            obtain ⟨k, entry, passes, reached, calls, succession, found, fails, named⟩ :=
              exists_fails_of_provisionAll result
            have shape : held = _ := run_runCommand_of_error asked listed result
            have unfinished : ¬done := by
              rintro (version | ⟨-, passes, reached, succession⟩)
              · rw [asked] at version
                contradiction
              · rw [succession.held.1] at result
                contradiction
            rw [shape, failure.line_eq, named]
            refine ⟨by simp [unfinished, Ending.isSuccess], by simp [unfinished, Ending.isSuccess],
              by simp [listed], by simp [listed], fun _ => ?_, fun unlike => absurd rfl unlike,
              by simp [listed]⟩
            exact ⟨k, entry, passes, reached, failure.error, calls, succession, found, fails, rfl⟩

/-- The second of three variables asks for a topic that exists by then.  The command says so, and
with a request for the version it does not even look. -/
theorem runCommand_reports_second_variable :
    let build : Build := { platform := "linux" }
    let environment : Environment :=
      ⟨[("PUBSUB_PROJECT1", "p,a:s"), ("PUBSUB_PROJECT2", "p,a"), ("PUBSUB_PROJECT3", "q,b")]⟩
    let start : Rehearsal := { remembers := true }
    let held :=
      (runCommand build {} "pubsubc" environment.projects).run Rehearsal.backend start
    let idle := (runCommand build { version := true } "pubsubc" environment.projects).run
      Rehearsal.backend start
    held.result.ending = .failed ∧
      held.result.stderr = "pubsubc: PUBSUB_PROJECT2: Unable to create topic \"a\" for project " ++
        "\"p\": resource already exists: projects/p/topics/a\n" ∧
      (∃ k entry passes reached error calls,
        Succession Rehearsal.backend start (environment.projects.take k) passes reached ∧
        environment.projects[k]? = some entry ∧
        entry.Fails Rehearsal.backend reached error calls ∧
        held.result.stderr =
          "pubsubc" ++ ": " ++ entry.name ++ ": " ++ error.message ++ "\n") ∧
      idle.result.stderr = "" ∧ Entry.calls idle.transcript = [] ∧ idle.state = start := by
  intro build environment start held idle
  have failed : held.result.ending = .failed := by decide +kernel
  have succeeded : idle.result.ending ≠ .failed := by decide +kernel
  obtain ⟨-, -, -, -, reported, -, -⟩ :=
    runCommand_reports_batch build "pubsubc" {} environment Rehearsal.backend start
  obtain ⟨-, -, -, uncalled, -, silent, -⟩ :=
    runCommand_reports_batch build "pubsubc" { version := true } environment Rehearsal.backend
      start
  exact ⟨failed, by decide +kernel, reported failed, silent succeeded, uncalled (.inl rfl)⟩

end PubSubProvisioning
