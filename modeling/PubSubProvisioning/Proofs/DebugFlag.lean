import PubSubProvisioning.Invocation

/-!
# The flag for debugging

The flag is read wherever it stands in front of a double hyphen, and it changes how much of the log
is kept and nothing else.  What is done does not depend on it: it goes into the first event of a run
and into the filter of the log.

Without a filter from outside the flag makes the difference between two levels.  With it the log has
all that is reported, and without it the errors and warnings among that.
-/

namespace PubSubProvisioning

open PubSubProvisioning.Http (Network)

/-! ## What a log keeps -/

/-- Whether an event only goes into details. -/
def Event.isDetail (event : Event) : Bool :=
  event.level = .debug || event.level = .info

/-- All components are parts of the program. -/
theorem Component.isPrefixOf_path (component : Component) :
    "pubsubc".toList.isPrefixOf component.path.toList = true := by
  cases component <;> decide

namespace LogFilter

variable {environment : Environment}

theorem ofEnvironment_of_unset (unset : environment.get? "RUST_LOG" = none) (debug : Bool) :
    ofEnvironment debug environment = ⟨[⟨"pubsubc", some (if debug then .debug else .warn)⟩]⟩ := by
  rw [ofEnvironment, unset]
  rfl

/-- A filter that sets one level for the program keeps what matters as much as that level. -/
theorem keeps_eq_of_program (level : Level) (event : Event) :
    keeps ⟨[⟨"pubsubc", some level⟩]⟩ event = decide (event.level.rank ≤ level.rank) := by
  have decides : deciding? ⟨[⟨"pubsubc", some level⟩]⟩ event.component =
      some ⟨"pubsubc", some level⟩ := by
    have matching : [Directive.mk "pubsubc" (some level)].filter
        (·.target.toList.isPrefixOf event.component.path.toList) =
          [⟨"pubsubc", some level⟩] :=
      List.filter_cons_of_pos event.component.isPrefixOf_path
    rw [deciding?, matching]
    rfl
  rw [keeps, decides]

/-- Nothing is reported that debugging would not show. -/
theorem keeps_of_debug (unset : environment.get? "RUST_LOG" = none) (event : Event) :
    (ofEnvironment true environment).keeps event = true := by
  rw [ofEnvironment_of_unset unset, if_pos rfl, keeps_eq_of_program]
  cases event <;> rfl

theorem keeps_of_not_debug (unset : environment.get? "RUST_LOG" = none) (event : Event) :
    (ofEnvironment false environment).keeps event = !event.isDetail := by
  rw [ofEnvironment_of_unset unset, if_neg Bool.false_ne_true, keeps_eq_of_program]
  cases event <;> rfl

end LogFilter

/-! ## The flag among the arguments -/

namespace Flags

variable {flags after : Flags} {front back arguments : List String}

/-- Other arguments are read in the same way, whether or not debugging has been asked for. -/
theorem read_with_debug (absent : "--debug" ∉ arguments) :
    read { flags with debug := true } arguments =
      (read flags arguments).map ({ · with debug := true }) := by
  induction arguments generalizing flags with
  | nil => rfl
  | cons argument rest inductionHypothesis =>
      simp only [List.mem_cons, not_or] at absent
      have later := @inductionHypothesis { flags with version := true } absent.2
      simp only [read, if_neg (Ne.symm absent.1)]
      split
      · split
        · rfl
        · exact later
      · split
        · split <;> rfl
        · rfl

/-- Nothing else asks for debugging. -/
theorem debug_of_read (absent : "--debug" ∉ arguments) (parsed : read flags arguments = .ok after) :
    after.debug = flags.debug := by
  induction arguments generalizing flags with
  | nil =>
      cases parsed
      rfl
  | cons argument rest inductionHypothesis =>
      simp only [List.mem_cons, not_or] at absent
      simp only [read, if_neg (Ne.symm absent.1)] at parsed
      split at parsed
      · split at parsed
        · contradiction
        · have later := inductionHypothesis absent.2 parsed
          exact later
      · split at parsed
        · split at parsed
          · cases parsed
            rfl
          · contradiction
        · contradiction

/-- In front of a double hyphen the flag can be added anywhere, to ask for debugging as well. -/
theorem read_insert_debug (absent : "--debug" ∉ front ++ back) (opening : "--" ∉ front)
    (unasked : flags.debug = false) :
    read flags (front ++ "--debug" :: back) =
      (read flags (front ++ back)).map ({ · with debug := true }) := by
  induction front generalizing flags with
  | nil =>
      rw [List.nil_append, read, if_pos rfl, unasked, if_neg Bool.false_ne_true]
      exact read_with_debug absent
  | cons argument rest inductionHypothesis =>
      simp only [List.cons_append, List.mem_cons, not_or] at absent opening
      simp only [List.cons_append, read, if_neg (Ne.symm absent.1), if_neg (Ne.symm opening.1)]
      split
      · split
        · rfl
        · exact inductionHypothesis absent.2 opening.2 unasked
      · rfl

end Flags

/-! ## Two runs -/

namespace Invocation

variable {build : Build} {invocation : Invocation} {network : Network} {flags : Flags}

/-- The command of an invocation, held over a network. -/
def holdCommand (build : Build) (invocation : Invocation) (flags : Flags) (network : Network) :
    Held Rest.State CommandResult :=
  (runCommand build flags invocation.program invocation.environment.projects).run
    (Rest.backend (.ofEnvironment invocation.environment)) { network }

/-- An invocation reports its settings before it runs the command. -/
theorem hold_eq (build : Build) (invocation : Invocation) (flags : Flags) (network : Network) :
    invocation.hold build flags network =
      (invocation.holdCommand build flags network).after
        [.noted (.settingsRead (.ofEnvironment flags.debug invocation.environment))] :=
  rfl

/-- The log of the command as it is kept without the flag.  The settings are only reported for
debugging. -/
theorem run_of_quiet (parsed : Flags.read {} invocation.arguments = .ok flags)
    (unasked : flags.debug = false) (unset : invocation.environment.get? "RUST_LOG" = none) :
    let held := invocation.holdCommand build flags network
    invocation.run build network =
      { exitCode := held.result.ending.exitCode
        log := (Entry.events held.transcript).filter (!·.isDetail)
        printed := held.result.stdout
        stderr := held.result.stderr
        network := held.state.network } := by
  have keeps : (LogFilter.ofEnvironment false invocation.environment).keeps = (!·.isDetail) :=
    funext (LogFilter.keeps_of_not_debug unset)
  rw [run, parsed]
  simp only [hold_eq, unasked, keeps]
  rfl

/-- With the flag nothing that is reported is left out. -/
theorem run_of_debug (parsed : Flags.read {} invocation.arguments = .ok flags)
    (asked : flags.debug = true) (unset : invocation.environment.get? "RUST_LOG" = none) :
    let held := invocation.holdCommand build flags network
    invocation.run build network =
      { exitCode := held.result.ending.exitCode
        log := .settingsRead (.ofEnvironment true invocation.environment) ::
          Entry.events held.transcript
        printed := held.result.stdout
        stderr := held.result.stderr
        network := held.state.network } := by
  have keepsAll : ∀ events : List Event,
      events.filter (LogFilter.ofEnvironment true invocation.environment).keeps = events :=
    fun events => List.filter_eq_self.mpr fun event _ => LogFilter.keeps_of_debug unset event
  rw [run, parsed]
  simp only [hold_eq, asked, keepsAll]
  rfl

/-- Arguments that are not acted on leave the network as it is. -/
theorem run_of_error {error : ArgumentError}
    (refused : Flags.read {} invocation.arguments = .error error) :
    invocation.run build network =
      { exitCode := error.exitCode
        printed :=
          if error = .help then helpText ((fileName? invocation.program).getD ownName) else ""
        stderr :=
          if error = .help then "" else build.refusal invocation.program invocation.arguments
        network } := by
  rw [run, refused]
  cases error <;> rfl

/-- The flag for debugging, wherever it is added to arguments that are acted on or ask for help,
makes no difference to the exit code, to the error output, to the requests or to what is printed
besides the log.  The log without the flag is the log with the flag after deleting the events of the
levels `DEBUG` and `INFO`; and with the flag it has all that is reported. -/
theorem debug_only_adds_details (build : Build) (program : String) (front back : List String)
    (environment : Environment) (network : Network) (absent : "--debug" ∉ front ++ back)
    (opening : "--" ∉ front)
    (understood : ∀ error, Flags.read {} (front ++ back) = .error error → error = .help)
    (unset : environment.get? "RUST_LOG" = none) :
    let quiet := run build ⟨program, front ++ back, environment⟩ network
    let debugged : Invocation := ⟨program, front ++ "--debug" :: back, environment⟩
    let loud := debugged.run build network
    quiet = { loud with log := loud.log.filter (!·.isDetail) } ∧
      ∀ flags, Flags.read {} debugged.arguments = .ok flags →
        loud.log = Entry.events (debugged.hold build flags network).transcript := by
  intro quiet debugged loud
  have added : Flags.read {} debugged.arguments = _ :=
    Flags.read_insert_debug absent opening rfl
  cases parsed : Flags.read {} (front ++ back) with
  | error error =>
      obtain rfl := understood error parsed
      rw [parsed] at added
      have printed : loud = _ := run_of_error added
      have printedQuiet : quiet = _ := run_of_error parsed
      rw [printed, printedQuiet, added]
      exact ⟨rfl, nofun⟩
  | ok flags =>
      rw [parsed] at added
      have held : loud = _ := run_of_debug added rfl unset
      have heldQuiet : quiet = _ := run_of_quiet parsed (Flags.debug_of_read absent parsed) unset
      constructor
      · rw [held, heldQuiet]
        rfl
      · intro flags' parsed'
        obtain rfl := Except.ok.inj (added.symm.trans parsed')
        rw [held]
        rfl

/-- A subscription that is listed twice is warned of and then refused.  Both are logged with and
without the flag, and the flag adds fourteen events to them. -/
theorem debug_only_adds_details_to_conflict :
    let build : Build := { platform := "linux" }
    let environment : Environment :=
      ⟨[("PUBSUB_PROJECT1", "p,t:s:s"), ("PUBSUB_EMULATOR_HOST", "localhost:8085")]⟩
    let network : Network :=
      { returns := [Http.plainReply, Http.plainReply, .reply ⟨409, [], true, none⟩] }
    let quiet := run build ⟨"pubsubc", ["--"], environment⟩ network
    let debugged : Invocation := ⟨"pubsubc", ["--debug", "--"], environment⟩
    let loud := debugged.run build network
    quiet.log.map Event.level = [.warn, .error] ∧ loud.log.length = 16 ∧
      quiet = { loud with log := loud.log.filter (!·.isDetail) } ∧
      loud.log =
        Entry.events (debugged.hold build { debug := true } network).transcript := by
  intro build environment network quiet debugged loud
  have understood : ∀ error, Flags.read {} (["--"] : List String) = .error error → error = .help := by
    intro error refused
    contradiction
  rcases debug_only_adds_details build "pubsubc" [] ["--"] environment network (by decide)
    (by decide) understood (by decide) with ⟨same, all⟩
  exact ⟨by decide +kernel, by decide +kernel, same, all { debug := true } rfl⟩

end Invocation

end PubSubProvisioning
