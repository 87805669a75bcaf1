import PubSubProvisioning.CommandLine
import PubSubProvisioning.LogFilter
import PubSubProvisioning.Rest

/-!
# Whole invocations

An invocation is the name by which the program is called, its arguments and its environment.  Over a
network it has an exit code and two outputs, and it leaves the network behind.  The log goes to the
standard output, in front of what the command prints there.
-/

namespace PubSubProvisioning

open PubSubProvisioning.Http (Network)

/-- How the program is called. -/
structure Invocation where
  program : String := ownName
  arguments : List String := []
  environment : Environment
  deriving DecidableEq, Repr

/-- What an invocation leaves behind: its exit code, the events that its log keeps, what the command
prints on either output, and the network. -/
structure Effect where
  exitCode : Nat
  log : List Event := []
  printed : String := ""
  stderr : String := ""
  network : Network
  deriving DecidableEq, Repr

/-- The standard output. -/
def Effect.stdout (build : Build) (effect : Effect) : String :=
  String.join (effect.log.map (Event.line build)) ++ effect.printed

namespace Invocation

/-- The dialogue of an invocation with good flags. -/
def dialogue (build : Build) (invocation : Invocation) (flags : Flags) :
    Dialogue CommandResult := do
  Dialogue.report (.settingsRead (.ofEnvironment flags.debug invocation.environment))
  runCommand build flags invocation.program invocation.environment.projects

/-- Holds the dialogue of an invocation over a network. -/
def hold (build : Build) (invocation : Invocation) (flags : Flags) (network : Network) :
    Held Rest.State CommandResult :=
  let service := ServiceSettings.ofEnvironment invocation.environment
  (invocation.dialogue build flags).run (Rest.backend service) { network }

/-- Runs the program over a network. -/
def run (build : Build) (invocation : Invocation) (network : Network) : Effect :=
  match Flags.read {} invocation.arguments with
  | .error .help =>
      let name := (fileName? invocation.program).getD ownName
      { exitCode := ArgumentError.help.exitCode, printed := helpText name, network }
  | .error error =>
      { exitCode := error.exitCode
        stderr := build.refusal invocation.program invocation.arguments
        network }
  | .ok flags =>
      let held := invocation.hold build flags network
      let filter := LogFilter.ofEnvironment flags.debug invocation.environment
      { exitCode := held.result.ending.exitCode
        log := (Entry.events held.transcript).filter filter.keeps
        printed := held.result.stdout
        stderr := held.result.stderr
        network := held.state.network }

end Invocation

end PubSubProvisioning
