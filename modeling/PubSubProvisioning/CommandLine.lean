import PubSubProvisioning.Batch

/-!
# The command

What one invocation does, short of process plumbing: it reads its arguments, and then prints the
version, prints the usage, or provisions the projects of its variables.
-/

namespace PubSubProvisioning

/-! ## Arguments -/

/-- What can be asked for on the command line. -/
structure Flags where
  debug : Bool := false
  version : Bool := false
  deriving DecidableEq, Repr

/-- Why arguments are not acted on: help is asked for, an argument is unknown, a flag is given
twice, or a flag is given a value. -/
inductive ArgumentError where
  | help
  | unknown
  | conflict
  | tooManyValues
  deriving DecidableEq, Repr

/-- The exit code of an invocation whose arguments are not acted on. -/
def ArgumentError.exitCode : ArgumentError → Nat
  | .help => 0
  | _ => 2

/-- The names of the flags, help included. -/
def flagNames : List String :=
  ["--debug", "--version", "--help"]

/-- Why an argument that is no flag is refused.  Whatever follows the letter of the short help flag
comes too late. -/
def argumentError (argument : String) : ArgumentError :=
  let name := argument.toList.takeWhile (· ≠ '=')
  if argument = "--help" ∨ ['-', 'h'].isPrefixOf argument.toList then .help
  else if '=' ∈ argument.toList ∧ flagNames.contains (String.ofList name) then .tooManyValues
  else .unknown

/-- Reads arguments from left to right; the first one that is refused, or asks for help, decides.
Nothing may follow a double hyphen. -/
def Flags.read (flags : Flags) : List String → Except ArgumentError Flags
  | [] => .ok flags
  | argument :: rest =>
      if argument = "--debug" then
        if flags.debug then .error .conflict else Flags.read { flags with debug := true } rest
      else if argument = "--version" then
        if flags.version then .error .conflict else Flags.read { flags with version := true } rest
      else if argument = "--" then
        if rest.isEmpty then .ok flags else .error .unknown
      else .error (argumentError argument)

/-! ## Texts -/

/-- The grammar of the variables. -/
def usageExample : String :=
  "Usage: env PUBSUB_PROJECT1=\"project1,topic1,topic2:subscription1," ++
    "topic3:subscription2+endpoint1\" pubsubc

Each PUBSUB_PROJECTn variable (n = 1, 2, ...) holds:
  projectID,topicID[:subscription]...[,topicID[:subscription]...]...

where a subscription is:
  subscriptionID                    pull subscription
  subscriptionID+host[|port]        push subscription to http://host[:port]
  subscriptionID+host[|port]+dlq    push subscription with a dead letter topic <topicID>-dlq
                                    and subscription <subscriptionID>-dlq pushing to /dead

PUBSUB_EMULATOR_HOST selects the Pub/Sub emulator (host:port)."

/-- The help for a program of a given name. -/
def helpText (name : String) : String :=
  "Create Pub/Sub topics and subscriptions from PUBSUB_PROJECT environment variables\n\n" ++
    s!"Usage: {name} [OPTIONS]\n\n" ++
    "Options:\n" ++
    "      --debug    Enable debug logging\n" ++
    "      --version  Display version information\n" ++
    "  -h, --help     Print help\n\n" ++
    usageExample ++ "\n"

/-- The name under which the program knows itself. -/
def ownName : String :=
  "pubsubc"

/-- The last component of a path, unless it names a directory by dots or by nothing. -/
def fileName? (path : String) : Option String :=
  match ((Text.split '/' path).filter fun part => part ≠ "" && part ≠ ".").getLast? with
  | some ".." => none
  | name => name

/-- The version of a build.  What the program was not told when it was built is said to be
missing. -/
def versionText (build : Build) : String :=
  let stated := fun (value : Option String) => value.getD "<not set>"
  s!"pubsubc - build {stated build.revision} ({stated build.commit}) running on {build.platform}"

/-! ## Running -/

/-- How an invocation with good arguments ends. -/
inductive Ending where
  | provisioned
  | printedVersion
  | printedUsage
  | failed
  deriving DecidableEq, Repr

/-- Whether an invocation has done what it was asked for. -/
def Ending.isSuccess : Ending → Bool
  | .provisioned | .printedVersion => true
  | .printedUsage | .failed => false

/-- The exit code of an invocation. -/
def Ending.exitCode (ending : Ending) : Nat :=
  if ending.isSuccess then 0 else 1

/-- What an invocation leaves behind besides its log. -/
structure CommandResult where
  ending : Ending
  stdout : String := ""
  stderr : String := ""
  deriving DecidableEq, Repr

/-- Runs the command for the variables that hold projects.  A failure is reported under the name by
which the program was called. -/
def runCommand (build : Build) (flags : Flags) (program : String)
    (projects : List ProjectVariable) : Dialogue CommandResult := do
  if flags.version then
    pure { ending := .printedVersion, stdout := versionText build ++ "\n" }
  else if projects.isEmpty then
    pure { ending := .printedUsage, stdout := helpText ownName }
  else
    match ← provisionAll projects with
    | .ok summaries =>
        Dialogue.report (.provisioned summaries.length)
        pure { ending := .provisioned }
    | .error failure =>
        Dialogue.report (.stopped failure.variableName failure.error.suggestion)
        pure { ending := .failed, stderr := s!"{program}: {failure.message}\n" }

end PubSubProvisioning
