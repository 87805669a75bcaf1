import PubSubProvisioning.Unicode.Utf8

/-!
# Environment variables

Projects to provision are given as the variables `PUBSUB_PROJECT1`, `PUBSUB_PROJECT2` and so on, up
to the first number whose variable is missing or empty.
-/

namespace PubSubProvisioning

/-- The variables of a process, with their values. -/
structure Environment where
  entries : List (String × String)
  deriving DecidableEq, Repr

/-- A variable that holds a project. -/
structure ProjectVariable where
  name : String
  value : String
  deriving DecidableEq, Repr

namespace Environment

/-- The environment of variables whose values are octets.  A value that is no text counts as
missing. -/
def ofOctets (entries : List (String × List UInt8)) : Environment :=
  ⟨entries.filterMap fun (name, octets) =>
    (Unicode.Utf8.decode? octets).map fun text => (name, String.ofList text)⟩

/-- The value of a variable. -/
def get? (environment : Environment) (name : String) : Option String :=
  environment.entries.lookup name

/-- The variable that holds the project of a number. -/
def projectVariable (index : Nat) : String :=
  "PUBSUB_PROJECT" ++ toString index

/-- The project variables from number `index` on, `limit` of them at most. -/
def projectsFrom (environment : Environment) (index : Nat) : Nat → List ProjectVariable
  | 0 => []
  | limit + 1 =>
      let name := projectVariable index
      match environment.get? name with
      | none => []
      | some value =>
          if value = "" then [] else ⟨name, value⟩ :: projectsFrom environment (index + 1) limit

/-- The project variables.  Different numbers have different names, so there are no more of them
than entries. -/
def projects (environment : Environment) : List ProjectVariable :=
  environment.projectsFrom 1 environment.entries.length

end Environment

end PubSubProvisioning
