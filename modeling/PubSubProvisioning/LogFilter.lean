import PubSubProvisioning.Event
import PubSubProvisioning.Text.Blank
import PubSubProvisioning.Text.Fields
import PubSubProvisioning.Text.Numeral

/-!
# Log filters

A filter is a list of directives, each of which sets a level for the components whose path begins in
a certain way.  The directive with the longest such beginning decides.
-/

namespace PubSubProvisioning

open PubSubProvisioning.Text (digitsNumber isBlank)

/-- Sets the level of the components whose path begins with `target`; no level keeps nothing. -/
structure Directive where
  target : String
  level : Option Level
  deriving DecidableEq, Repr

/-- The directives of a filter. -/
structure LogFilter where
  directives : List Directive
  deriving DecidableEq, Repr

namespace LogFilter

/-- The levels by their names and by their numbers; the first one keeps nothing. -/
def levels : List (String × Option Level) :=
  [("off", none), ("error", some .error), ("warn", some .warn), ("info", some .info),
   ("debug", some .debug), ("trace", some .trace)]

/-- The level of a number in decimal, which may have a plus sign. -/
def numberedLevel? (numeral : String) : Option (Option Level) :=
  let digits :=
    match numeral.toList with
    | '+' :: rest => rest
    | all => all
  if digits.isEmpty || !digits.all Char.isDigit then none
  else levels[digitsNumber 10 digits]?.map Prod.snd

/-- The level that a name in any case, or a number, stands for: `some none` keeps nothing. -/
def level? (name : String) : Option (Option Level) :=
  numberedLevel? name <|> levels.lookup (String.ofList (name.toList.map Char.toLower))

/-- Whether a character can begin a directive: a letter, a digit, or one of three signs.  Outside
ASCII all that is not blank counts as a letter. -/
def beginsDirective (c : Char) : Bool :=
  c.isAlphanum || c = '_' || c = ':' || c = '-' || 0x80 ≤ c.toNat && !isBlank c

/-- Reads a directive: a level for all components, a target with a level, or a target alone.  Where
no level is stated everything is kept. -/
def directive? (text : String) : Option Directive :=
  if !text.toList.head?.any beginsDirective || '[' ∈ text.toList then none
  else
    match Text.split '=' text with
    | [word] => some (((level? word).map (⟨"", ·⟩)).getD ⟨word, some .trace⟩)
    | [target, ""] => some ⟨target, some .trace⟩
    | [target, name] => (level? name).map (⟨target, ·⟩)
    | _ => none

/-- Reads a filter.  Empty directives are passed over, so the empty text keeps nothing. -/
def parse? (text : String) : Option LogFilter :=
  (((Text.split ',' text).filter (· ≠ "")).mapM directive?).map (⟨·⟩)

/-- The filter of a run: the one that `RUST_LOG` states, or the program's events of a level that
`debug` sets. -/
def ofEnvironment (debug : Bool) (environment : Environment) : LogFilter :=
  let fallback : LogFilter := ⟨[⟨"pubsubc", some (if debug then .debug else .warn)⟩]⟩
  ((environment.get? "RUST_LOG").bind parse?).getD fallback

/-- The directive that decides on a component: the one with the longest target, of two equal ones
the later. -/
def deciding? (filter : LogFilter) (component : Component) : Option Directive :=
  (filter.directives.filter (·.target.toList.isPrefixOf component.path.toList)).foldl
    (fun best directive =>
      match best with
      | none => some directive
      | some other =>
          if other.target.length ≤ directive.target.length then some directive else some other)
    none

/-- Whether an event is kept. -/
def keeps (filter : LogFilter) (event : Event) : Bool :=
  match filter.deciding? event.component with
  | some { level := some level, .. } => event.level.rank ≤ level.rank
  | _ => false

end LogFilter

/-- An event as a line of the log; the levels are right-aligned. -/
def Event.line (build : Build) (event : Event) : String :=
  let name := event.level.name
  String.ofList (List.replicate (5 - name.length) ' ') ++ name ++ " " ++ event.text build ++ "\n"

end PubSubProvisioning
