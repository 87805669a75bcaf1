import Mathlib.Data.List.Nodup
import Mathlib.Data.List.Perm.Subperm
import PubSubProvisioning.Environment

/-!
# The project variables of an environment

Different numbers have different names.  An environment therefore has no more project variables than
entries, and to look for as many of them as it has entries is to look for all.  Which ones they are
depends on the values of their names and on nothing else in the environment.
-/

namespace PubSubProvisioning.Environment

variable {environment other : Environment} {entry : ProjectVariable} {index limit : Nat}

/-! ## Names -/

/-- A number can be read back from the name that it is written into. -/
theorem projectVariable_inj {number : Nat} :
    projectVariable index = projectVariable number ↔ index = number := by
  constructor
  · intro same
    have decimals : toString index = toString number := (String.append_right_inj _).mp same
    rw [Nat.toString_eq_ofList_toDigits, Nat.toString_eq_ofList_toDigits] at decimals
    have digits := String.ofList_injective decimals
    calc index = Nat.ofDigitChars 10 (Nat.toDigits 10 index) 0 :=
          Nat.ofDigitChars_ten_toDigits.symm
      _ = number := by rw [digits, Nat.ofDigitChars_ten_toDigits]
  · rintro rfl
    rfl

/-- Where two names differ in their first letters, the second of them is no project variable. -/
theorem projectVariable_ne {name : String} (differs : ¬ "PUBSUB_PROJECT".toList <+: name.toList) :
    projectVariable index ≠ name := by
  rintro rfl
  apply differs
  rw [projectVariable, String.toList_append]
  exact List.prefix_append _ _

/-! ## One variable after the other -/

/-- The project variable of a number, if there is one and it is not empty. -/
def projectAt? (environment : Environment) (index : Nat) : Option ProjectVariable :=
  ((environment.get? (projectVariable index)).filter (· ≠ "")).map (⟨projectVariable index, ·⟩)

theorem name_of_projectAt? (found : environment.projectAt? index = some entry) :
    entry.name = projectVariable index := by
  rcases Option.map_eq_some_iff.mp found with ⟨value, -, rfl⟩
  rfl

theorem mem_entries_of_projectAt? (found : environment.projectAt? index = some entry) :
    (entry.name, entry.value) ∈ environment.entries := by
  rcases Option.map_eq_some_iff.mp found with ⟨value, filled, rfl⟩
  rcases List.lookup_eq_some_iff.mp (Option.filter_eq_some_iff.mp filled).1 with
    ⟨before, after, split, -⟩
  rw [split]
  exact List.mem_append_right before List.mem_cons_self

/-- The search goes on as long as there is a variable of the next number. -/
theorem projectsFrom_succ (environment : Environment) (index limit : Nat) :
    environment.projectsFrom index (limit + 1) =
      match environment.projectAt? index with
      | none => []
      | some entry => entry :: environment.projectsFrom (index + 1) limit := by
  rw [projectsFrom, projectAt?]
  cases environment.get? (projectVariable index) with
  | none => rfl
  | some value =>
      by_cases empty : value = ""
      · simp [empty, Option.filter]
      · simp [empty, Option.filter]

/-! ## All of them -/

/-- The variables that are found are those of as many numbers in a row. -/
theorem map_name_projectsFrom (environment : Environment) (index limit : Nat) :
    (environment.projectsFrom index limit).map ProjectVariable.name =
      (List.range' index (environment.projectsFrom index limit).length).map projectVariable := by
  induction limit generalizing index with
  | zero => rfl
  | succ limit inductionHypothesis =>
      rw [projectsFrom_succ]
      cases found : environment.projectAt? index with
      | none => rfl
      | some entry =>
          rw [List.length_cons, List.range'_succ, List.map_cons, List.map_cons,
            name_of_projectAt? found, inductionHypothesis]

theorem mem_entries_of_mem_projectsFrom (member : entry ∈ environment.projectsFrom index limit) :
    (entry.name, entry.value) ∈ environment.entries := by
  induction limit generalizing index with
  | zero => contradiction
  | succ limit inductionHypothesis =>
      rw [projectsFrom_succ] at member
      cases found : environment.projectAt? index with
      | none =>
          rw [found] at member
          contradiction
      | some first =>
          rw [found] at member
          rcases List.mem_cons.mp member with rfl | later
          · exact mem_entries_of_projectAt? found
          · exact inductionHypothesis later

theorem nodup_names_projectsFrom (environment : Environment) (index limit : Nat) :
    ((environment.projectsFrom index limit).map ProjectVariable.name).Nodup := by
  rw [map_name_projectsFrom]
  exact (List.nodup_range' 1).map fun _ _ same => projectVariable_inj.mp same

/-- However far the search may go, it finds no more than there are entries: every variable that it
finds is another entry. -/
theorem length_projectsFrom_le (environment : Environment) (index limit : Nat) :
    (environment.projectsFrom index limit).length ≤ environment.entries.length := by
  have apart : ((environment.projectsFrom index limit).map fun entry =>
      (entry.name, entry.value)).Nodup := by
    apply List.Nodup.of_map Prod.fst
    rw [List.map_map]
    exact nodup_names_projectsFrom environment index limit
  have held : ((environment.projectsFrom index limit).map fun entry =>
      (entry.name, entry.value)) ⊆ environment.entries := by
    intro pair member
    rcases List.mem_map.mp member with ⟨entry, found, rfl⟩
    exact mem_entries_of_mem_projectsFrom found
  have bound := (apart.subperm held).length_le
  rwa [List.length_map] at bound

/-- A search that may go further finds the same first of all. -/
theorem take_projectsFrom (environment : Environment) (index limit extra : Nat) :
    (environment.projectsFrom index (limit + extra)).take limit =
      environment.projectsFrom index limit := by
  induction limit generalizing index with
  | zero => rfl
  | succ limit inductionHypothesis =>
      rw [Nat.succ_add, projectsFrom_succ, projectsFrom_succ]
      cases environment.projectAt? index with
      | none => rfl
      | some entry => exact congrArg (entry :: ·) (inductionHypothesis (index + 1))

/-- To go further than the number of entries finds nothing more. -/
theorem projectsFrom_of_entries_le (environment : Environment) (index extra : Nat) :
    environment.projectsFrom index (environment.entries.length + extra) =
      environment.projectsFrom index environment.entries.length := by
  rw [← take_projectsFrom environment index environment.entries.length extra]
  exact (List.take_of_length_le (length_projectsFrom_le environment index _)).symm

theorem projectsFrom_congr
    (same : ∀ number, environment.get? (projectVariable number) = other.get? (projectVariable number))
    (index limit : Nat) : environment.projectsFrom index limit = other.projectsFrom index limit := by
  induction limit generalizing index with
  | zero => rfl
  | succ limit inductionHypothesis =>
      rw [projectsFrom_succ, projectsFrom_succ, projectAt?, projectAt?, same,
        inductionHypothesis]

/-- Environments that agree on the project variables have the same ones, whatever else they hold. -/
theorem projects_congr
    (same : ∀ number,
      environment.get? (projectVariable number) = other.get? (projectVariable number)) :
    environment.projects = other.projects :=
  calc environment.projects
      = environment.projectsFrom 1 (environment.entries.length + other.entries.length) :=
        (projectsFrom_of_entries_le environment 1 _).symm
    _ = other.projectsFrom 1 (other.entries.length + environment.entries.length) := by
        rw [projectsFrom_congr same, Nat.add_comm]
    _ = other.projects := projectsFrom_of_entries_le other 1 _

end PubSubProvisioning.Environment
