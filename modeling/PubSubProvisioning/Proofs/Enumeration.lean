import PubSubProvisioning.Proofs.Numerals
import PubSubProvisioning.Proofs.Variables

/-!
# The search for project variables

The variables are looked for one number after the other, and nothing says beforehand how many there
are.  `Enumerates` is this search as it stands, without a limit.  In an environment of finitely many
entries it ends, at the first number whose variable is missing or empty, and it is what `projects`
finds with its limit.  Nothing behind that number is looked at.
-/

namespace PubSubProvisioning.Environment

open PubSubProvisioning.Text (IsDecimal isDecimal_iff)

variable {environment other : Environment} {found : List ProjectVariable} {number limit : Nat}

/-! ## Gaps -/

/-- The variable of a number is missing or empty. -/
def IsGap (environment : Environment) (number : Nat) : Prop :=
  environment.get? (projectVariable number) = none ∨
    environment.get? (projectVariable number) = some ""

/-- The least positive number whose variable is missing or empty. -/
structure IsFirstGap (environment : Environment) (gap : Nat) : Prop where
  positive : 1 ≤ gap
  ends : environment.IsGap gap
  first : ∀ number, 1 ≤ number → number < gap → ¬environment.IsGap number

/-- The entry is the variable of a number, with the value that it has in the environment. -/
structure IsVariableOf (environment : Environment) (number : Nat) (entry : ProjectVariable) :
    Prop where
  named : entry.name = projectVariable number
  held : environment.get? entry.name = some entry.value
  filled : entry.value ≠ ""

theorem projectVariable_eq_iff {name : String} :
    name = projectVariable number ↔
      ∃ digits, IsDecimal digits number ∧ name = "PUBSUB_PROJECT" ++ String.ofList digits := by
  simp only [isDecimal_iff, exists_eq_left, projectVariable, Nat.toString_eq_ofList_toDigits]

theorem projectAt?_eq_none_iff :
    environment.projectAt? number = none ↔ environment.IsGap number := by
  rw [projectAt?, Option.map_eq_none_iff, IsGap]
  cases environment.get? (projectVariable number) with
  | none => simp
  | some value => simp [Option.filter]

theorem isVariableOf_of_projectAt? {entry : ProjectVariable}
    (found : environment.projectAt? number = some entry) :
    environment.IsVariableOf number entry := by
  rcases Option.map_eq_some_iff.mp found with ⟨value, filled, rfl⟩
  rcases Option.filter_eq_some_iff.mp filled with ⟨held, present⟩
  exact ⟨rfl, held, by simpa using present⟩

theorem IsVariableOf.not_isGap {entry : ProjectVariable}
    (isVariable : environment.IsVariableOf number entry) : ¬environment.IsGap number := by
  have held := isVariable.held
  rw [isVariable.named] at held
  rintro (missing | empty)
  · rw [missing] at held
    contradiction
  · rw [empty] at held
    exact isVariable.filled (Option.some.inj held).symm

/-! ## The search -/

/-- The search from a number on: it ends at a gap, and otherwise takes the variable and goes on
behind it. -/
inductive Enumerates (environment : Environment) : Nat → List ProjectVariable → Prop where
  | gap {number : Nat} (ends : environment.IsGap number) : Enumerates environment number []
  | next {number : Nat} {entry : ProjectVariable} {others : List ProjectVariable}
      (first : environment.IsVariableOf number entry)
      (rest : Enumerates environment (number + 1) others) :
      Enumerates environment number (entry :: others)

/-- A search with a limit that is not used up is the search. -/
theorem enumerates_projectsFrom
    (short : (environment.projectsFrom number limit).length < limit) :
    environment.Enumerates number (environment.projectsFrom number limit) := by
  induction limit generalizing number with
  | zero => contradiction
  | succ limit inductionHypothesis =>
      rw [projectsFrom_succ] at short ⊢
      cases next : environment.projectAt? number with
      | none => exact .gap (projectAt?_eq_none_iff.mp next)
      | some entry =>
          rw [next] at short
          exact .next (isVariableOf_of_projectAt? next)
            (inductionHypothesis (Nat.lt_of_succ_lt_succ short))

/-- No environment has as many project variables as one more than its entries. -/
theorem enumerates_projects (environment : Environment) :
    environment.Enumerates 1 environment.projects := by
  have more := projectsFrom_of_entries_le environment 1 1
  rw [projects, ← more]
  apply enumerates_projectsFrom
  rw [more]
  exact Nat.lt_succ_of_le (length_projectsFrom_le environment 1 environment.entries.length)

/-- What the search finds is determined by the values up to the gap that it ends at. -/
theorem Enumerates.eq_of_agree (search : environment.Enumerates number found)
    {foundOther : List ProjectVariable} (searchOther : other.Enumerates number foundOther)
    (agree : ∀ index, number ≤ index → index ≤ number + found.length →
      other.get? (projectVariable index) = environment.get? (projectVariable index)) :
    foundOther = found := by
  induction search generalizing foundOther with
  | @gap number ends =>
      have endsOther : other.IsGap number := by
        rwa [IsGap, agree number (Nat.le_refl _) (Nat.le_add_right _ _)]
      cases searchOther with
      | gap _ => rfl
      | next first _ => exact absurd endsOther first.not_isGap
  | @next number entry others first rest inductionHypothesis =>
      have same := agree number (Nat.le_refl _) (Nat.le_add_right _ _)
      cases searchOther with
      | gap endsOther =>
          rw [IsGap, same] at endsOther
          exact absurd endsOther first.not_isGap
      | @next _ entryOther othersOther firstOther restOther =>
          have sameEntry : entryOther = entry := by
            have held := first.held
            have heldOther := firstOther.held
            rw [first.named] at held
            rw [firstOther.named, same, held] at heldOther
            rcases entry with ⟨name, value⟩
            rcases entryOther with ⟨nameOther, valueOther⟩
            obtain rfl : name = nameOther := first.named.trans firstOther.named.symm
            obtain rfl : value = valueOther := Option.some.inj heldOther
            rfl
          have sameOthers := inductionHypothesis restOther (by
            intro index atLeast atMost
            apply agree index (by omega)
            rw [List.length_cons]
            omega)
          rw [sameEntry, sameOthers]

/-- The search goes through the numbers in turn up to the first gap. -/
theorem Enumerates.listed (search : environment.Enumerates number found) :
    environment.IsGap (number + found.length) ∧
      List.Forall₂ environment.IsVariableOf (List.range' number found.length) found ∧
      ∀ index, number ≤ index → index < number + found.length → ¬environment.IsGap index := by
  induction search with
  | gap ends => exact ⟨ends, .nil, by intro index; simp; omega⟩
  | @next number entry others first rest inductionHypothesis =>
      rcases inductionHypothesis with ⟨ends, listed, filled⟩
      refine ⟨?_, ?_, ?_⟩
      · rwa [List.length_cons, Nat.add_comm others.length, ← Nat.add_assoc]
      · rw [List.length_cons, List.range'_succ]
        exact .cons first listed
      · intro index atLeast before
        rcases Nat.eq_or_lt_of_le atLeast with rfl | later
        · exact first.not_isGap
        · rw [List.length_cons] at before
          exact filled index later (by omega)

/-- A number's variable is called after its decimal numeral.  There is a least positive number whose
variable is missing or empty; the search ends there, and finds the variables of the numbers before
that one in their order, no two of one name and no more of them than there are entries.  Whatever an
environment holds besides the variables up to that number makes no difference. -/
theorem projects_enumerated (environment : Environment) :
    (∀ number name, name = projectVariable number ↔
        ∃ digits, IsDecimal digits number ∧ name = "PUBSUB_PROJECT" ++ String.ofList digits) ∧
      (∀ found, environment.Enumerates 1 found ↔ found = environment.projects) ∧
      environment.projects.length ≤ environment.entries.length ∧
      (environment.projects.map ProjectVariable.name).Nodup ∧
      ∃ gap, environment.IsFirstGap gap ∧
        List.Forall₂ environment.IsVariableOf (List.range' 1 (gap - 1)) environment.projects ∧
        ∀ other : Environment,
          (∀ number, 1 ≤ number → number ≤ gap →
            other.get? (projectVariable number) = environment.get? (projectVariable number)) →
          other.projects = environment.projects := by
  have search := enumerates_projects environment
  rcases search.listed with ⟨ends, listed, filled⟩
  refine ⟨fun _ _ => projectVariable_eq_iff, ?_, length_projectsFrom_le environment 1 _,
    nodup_names_projectsFrom environment 1 _, 1 + environment.projects.length, ?_, ?_, ?_⟩
  · intro found
    constructor
    · intro searchAgain
      exact search.eq_of_agree searchAgain fun _ _ _ => rfl
    · rintro rfl
      exact search
  · exact ⟨Nat.le_add_right _ _, ends, filled⟩
  · rwa [Nat.add_sub_cancel_left]
  · intro other agree
    exact search.eq_of_agree (enumerates_projects other) agree

/-- The search goes on where the numerals become longer, and ends at an empty value. -/
theorem projects_enumerated_past_nine :
    let upToGap := [("PUBSUB_PROJECT10", "p,j"), ("PUBSUB_PROJECT11", ""), ("PUBSUB_PROJECT1", "p,a"),
      ("PUBSUB_PROJECT2", "p,b"), ("PUBSUB_PROJECT3", "p,c"), ("PUBSUB_PROJECT4", "p,d"),
      ("PUBSUB_PROJECT5", "p,e"), ("PUBSUB_PROJECT6", "p,f"), ("PUBSUB_PROJECT7", "p,g"),
      ("PUBSUB_PROJECT8", "p,h"), ("PUBSUB_PROJECT9", "p,i")]
    let environment : Environment := ⟨("PUBSUB_PROJECT12", "p,l") :: upToGap⟩
    let other : Environment := ⟨("PUBSUB_PROJECT01", "p,m") :: upToGap⟩
    environment.IsFirstGap 11 ∧
      (∀ number, 1 ≤ number → number ≤ 11 →
        other.get? (projectVariable number) = environment.get? (projectVariable number)) ∧
      other.projects = environment.projects ∧ environment.projects.length = 10 := by
  intro upToGap environment other
  have agree : ∀ number ∈ List.range' 1 11,
      other.get? (projectVariable number) = environment.get? (projectVariable number) := by
    decide +kernel
  have filled : ∀ number ∈ List.range' 1 10,
      environment.get? (projectVariable number) ≠ none ∧
        environment.get? (projectVariable number) ≠ some "" := by
    decide +kernel
  have firstGap : environment.IsFirstGap 11 := by
    refine ⟨by decide, .inr (by decide +kernel), ?_⟩
    intro number atLeast before isGap
    have nonempty := filled number (List.mem_range'_1.mpr ⟨atLeast, by omega⟩)
    exact isGap.elim nonempty.1 nonempty.2
  have agreeUpTo : ∀ number, 1 ≤ number → number ≤ 11 →
      other.get? (projectVariable number) = environment.get? (projectVariable number) :=
    fun number atLeast atMost => agree number (List.mem_range'_1.mpr ⟨atLeast, by omega⟩)
  rcases projects_enumerated environment with ⟨-, -, -, -, gap, isFirst, -, same⟩
  have atEleven : gap ≤ 11 := by
    by_contra beyond
    exact isFirst.first 11 (by decide) (by omega) firstGap.ends
  refine ⟨firstGap, agreeUpTo, ?_, by decide +kernel⟩
  exact same other fun number atLeast atMost => agreeUpTo number atLeast (by omega)

end PubSubProvisioning.Environment
