import PubSubProvisioning.Unicode.Normal

/-!
# What the composed form keeps

Below the sign `<` no character has a decomposition, takes up a mark, or is one.  Whatever else
stands in a text, such characters of it are found again in its composed form.
-/

namespace PubSubProvisioning.Unicode

/-- Whether a character stands below all that compositions begin with. -/
def IsInert (c : Char) : Prop :=
  c.toNat < 0x3C

variable {c d : Char} {letters : List Char}

theorem IsInert.decompose_eq (inert : IsInert c) : decompose c = [c] := by
  have low : c.toNat < 0xC0 := Nat.lt_trans inert (by decide)
  rw [decompose, if_pos low]

/-! ## Order -/

theorem mem_insertMark {mark : Char} {marks : List Char} :
    c ∈ insertMark mark marks ↔ c = mark ∨ c ∈ marks := by
  induction marks with
  | nil => simp [insertMark]
  | cons other marks inductionHypothesis =>
      rw [insertMark]
      split
      · simp
      · simp [inductionHypothesis, or_left_comm]

/-- The order of a text has all of its characters. -/
theorem mem_takeInOrder {before : List Char × List Char} :
    (c ∈ (takeInOrder before d).1 ∨ c ∈ (takeInOrder before d).2) ↔
      (c ∈ before.1 ∨ c ∈ before.2) ∨ c = d := by
  rcases before with ⟨done, marks⟩
  rw [takeInOrder]
  split
  · simp [or_assoc]
  · rw [mem_insertMark, or_assoc, or_comm (a := c ∈ marks)]

theorem mem_foldl_takeInOrder {before : List Char × List Char} :
    (c ∈ (letters.foldl takeInOrder before).1 ∨ c ∈ (letters.foldl takeInOrder before).2) ↔
      (c ∈ before.1 ∨ c ∈ before.2) ∨ c ∈ letters := by
  induction letters generalizing before with
  | nil => simp
  | cons d rest inductionHypothesis =>
      rw [List.foldl_cons, inductionHypothesis, mem_takeInOrder, List.mem_cons, or_assoc]

theorem mem_ordered : c ∈ ordered letters ↔ c ∈ letters := by
  rw [ordered, List.mem_append, mem_foldl_takeInOrder]
  simp

/-! ## Composition -/

/-- The text that a composition has come to so far. -/
def Composer.text (composer : Composer) : List Char :=
  composer.done ++ composer.base.toList ++ composer.pending

/-- Only characters that are not inert compose. -/
theorem compose?_of_inert (inert : IsInert c ∨ IsInert d) : compose? c d = none := by
  have low : c.toNat < 0x3C ∨ d.toNat < 0x300 := by
    rcases inert with first | second
    · exact .inl first
    · exact .inr (Nat.lt_trans second (by decide))
  rw [compose?, if_pos low]

theorem Composer.text_setAside (composer : Composer) (d : Char) :
    (composer.setAside d).text = composer.text ++ [d] := by
  rw [setAside]
  split <;> simp [text]

/-- A character is set aside behind the text so far, or the base composes with it. -/
theorem Composer.text_take (composer : Composer) (d : Char) :
    (composer.take d).text = composer.text ++ [d] ∨
      ∃ base other, composer.base = some base ∧ compose? base d = some other ∧
        composer.take d = { composer with base := some other } := by
  rw [take]
  cases isBase : composer.base with
  | none => exact .inl (composer.text_setAside d)
  | some base =>
      cases composes : if composer.reaches d then compose? base d else none with
      | none =>
          simp only [composes]
          exact .inl (composer.text_setAside d)
      | some other =>
          obtain ⟨-, composes'⟩ := Option.ite_none_right_eq_some.mp composes
          simp only [composes]
          exact .inr ⟨base, other, rfl, composes', rfl⟩

/-- An inert character stays in the text, and gets there once it is taken in. -/
theorem Composer.mem_text_take {composer : Composer} (inert : IsInert c)
    (member : c ∈ composer.text ∨ c = d) : c ∈ (composer.take d).text := by
  rcases composer.text_take d with aside | ⟨base, other, isBase, composes, changed⟩
  · rw [aside]
    simpa using member
  · have differs (inert : IsInert base ∨ IsInert d) : False := by
      rw [compose?_of_inert inert] at composes
      contradiction
    rcases member with member | rfl
    · rw [changed]
      simp only [Composer.text, isBase, Option.toList_some, List.mem_append,
        List.mem_singleton] at member ⊢
      rcases member with (member | rfl) | member
      · exact .inl (.inl member)
      · exact (differs (.inl inert)).elim
      · exact .inr member
    · exact (differs (.inr inert)).elim

theorem Composer.mem_text_foldl_take {composer : Composer} (inert : IsInert c)
    (member : c ∈ composer.text ∨ c ∈ letters) :
    c ∈ (letters.foldl Composer.take composer).text := by
  induction letters generalizing composer with
  | nil => simpa using member
  | cons d rest inductionHypothesis =>
      rw [List.foldl_cons]
      apply inductionHypothesis
      rw [List.mem_cons, ← or_assoc] at member
      rcases member with member | member
      · exact .inl (Composer.mem_text_take inert member)
      · exact .inr member

/-- Inert characters are kept by the composed form of a text. -/
theorem mem_normalForm_of_mem (inert : IsInert c) (member : c ∈ letters) :
    c ∈ normalForm letters := by
  have decomposed : c ∈ letters.flatMap decompose :=
    List.mem_flatMap.mpr ⟨c, member, by simp [inert.decompose_eq]⟩
  exact Composer.mem_text_foldl_take inert (.inr (mem_ordered.mpr decomposed))

end PubSubProvisioning.Unicode
