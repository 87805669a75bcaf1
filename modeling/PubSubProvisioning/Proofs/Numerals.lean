import PubSubProvisioning.Text.Numeral

/-!
# Numerals and numbers

A number has one decimal numeral without leading zeros, so such numerals and numbers determine each
other.  Hexadecimal numerals are read back, too.
-/

namespace PubSubProvisioning.Text

/-! ## Decimal numerals -/

/-- Digits that spell a number in base ten, without zeros in front of others. -/
structure IsDecimal (text : List Char) (number : Nat) : Prop where
  present : text ≠ []
  digits : ∀ c ∈ text, c.isDigit = true
  noLeadingZero : text.head? = some '0' → text.length = 1
  value : Nat.ofDigitChars 10 text 0 = number

theorem isDigit_iff {c : Char} : c.isDigit = true ↔ 48 ≤ c.toNat ∧ c.toNat ≤ 57 := by
  rw [Char.isDigit, Bool.and_eq_true, decide_eq_true_eq, decide_eq_true_eq, ge_iff_le,
    UInt32.le_iff_toNat_le, UInt32.le_iff_toNat_le]
  rfl

/-- A digit is what its value is written as. -/
theorem toDigits_of_isDigit {c : Char} (digit : c.isDigit = true) :
    Nat.toDigits 10 (c.toNat - 48) = [c] := by
  have bounds := isDigit_iff.mp digit
  have small : c.toNat - 48 < 10 := by omega
  rw [Nat.toDigits_of_lt_base small]
  congr 1
  apply Char.toNat_inj.mp
  rw [Nat.toNat_digitChar_of_lt_ten small]
  omega

/-- Digits that are read on after a positive number stand behind its numeral. -/
theorem toDigits_ofDigitChars {number : Nat} (positive : 0 < number) {text : List Char}
    (digits : ∀ c ∈ text, c.isDigit = true) :
    Nat.toDigits 10 (Nat.ofDigitChars 10 text number) = Nat.toDigits 10 number ++ text := by
  induction text generalizing number with
  | nil => rw [Nat.ofDigitChars_nil, List.append_nil]
  | cons c rest inductionHypothesis =>
      have digit : c.isDigit = true := digits c List.mem_cons_self
      have bounds := isDigit_iff.mp digit
      calc
        Nat.toDigits 10 (Nat.ofDigitChars 10 (c :: rest) number)
          = Nat.toDigits 10 (10 * number + (c.toNat - 48)) ++ rest := by
            rw [Nat.ofDigitChars_cons]
            exact inductionHypothesis (by omega) fun d member => digits d (List.mem_cons_of_mem c member)
        _ = Nat.toDigits 10 number ++ [c] ++ rest := by
            rw [← Nat.toDigits_append_toDigits (by decide) positive (by omega),
              toDigits_of_isDigit digit]
        _ = Nat.toDigits 10 number ++ c :: rest := by rw [List.append_assoc, List.singleton_append]

/-- A number is not written with a zero in front of other digits. -/
theorem head?_toDigits_ne_zero {number : Nat} (positive : 0 < number) :
    (Nat.toDigits 10 number).head? ≠ some '0' := by
  induction number using Nat.strongRecOn with
  | ind number inductionHypothesis =>
      by_cases small : number < 10
      · rw [Nat.toDigits_of_lt_base small]
        simpa [Nat.digitChar_eq_zero] using Nat.ne_of_gt positive
      · have front := inductionHypothesis (number / 10) (by omega) (by omega)
        obtain ⟨first, others, shape⟩ :=
          List.exists_cons_of_ne_nil (Nat.toDigits_ne_nil (n := number / 10) (b := 10))
        rw [Nat.toDigits_of_base_le (by decide) (by omega), shape]
        rwa [shape] at front

theorem isDecimal_toDigits (number : Nat) : IsDecimal (Nat.toDigits 10 number) number where
  present := Nat.toDigits_ne_nil
  digits _ member := Nat.isDigit_of_mem_toDigits (by decide) (by decide) member
  noLeadingZero zero := by
    rcases Nat.eq_zero_or_pos number with rfl | positive
    · rfl
    · exact absurd zero (head?_toDigits_ne_zero positive)
  value := Nat.ofDigitChars_ten_toDigits

/-- A number has one decimal numeral without leading zeros. -/
theorem isDecimal_iff {text : List Char} {number : Nat} :
    IsDecimal text number ↔ text = Nat.toDigits 10 number := by
  constructor
  · rintro ⟨present, digits, noLeadingZero, rfl⟩
    cases text with
    | nil => contradiction
    | cons c rest =>
        have digit : c.isDigit = true := digits c List.mem_cons_self
        rw [Nat.ofDigitChars_cons, Nat.mul_zero, Nat.zero_add]
        by_cases zero : c = '0'
        · subst zero
          obtain rfl : rest = [] := by simpa using noLeadingZero rfl
          rfl
        · have bounds := isDigit_iff.mp digit
          have unlike : c.toNat ≠ 48 := fun same => zero (Char.toNat_inj.mp same)
          have positive : 0 < c.toNat - '0'.toNat := by
            change 0 < c.toNat - 48
            omega
          rw [toDigits_ofDigitChars positive fun d member => digits d (List.mem_cons_of_mem c member)]
          exact congrArg (· ++ rest) (toDigits_of_isDigit digit).symm
  · rintro rfl
    exact isDecimal_toDigits number

theorem toDigits_ten_inj {first second : Nat} (same : Nat.toDigits 10 first = Nat.toDigits 10 second) :
    first = second := by
  rw [← Nat.ofDigitChars_ten_toDigits (n := first), same, Nat.ofDigitChars_ten_toDigits]

/-! ## Integers -/

theorem toList_toString_ofNat (number : Nat) :
    (toString (Int.ofNat number)).toList = Nat.toDigits 10 number := by
  rw [Int.toString_eq_repr, Int.repr, Nat.toList_repr]

theorem toList_toString_negSucc (number : Nat) :
    (toString (Int.negSucc number)).toList = '-' :: Nat.toDigits 10 number.succ := by
  rw [Int.toString_eq_repr, Int.repr, String.toList_append, Nat.toList_repr]
  rfl

theorem minus_cons_ne_toDigits (text : List Char) (number : Nat) :
    '-' :: text ≠ Nat.toDigits 10 number := by
  intro same
  have digit := (isDecimal_toDigits number).digits '-' (by rw [← same]; exact List.mem_cons_self)
  contradiction

/-- Integers that are written alike are equal. -/
theorem toString_int_inj {first second : Int} (same : toString first = toString second) :
    first = second := by
  replace same := congrArg String.toList same
  cases first with
  | ofNat first =>
      cases second with
      | ofNat second =>
          rw [toList_toString_ofNat, toList_toString_ofNat] at same
          rw [toDigits_ten_inj same]
      | negSucc second =>
          rw [toList_toString_ofNat, toList_toString_negSucc] at same
          exact absurd same.symm (minus_cons_ne_toDigits _ _)
  | negSucc first =>
      cases second with
      | ofNat second =>
          rw [toList_toString_negSucc, toList_toString_ofNat] at same
          exact absurd same (minus_cons_ne_toDigits _ _)
      | negSucc second =>
          rw [toList_toString_negSucc, toList_toString_negSucc] at same
          rw [Nat.succ.inj (toDigits_ten_inj (List.cons.inj same).2)]

/-! ## Hexadecimal numerals -/

/-- A numeral of a base up to sixteen is made of hexadecimal digits. -/
theorem exists_digit_of_mem_toDigits {base number : Nat} (isBase : 1 < base) {c : Char}
    (member : c ∈ Nat.toDigits base number) : ∃ digit < base, c = Nat.digitChar digit := by
  induction number using Nat.strongRecOn with
  | ind number inductionHypothesis =>
      by_cases small : number < base
      · rw [Nat.toDigits_of_lt_base small] at member
        exact ⟨number, small, List.mem_singleton.mp member⟩
      · rw [Nat.toDigits_of_base_le isBase (by omega), List.mem_append, List.mem_singleton] at member
        rcases member with front | rfl
        · exact inductionHypothesis _ (Nat.div_lt_self (by omega) isBase) front
        · exact ⟨number % base, Nat.mod_lt _ (by omega), rfl⟩

theorem hexValue?_digitChar {digit : Nat} (small : digit < 16) :
    hexValue? (Nat.digitChar digit) = some digit := by
  have all : ∀ value ∈ List.range 16, hexValue? (Nat.digitChar value) = some value := by decide
  exact all digit (List.mem_range.mpr small)

/-- A numeral is read back. -/
theorem digitsNumber_toDigits {base : Nat} (isBase : 1 < base) (small : base ≤ 16) (number : Nat) :
    digitsNumber base (Nat.toDigits base number) = number := by
  induction number using Nat.strongRecOn with
  | ind number inductionHypothesis =>
      by_cases single : number < base
      · rw [Nat.toDigits_of_lt_base single]
        simp [digitsNumber, hexValue?_digitChar (Nat.lt_of_lt_of_le single small)]
      · have below : number % base < base := Nat.mod_lt _ (by omega)
        have front := inductionHypothesis (number / base) (Nat.div_lt_self (by omega) isBase)
        rw [digitsNumber] at front
        rw [Nat.toDigits_of_base_le isBase (by omega), digitsNumber, List.foldl_append, front,
          List.foldl_cons, List.foldl_nil, hexValue?_digitChar (Nat.lt_of_lt_of_le below small)]
        exact Nat.div_add_mod number base

end PubSubProvisioning.Text
