import PubSubProvisioning.Json.Reader
import PubSubProvisioning.Proofs.Numerals

/-!
# Numerals of JSON

A numeral is a sign, a whole number, a fraction and an exponent, of which only the whole number has
to be there.  It has no end of its own: it is read up to the first character that does not go on
with it.
-/

namespace PubSubProvisioning.Json

variable {input rest : Input} {text : List Char}

/-! ## Grammar -/

/-- One digit or more. -/
structure AreDigits (text : List Char) : Prop where
  present : text ≠ []
  digits : ∀ c ∈ text, c.isDigit = true

/-- The digits of a whole number, without zeros in front of others. -/
structure IsWhole (text : List Char) : Prop extends AreDigits text where
  noLeadingZero : text.head? = some '0' → text.length = 1

inductive IsFraction : List Char → Prop where
  | absent : IsFraction []
  | present {digits : List Char} (areDigits : AreDigits digits) : IsFraction ('.' :: digits)

inductive IsExponent : List Char → Prop where
  | absent : IsExponent []
  | present {mark : Char} {sign digits : List Char} (marked : mark = 'e' ∨ mark = 'E')
      (signed : sign = [] ∨ sign = ['+'] ∨ sign = ['-']) (areDigits : AreDigits digits) :
      IsExponent (mark :: (sign ++ digits))

inductive IsNumeral : List Char → Prop where
  | parts {sign whole fraction exponent : List Char} (signed : sign = [] ∨ sign = ['-'])
      (isWhole : IsWhole whole) (isFraction : IsFraction fraction)
      (isExponent : IsExponent exponent) :
      IsNumeral (sign ++ (whole ++ (fraction ++ exponent)))

/-- Whether a character goes on with a numeral. -/
def continuesNumeral (c : Char) : Bool :=
  c.isDigit || c = '.' || c = 'e' || c = 'E'

/-- The input does not begin with a character that would go on with a numeral. -/
def Stops (input : Input) : Prop :=
  ∀ c, input.head? = some (some c) → continuesNumeral c = false

/-! ## Digits -/

/-- The input does not begin with a digit. -/
def EndsDigits (input : Input) : Prop :=
  ∀ c, input.head? = some (some c) → c.isDigit = false

theorem Stops.endsDigits (stops : Stops rest) : EndsDigits rest := by
  intro c first
  have ends := stops c first
  simp only [continuesNumeral, Bool.or_eq_false_iff] at ends
  exact ends.1.1.1

theorem endsDigits_cons {c : Char} (noDigit : c.isDigit = false) (rest : Input) :
    EndsDigits (some c :: rest) := by
  intro d first
  obtain rfl := Option.some.inj (Option.some.inj first)
  exact noDigit

theorem digits_cons {c : Char} (digit : c.isDigit = true) (rest : Input) :
    digits (some c :: rest) = (c :: (digits rest).1, (digits rest).2) := by
  simp [digits, digit]

theorem digits_of_endsDigits (ends : EndsDigits rest) : digits rest = ([], rest) := by
  cases rest with
  | nil => rfl
  | cons c behind =>
      cases c with
      | none => rfl
      | some c => simp [digits, ends c rfl]

/-- Digits are read up to the first other character. -/
theorem digits_append (areDigits : ∀ c ∈ text, c.isDigit = true) (ends : EndsDigits rest) :
    digits (text.map some ++ rest) = (text, rest) := by
  induction text with
  | nil => exact digits_of_endsDigits ends
  | cons c others inductionHypothesis =>
      rw [List.forall_mem_cons] at areDigits
      rw [List.map_cons, List.cons_append, digits_cons areDigits.1, inductionHypothesis areDigits.2]

theorem digits_eq (input : Input) :
    (∀ c ∈ (digits input).1, c.isDigit = true) ∧
      input = (digits input).1.map some ++ (digits input).2 := by
  induction input with
  | nil => simp [digits]
  | cons c behind inductionHypothesis =>
      by_cases first : ∃ d : Char, c = some d ∧ d.isDigit = true
      · obtain ⟨d, rfl, digit⟩ := first
        rw [digits_cons digit]
        refine ⟨List.forall_mem_cons.mpr ⟨digit, inductionHypothesis.1⟩, ?_⟩
        rw [List.map_cons, List.cons_append, ← inductionHypothesis.2]
      · have ends : EndsDigits (c :: behind) := by
          intro d same
          rw [Bool.eq_false_iff]
          exact fun digit => first ⟨d, Option.some.inj same, digit⟩
        rw [digits_of_endsDigits ends]
        exact ⟨nofun, rfl⟩

theorem areDigits_of_digits (present : (digits input).1 ≠ []) : AreDigits (digits input).1 :=
  ⟨present, (digits_eq input).1⟩

/-! ## Fractions and exponents -/

theorem fraction?_append (isFraction : IsFraction text) (ends : EndsDigits rest)
    (noPoint : rest.head? ≠ some (some '.')) :
    fraction? (text.map some ++ rest) = some (text, rest) := by
  cases isFraction with
  | absent =>
      rw [List.map_nil, List.nil_append, fraction?]
      intro behind shape
      rw [shape] at noPoint
      exact noPoint rfl
  | present areDigits =>
      rw [List.map_cons, List.cons_append, fraction?, digits_append areDigits.digits ends]
      simp [areDigits.present]

theorem isFraction_of_fraction? (read : fraction? input = some (text, rest)) :
    IsFraction text ∧ input = text.map some ++ rest := by
  unfold fraction? at read
  split at read
  next behind =>
    dsimp only at read
    split at read
    · contradiction
    next present =>
      obtain ⟨rfl, rfl⟩ := Prod.mk.inj (Option.some.inj read)
      refine ⟨.present (areDigits_of_digits (by simpa using present)), ?_⟩
      rw [List.map_cons, List.cons_append, ← (digits_eq behind).2]
  next =>
    obtain ⟨rfl, rfl⟩ := Prod.mk.inj (Option.some.inj read)
    exact ⟨.absent, rfl⟩

/-- The sign at the front of an exponent, if there is one, and what follows it. -/
def exponentSign (input : Input) : List Char × Input :=
  match input with
  | some '+' :: after => (['+'], after)
  | some '-' :: after => (['-'], after)
  | _ => ([], input)

theorem exponent?_cons {mark : Char} (marked : mark = 'e' ∨ mark = 'E') (behind : Input) :
    exponent? (some mark :: behind) =
      if (digits (exponentSign behind).2).1.isEmpty then none
      else
        some (mark :: ((exponentSign behind).1 ++ (digits (exponentSign behind).2).1),
          (digits (exponentSign behind).2).2) := by
  have isMark : (decide (mark = 'e') || decide (mark = 'E')) = true := by simpa using marked
  simp only [exponent?, isMark, if_true]
  rfl

theorem exponent?_of_unmarked
    (unmarked : ∀ c, input.head? = some (some c) → ¬(c = 'e' ∨ c = 'E')) :
    exponent? input = some ([], input) := by
  unfold exponent?
  split
  next mark behind => simp [not_or.mp (unmarked mark rfl)]
  next => rfl

theorem exponentSign_eq (input : Input) :
    ((exponentSign input).1 = [] ∨ (exponentSign input).1 = ['+'] ∨ (exponentSign input).1 = ['-']) ∧
      input = (exponentSign input).1.map some ++ (exponentSign input).2 := by
  unfold exponentSign
  split <;> simp

theorem exponentSign_append {sign : List Char} (signed : sign = [] ∨ sign = ['+'] ∨ sign = ['-'])
    (areDigits : AreDigits text) (rest : Input) :
    exponentSign (sign.map some ++ (text.map some ++ rest)) = (sign, text.map some ++ rest) := by
  rcases signed with rfl | rfl | rfl
  · obtain ⟨c, others, rfl⟩ := List.exists_cons_of_ne_nil areDigits.present
    have digit : c.isDigit = true := areDigits.digits c List.mem_cons_self
    have unsigned : c ≠ '+' ∧ c ≠ '-' := by
      constructor <;> (rintro rfl; contradiction)
    simp [exponentSign, unsigned]
  · rfl
  · rfl

theorem exponent?_append (isExponent : IsExponent text) (stops : Stops rest) :
    exponent? (text.map some ++ rest) = some (text, rest) := by
  cases isExponent with
  | absent =>
      apply exponent?_of_unmarked
      intro c first
      have ends := stops c first
      simp only [continuesNumeral, Bool.or_eq_false_iff, decide_eq_false_iff_not] at ends
      exact not_or.mpr ⟨ends.1.2, ends.2⟩
  | @present mark sign text marked signed areDigits =>
      rw [List.map_cons, List.map_append, List.cons_append, List.append_assoc, exponent?_cons marked,
        exponentSign_append signed areDigits, digits_append areDigits.digits stops.endsDigits]
      simp [areDigits.present]

theorem isExponent_of_exponent? (read : exponent? input = some (text, rest)) :
    IsExponent text ∧ input = text.map some ++ rest := by
  by_cases marked : ∃ mark behind, input = some mark :: behind ∧ (mark = 'e' ∨ mark = 'E')
  · obtain ⟨mark, behind, rfl, isMark⟩ := marked
    rw [exponent?_cons isMark] at read
    split at read
    · contradiction
    next present =>
      obtain ⟨rfl, rfl⟩ := Prod.mk.inj (Option.some.inj read)
      refine ⟨.present isMark (exponentSign_eq behind).1
        (areDigits_of_digits (by simpa using present)), ?_⟩
      rw [List.map_cons, List.map_append, List.cons_append, List.append_assoc,
        ← (digits_eq _).2, ← (exponentSign_eq behind).2]
  · rw [exponent?_of_unmarked] at read
    · obtain ⟨rfl, rfl⟩ := Prod.mk.inj (Option.some.inj read)
      exact ⟨.absent, rfl⟩
    · intro c first isMark
      cases input with
      | nil => contradiction
      | cons d behind => exact marked ⟨c, behind, by rw [Option.some.inj first], isMark⟩

/-! ## Numerals -/

/-- What a numeral is read from behind its sign. -/
def unsigned? (sign : List Char) (input : Input) : Option (Value × Input) :=
  if (digits input).1.isEmpty || (digits input).1.head? = some '0' && 1 < (digits input).1.length then
    none
  else
    (fraction? (digits input).2).bind fun (fraction, behind) =>
      (exponent? behind).bind fun (exponent, rest) =>
        some (.number (String.ofList (sign ++ (digits input).1 ++ fraction ++ exponent)), rest)

theorem number?_minus (behind : Input) : number? (some '-' :: behind) = unsigned? ['-'] behind :=
  rfl

theorem number?_of_unsigned (unsigned : input.head? ≠ some (some '-')) :
    number? input = unsigned? [] input := by
  cases input with
  | nil => rfl
  | cons c behind =>
      have other : c ≠ some '-' := by simpa using unsigned
      simp [number?, unsigned?, other]

/-- Neither a fraction nor an exponent begins with a digit, and an exponent does not begin with a
point. -/
theorem endsDigits_exponent {exponent : List Char} (isExponent : IsExponent exponent)
    (stops : Stops rest) :
    EndsDigits (exponent.map some ++ rest) ∧
      (exponent.map some ++ rest).head? ≠ some (some '.') := by
  cases isExponent with
  | absent =>
      refine ⟨stops.endsDigits, fun point => ?_⟩
      have ends := stops '.' point
      contradiction
  | @present mark sign digits marked _ _ =>
      rw [List.map_cons, List.cons_append]
      refine ⟨endsDigits_cons ?_ _, ?_⟩
      · rcases marked with rfl | rfl <;> rfl
      · rcases marked with rfl | rfl <;> simp

theorem endsDigits_fraction {fraction exponent : List Char} (isFraction : IsFraction fraction)
    (isExponent : IsExponent exponent) (stops : Stops rest) :
    EndsDigits (fraction.map some ++ (exponent.map some ++ rest)) := by
  cases isFraction with
  | absent => exact (endsDigits_exponent isExponent stops).1
  | present _ => exact endsDigits_cons rfl _

theorem unsigned?_append {whole fraction exponent : List Char} (isWhole : IsWhole whole)
    (isFraction : IsFraction fraction) (isExponent : IsExponent exponent) (stops : Stops rest)
    (sign : List Char) :
    unsigned? sign ((whole ++ (fraction ++ exponent)).map some ++ rest) =
      some (.number (String.ofList (sign ++ (whole ++ (fraction ++ exponent)))), rest) := by
  have readWhole := digits_append isWhole.digits (endsDigits_fraction isFraction isExponent stops)
  have noLeadingZero : ¬(whole.head? = some '0' ∧ 1 < whole.length) := by
    rintro ⟨zero, long⟩
    exact absurd (isWhole.noLeadingZero zero) (Nat.ne_of_gt long)
  rw [List.map_append, List.map_append, List.append_assoc, List.append_assoc, unsigned?, readWhole,
    fraction?_append isFraction (endsDigits_exponent isExponent stops).1
      (endsDigits_exponent isExponent stops).2]
  simp only [Option.bind_some, exponent?_append isExponent stops]
  simpa [isWhole.present] using noLeadingZero

theorem exists_parts_of_unsigned? {sign : List Char} {value : Value}
    (read : unsigned? sign input = some (value, rest)) :
    ∃ whole fraction exponent, IsWhole whole ∧ IsFraction fraction ∧ IsExponent exponent ∧
      value = .number (String.ofList (sign ++ (whole ++ (fraction ++ exponent)))) ∧
      input = (whole ++ (fraction ++ exponent)).map some ++ rest := by
  unfold unsigned? at read
  split at read
  · contradiction
  next accepted =>
    obtain ⟨⟨fraction, behind⟩, readFraction, readOn⟩ := Option.bind_eq_some_iff.mp read
    obtain ⟨⟨exponent, after⟩, readExponent, same⟩ := Option.bind_eq_some_iff.mp readOn
    obtain ⟨rfl, rfl⟩ := Prod.mk.inj (Option.some.inj same)
    obtain ⟨isFraction, splitFraction⟩ := isFraction_of_fraction? readFraction
    obtain ⟨isExponent, splitExponent⟩ := isExponent_of_exponent? readExponent
    simp only [Bool.or_eq_true, Bool.and_eq_true, decide_eq_true_eq, List.isEmpty_iff, not_or,
      not_and, Nat.not_lt] at accepted
    have areDigits : AreDigits (digits input).1 := areDigits_of_digits accepted.1
    have isWhole : IsWhole (digits input).1 := by
      refine ⟨areDigits, fun zero => ?_⟩
      have long := List.length_pos_iff.mpr accepted.1
      have short := accepted.2 zero
      omega
    refine ⟨_, _, _, isWhole, isFraction, isExponent, ?_, ?_⟩
    · simp only [List.append_assoc]
    · rw [List.map_append, List.map_append, List.append_assoc, List.append_assoc, ← splitExponent,
        ← splitFraction, ← (digits_eq input).2]

/-- A numeral is read where nothing follows that goes on with it. -/
theorem number?_of_isNumeral (isNumeral : IsNumeral text) (stops : Stops rest) :
    number? (text.map some ++ rest) = some (.number (String.ofList text), rest) := by
  cases isNumeral with
  | @parts sign whole fraction exponent signed isWhole isFraction isExponent =>
      rw [List.map_append, List.append_assoc]
      rcases signed with rfl | rfl
      · rw [List.map_nil, List.nil_append, number?_of_unsigned]
        · exact unsigned?_append isWhole isFraction isExponent stops []
        · obtain ⟨c, others, rfl⟩ := List.exists_cons_of_ne_nil isWhole.present
          have digit : c.isDigit = true := isWhole.digits c List.mem_cons_self
          intro minus
          obtain rfl : c = '-' := by simpa using minus
          contradiction
      · exact unsigned?_append isWhole isFraction isExponent stops ['-']

/-- What is read as a number is a numeral. -/
theorem isNumeral_of_number? {value : Value} (read : number? input = some (value, rest)) :
    ∃ text, IsNumeral text ∧ value = .number (String.ofList text) ∧
      input = text.map some ++ rest := by
  by_cases minus : input.head? = some (some '-')
  · obtain ⟨behind, rfl⟩ : ∃ behind, input = some '-' :: behind := by
      cases input with
      | nil => contradiction
      | cons c behind => exact ⟨behind, by rw [Option.some.inj minus]⟩
    rw [number?_minus] at read
    obtain ⟨whole, fraction, exponent, isWhole, isFraction, isExponent, rfl, rfl⟩ :=
      exists_parts_of_unsigned? read
    exact ⟨_, .parts (.inr rfl) isWhole isFraction isExponent, rfl, rfl⟩
  · rw [number?_of_unsigned minus] at read
    obtain ⟨whole, fraction, exponent, isWhole, isFraction, isExponent, rfl, rfl⟩ :=
      exists_parts_of_unsigned? read
    exact ⟨_, .parts (.inl rfl) isWhole isFraction isExponent, rfl, rfl⟩

/-! ## Whole numbers -/

theorem isWhole_toDigits (number : Nat) : IsWhole (Nat.toDigits 10 number) :=
  have isDecimal := Text.isDecimal_toDigits number
  ⟨⟨isDecimal.present, isDecimal.digits⟩, isDecimal.noLeadingZero⟩

/-- An integer is written as a numeral. -/
theorem isNumeral_toString (number : Int) : IsNumeral (toString number).toList := by
  cases number with
  | ofNat number =>
      have written := IsNumeral.parts (.inl rfl) (isWhole_toDigits number) .absent .absent
      rw [List.nil_append, List.append_nil, List.append_nil] at written
      rwa [Text.toList_toString_ofNat]
  | negSucc number =>
      have written := IsNumeral.parts (.inr rfl) (isWhole_toDigits number.succ) .absent .absent
      rw [List.append_nil, List.append_nil] at written
      rwa [Text.toList_toString_negSucc]

/-- A numeral of nothing but digits is that of a number. -/
theorem IsNumeral.exists_eq_toDigits (isNumeral : IsNumeral text)
    (digits : ∀ c ∈ text, c.isDigit = true) :
    ∃ number, text = Nat.toDigits 10 number := by
  cases isNumeral with
  | @parts sign whole fraction exponent signed isWhole isFraction isExponent =>
      simp only [List.forall_mem_append] at digits
      obtain ⟨unsigned, -, noFraction, noExponent⟩ := digits
      obtain rfl : sign = [] := by
        rcases signed with rfl | rfl
        · rfl
        · exact absurd (unsigned '-' List.mem_cons_self) (by decide)
      obtain rfl : fraction = [] := by
        cases isFraction with
        | absent => rfl
        | present _ => exact absurd (noFraction '.' List.mem_cons_self) (by decide)
      obtain rfl : exponent = [] := by
        cases isExponent with
        | absent => rfl
        | @present mark _ _ marked _ _ =>
            have digit := noExponent mark List.mem_cons_self
            rcases marked with rfl | rfl <;> exact absurd digit (by decide)
      refine ⟨Nat.ofDigitChars 10 whole 0, ?_⟩
      rw [List.nil_append, List.append_nil, List.append_nil]
      exact Text.isDecimal_iff.mp
        ⟨isWhole.present, isWhole.digits, isWhole.noLeadingZero, rfl⟩

end PubSubProvisioning.Json
