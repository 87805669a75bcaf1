import PubSubProvisioning.Proofs.Numerals
import PubSubProvisioning.Text.Quoted

/-!
# Quoted texts in messages

A quoted text holds no control character, whatever the text holds.  Its characters can be read back
one after the other, and a bare quotation mark is none of them.  So a message shows where a text
that is quoted in it ends, and which text it is.
-/

namespace PubSubProvisioning.Text

/-! ## Control characters -/

/-- The control characters of Unicode: those below the space, and those from DEL up to the no-break
space. -/
def IsControl (c : Char) : Prop :=
  c.toNat < 0x20 ∨ 0x7F ≤ c.toNat ∧ c.toNat < 0xA0

instance : DecidablePred IsControl :=
  fun _ => inferInstanceAs (Decidable (_ ∨ _))

/-- A text without control characters. -/
def ControlFree (text : String) : Prop :=
  ∀ c ∈ text.toList, ¬IsControl c

instance : DecidablePred ControlFree :=
  fun text => List.decidableBAll (fun c => ¬IsControl c) text.toList

@[simp]
theorem controlFree_append {first second : String} :
    ControlFree (first ++ second) ↔ ControlFree first ∧ ControlFree second := by
  simp only [ControlFree, String.toList_append, List.forall_mem_append]

/-- A hexadecimal digit is no control character and no closing brace. -/
theorem plain_of_mem_lowerHex {number : Nat} {c : Char} (member : c ∈ lowerHex number) :
    ¬IsControl c ∧ c ≠ '\x7d' := by
  obtain ⟨digit, small, rfl⟩ := exists_digit_of_mem_toDigits (by decide) member
  have all : ∀ value ∈ List.range 16,
      ¬IsControl (Nat.digitChar value) ∧ Nat.digitChar value ≠ '\x7d' := by decide
  exact all digit (List.mem_range.mpr small)

/-! ## Characters -/

/-- What a letter behind a backslash stands for. -/
def escaped? (letter : Char) : Option Char :=
  match letter with
  | '"' => some '"'
  | '\\' => some '\\'
  | 'n' => some '\n'
  | 'r' => some '\r'
  | 't' => some '\t'
  | '0' => some '\x00'
  | _ => none

/-- What may stand for a character in a quoted text: the character itself, unless it would end the
text, begin an escape or be a control character; a letter behind a backslash; or its number. -/
inductive Quotes (c : Char) : List Char → Prop where
  | plain (visible : ¬IsControl c) (noQuote : c ≠ '"') (noEscape : c ≠ '\\') : Quotes c [c]
  | short {letter : Char} (known : escaped? letter = some c) : Quotes c ['\\', letter]
  | number : Quotes c (numbered c)

theorem quotes_quotedChar (c : Char) : Quotes c (quotedChar c) := by
  unfold quotedChar
  split
  next quote =>
    subst quote
    exact .short rfl
  split
  next backslash =>
    subst backslash
    exact .short rfl
  split
  next lineFeed =>
    subst lineFeed
    exact .short rfl
  split
  next carriageReturn =>
    subst carriageReturn
    exact .short rfl
  split
  next tab =>
    subst tab
    exact .short rfl
  split
  next null =>
    subst null
    exact .short rfl
  next noQuote noEscape _ _ _ _ =>
    split
    next ascii => exact .plain (by rw [IsControl]; omega) noQuote noEscape
    next notAscii =>
      split
      · exact .number
      next visible =>
        simp only [Bool.or_eq_true, decide_eq_true_eq, not_or] at visible
        exact .plain (by rw [IsControl]; omega) noQuote noEscape

theorem not_isControl_of_escaped? {letter c : Char} (known : escaped? letter = some c) :
    ¬IsControl letter := by
  unfold escaped? at known
  split at known
  case h_7 => contradiction
  all_goals decide

/-- What stands for a character holds no control character. -/
theorem Quotes.not_isControl {c d : Char} {text : List Char} (quotes : Quotes c text)
    (member : d ∈ text) : ¬IsControl d := by
  cases quotes with
  | plain visible => rwa [List.mem_singleton.mp member]
  | @short letter known =>
      rw [List.mem_cons, List.mem_singleton] at member
      rcases member with rfl | rfl
      · decide
      · exact not_isControl_of_escaped? known
  | number =>
      rw [numbered, List.cons_append, List.cons_append, List.cons_append, List.mem_cons,
        List.mem_cons, List.mem_cons, List.mem_append, List.mem_singleton] at member
      rcases member with rfl | rfl | rfl | digit | rfl
      · decide
      · decide
      · decide
      · exact (plain_of_mem_lowerHex digit).1
      · decide

/-- Reads what stands for a character at the front of a text.  A bare quotation mark stands for
none. -/
def readQuoted? : List Char → Option (Char × List Char)
  | [] => none
  | '\\' :: 'u' :: rest =>
      let digits := (rest.drop 1).takeWhile (· ≠ '\x7d')
      some (Char.ofNat (hexNumber digits), rest.drop (digits.length + 2))
  | '\\' :: letter :: rest => (escaped? letter).map (·, rest)
  | c :: rest => if c = '"' then none else some (c, rest)

/-- A character is read back from what stands for it. -/
theorem Quotes.readQuoted? {c : Char} {text : List Char} (quotes : Quotes c text) (rest : List Char) :
    readQuoted? (text ++ rest) = some (c, rest) := by
  cases quotes with
  | plain _ noQuote noEscape => simp [Text.readQuoted?, noQuote, noEscape]
  | @short letter known =>
      have notNumber : letter ≠ 'u' := by
        rintro rfl
        contradiction
      simp [Text.readQuoted?, known]
  | number =>
      have digits : (lowerHex c.toNat ++ '\x7d' :: rest).takeWhile (· ≠ '\x7d') =
          lowerHex c.toNat := by
        rw [List.takeWhile_append_of_pos]
        · simp
        · intro d member
          simpa using (plain_of_mem_lowerHex member).2
      have number : hexNumber (lowerHex c.toNat) = c.toNat :=
        digitsNumber_toDigits (by decide) (by decide) c.toNat
      simp only [numbered, Text.readQuoted?, List.cons_append, List.append_assoc, List.nil_append,
        List.drop_succ_cons, List.drop_zero, digits, number, Char.ofNat_toNat]
      rw [List.drop_length_add_append]
      rfl

/-! ## Texts -/

/-- A quoted text holds no control character. -/
theorem controlFree_quote (text : String) : ControlFree (quote text) := by
  intro c member
  rw [quote, String.toList_ofList, List.cons_append, List.mem_cons, List.mem_append,
    List.mem_singleton, List.mem_flatMap] at member
  rcases member with rfl | ⟨d, -, inside⟩ | rfl
  · decide
  · exact (quotes_quotedChar d).not_isControl inside
  · decide

/-- Where quoted characters are followed by a quotation mark, it is clear which they are. -/
theorem flatMap_quotedChar_inj {first second behindFirst behindSecond : List Char}
    (same : first.flatMap quotedChar ++ '"' :: behindFirst =
      second.flatMap quotedChar ++ '"' :: behindSecond) :
    first = second ∧ behindFirst = behindSecond := by
  induction first generalizing second with
  | nil =>
      cases second with
      | nil => exact ⟨rfl, by simpa using same⟩
      | cons d others =>
          have read := congrArg Text.readQuoted? same
          rw [List.flatMap_cons, List.append_assoc, (quotes_quotedChar d).readQuoted?] at read
          contradiction
  | cons c rest inductionHypothesis =>
      have read := congrArg Text.readQuoted? same
      rw [List.flatMap_cons, List.append_assoc, (quotes_quotedChar c).readQuoted?] at read
      cases second with
      | nil => contradiction
      | cons d others =>
          rw [List.flatMap_cons, List.append_assoc, (quotes_quotedChar d).readQuoted?] at read
          obtain ⟨rfl, behind⟩ := Prod.mk.inj (Option.some.inj read)
          obtain ⟨rfl, sameBehind⟩ := inductionHypothesis behind
          exact ⟨rfl, sameBehind⟩

/-- A message that goes on behind a quoted text has one way to be read. -/
theorem quote_append_inj {first second behindFirst behindSecond : String}
    (same : quote first ++ behindFirst = quote second ++ behindSecond) :
    first = second ∧ behindFirst = behindSecond := by
  have letters := congrArg String.toList same
  simp only [quote, String.toList_append, String.toList_ofList, List.cons_append, List.append_assoc,
    List.nil_append, List.cons.injEq, true_and] at letters
  obtain ⟨texts, behind⟩ := flatMap_quotedChar_inj letters
  exact ⟨String.toList_injective texts, String.toList_injective behind⟩

end PubSubProvisioning.Text
