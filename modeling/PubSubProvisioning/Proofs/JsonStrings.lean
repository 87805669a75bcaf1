import PubSubProvisioning.Json.Reader

/-!
# Strings of JSON

How a string is written, said without regard to how it is read: as pieces, of which characters and
surrogates make up a text.  Reading finds the pieces up to the first bare quotation mark.
-/

namespace PubSubProvisioning.Json

variable {input rest : Input}

/-! ## Grammar -/

/-- How a piece of a string is written: a character as it is, unless it ends the string, begins an
escape or is a control; a letter or a number of sixteen bits behind a backslash; or octets that are
no character. -/
inductive IsPiece : Piece → Input → Prop where
  | plain {c : Char} (noQuote : c ≠ '"') (noEscape : c ≠ '\\') (visible : 0x20 ≤ c.toNat) :
      IsPiece (.char c) [some c]
  | short {letter c : Char} (known : shortEscape? letter = some c) :
      IsPiece (.char c) [some '\\', some letter]
  | number {first second third fourth : Char} {value : Nat}
      (spelled : unit? first second third fourth = some value) :
      IsPiece (.unit value)
        [some '\\', some 'u', some first, some second, some third, some fourth]
  | illFormed : IsPiece .illFormed [none]

/-- How pieces are written one after the other. -/
inductive ArePieces : List Piece → Input → Prop where
  | nil : ArePieces [] []
  | cons {piece : Piece} {pieces : List Piece} {front input : Input} (first : IsPiece piece front)
      (others : ArePieces pieces input) : ArePieces (piece :: pieces) (front ++ input)

/-- The text that pieces spell: characters stand for themselves, numbers for the characters of these
numbers, and two surrogates in order for one character. -/
inductive Spells : List Piece → List Char → Prop where
  | nil : Spells [] []
  | char {c : Char} {pieces : List Piece} {text : List Char} (others : Spells pieces text) :
      Spells (.char c :: pieces) (c :: text)
  | unit {value : Nat} {pieces : List Piece} {text : List Char} (valid : value.isValidChar)
      (others : Spells pieces text) : Spells (.unit value :: pieces) (Char.ofNat value :: text)
  | surrogates {high low : Nat} {pieces : List Piece} {text : List Char}
      (isHigh : 0xD800 ≤ high ∧ high < 0xDC00) (isLow : 0xDC00 ≤ low ∧ low < 0xE000)
      (others : Spells pieces text) :
      Spells (.unit high :: .unit low :: pieces)
        (Char.ofNat (0x10000 + (high - 0xD800) * 0x400 + (low - 0xDC00)) :: text)

/-- What a string says between its quotation marks: a text, if its pieces spell one. -/
inductive IsString : Option String → Input → Prop where
  | text {pieces : List Piece} {text : List Char} {input : Input} (written : ArePieces pieces input)
      (spelled : Spells pieces text) : IsString (some (String.ofList text)) input
  | broken {pieces : List Piece} {input : Input} (written : ArePieces pieces input)
      (unspelled : ∀ text, ¬Spells pieces text) : IsString none input

/-! ## Reading -/

/-- A piece is read off the front of a string. -/
theorem stringPieces?_of_isPiece {piece : Piece} {front : Input} (isPiece : IsPiece piece front)
    (rest : Input) :
    stringPieces? (front ++ rest) =
      (stringPieces? rest).map fun (pieces, rest) => (piece :: pieces, rest) := by
  cases isPiece with
  | @plain c noQuote noEscape visible =>
      have allowed : ¬(c = '\\' ∨ c.toNat < 0x20) := by
        simp only [noEscape, false_or]
        omega
      rw [List.singleton_append, stringPieces?.eq_5 c rest noQuote (fun _ _ _ _ _ _ => noEscape)
        (fun _ _ _ => noEscape), if_neg allowed]
      cases stringPieces? rest <;> rfl
  | @short letter c known =>
      have notNumber : letter = 'u' → False := by
        rintro rfl
        contradiction
      rw [List.cons_append, List.singleton_append,
        stringPieces?.eq_4 letter rest (fun _ _ _ _ _ _ => notNumber), known]
      cases stringPieces? rest <;> rfl
  | @number first second third fourth value spelled =>
      rw [List.cons_append, List.cons_append, List.cons_append, List.cons_append, List.cons_append,
        List.singleton_append, stringPieces?.eq_3, spelled]
      cases stringPieces? rest <;> rfl
  | illFormed =>
      rw [List.singleton_append, stringPieces?.eq_6]
      cases stringPieces? rest <;> rfl

theorem stringPieces?_of_arePieces {pieces : List Piece} (written : ArePieces pieces input)
    (rest : Input) : stringPieces? (input ++ some '"' :: rest) = some (pieces, rest) := by
  induction written with
  | nil => exact stringPieces?.eq_2 rest
  | cons first _ inductionHypothesis =>
      rw [List.append_assoc, stringPieces?_of_isPiece first, inductionHypothesis]
      rfl

theorem arePieces_cons_of_stringPieces? {piece : Piece} {pieces : List Piece} {front : Input}
    (first : IsPiece piece front)
    (others : ∀ {pieces}, stringPieces? input = some (pieces, rest) →
      ∃ front, ArePieces pieces front ∧ input = front ++ some '"' :: rest)
    (read : stringPieces? (front ++ input) = some (pieces, rest)) :
    ∃ text, ArePieces pieces text ∧ front ++ input = text ++ some '"' :: rest := by
  rw [stringPieces?_of_isPiece first, Option.map_eq_some_iff] at read
  obtain ⟨⟨behind, after⟩, readBehind, same⟩ := read
  obtain ⟨rfl, rfl⟩ := Prod.mk.inj same
  obtain ⟨text, written, rfl⟩ := others readBehind
  exact ⟨front ++ text, .cons first written, (List.append_assoc _ _ _).symm⟩

/-- The pieces that are read are written up to the closing quotation mark. -/
theorem arePieces_of_stringPieces? {pieces : List Piece}
    (read : stringPieces? input = some (pieces, rest)) :
    ∃ front, ArePieces pieces front ∧ input = front ++ some '"' :: rest := by
  induction input using stringPieces?.induct generalizing pieces with
  | case1 => contradiction
  | case2 behind =>
      obtain ⟨rfl, rfl⟩ := Prod.mk.inj (Option.some.inj ((stringPieces?.eq_2 behind).symm.trans read))
      exact ⟨[], .nil, rfl⟩
  | case3 first second third fourth behind inductionHypothesis =>
      cases spelled : unit? first second third fourth with
      | none =>
          rw [stringPieces?.eq_3, spelled] at read
          contradiction
      | some value => exact arePieces_cons_of_stringPieces? (.number spelled) inductionHypothesis read
  | case4 letter behind notNumber inductionHypothesis =>
      cases known : shortEscape? letter with
      | none =>
          rw [stringPieces?.eq_4 letter behind notNumber, known] at read
          contradiction
      | some c => exact arePieces_cons_of_stringPieces? (.short known) inductionHypothesis read
  | case5 c behind noQuote noNumber noEscape refused =>
      rw [stringPieces?.eq_5 c behind noQuote noNumber noEscape, if_pos refused] at read
      contradiction
  | case6 c behind noQuote noNumber noEscape allowed inductionHypothesis =>
      rw [not_or, Nat.not_lt] at allowed
      exact arePieces_cons_of_stringPieces? (.plain noQuote allowed.1 allowed.2)
        inductionHypothesis read
  | case7 behind inductionHypothesis =>
      exact arePieces_cons_of_stringPieces? .illFormed inductionHypothesis read

/-- A surrogate is not the number of a character. -/
theorem not_isValidChar_of_high {value : Nat} (isHigh : 0xD800 ≤ value ∧ value < 0xDC00) :
    ¬value.isValidChar := by
  rw [Nat.isValidChar]
  omega

/-- A number that is one of a character stands for it, whatever follows. -/
theorem textOf?_unit {value : Nat} (valid : value.isValidChar) (pieces : List Piece) :
    textOf? (.unit value :: pieces) = (textOf? pieces).map (Char.ofNat value :: ·) := by
  cases pieces with
  | nil => rw [textOf?.eq_4, if_pos valid]; rfl
  | cons next others => cases next <;> simp [textOf?, valid]

theorem textOf?_eq_some_iff {pieces : List Piece} {text : List Char} :
    textOf? pieces = some text ↔ Spells pieces text := by
  constructor
  · intro read
    induction pieces using textOf?.induct generalizing text with
    | case1 =>
        obtain rfl := Option.some.inj read
        exact .nil
    | case2 c pieces inductionHypothesis =>
        rw [textOf?.eq_2, Option.map_eq_some_iff] at read
        obtain ⟨others, readOthers, rfl⟩ := read
        exact .char (inductionHypothesis readOthers)
    | case3 => contradiction
    | case4 value valid =>
        rw [textOf?.eq_4, if_pos valid] at read
        obtain rfl := Option.some.inj read
        exact .unit valid .nil
    | case5 value invalid =>
        rw [textOf?.eq_4, if_neg invalid] at read
        contradiction
    | case6 value next pieces valid inductionHypothesis =>
        rw [textOf?_unit valid, Option.map_eq_some_iff] at read
        obtain ⟨others, readOthers, rfl⟩ := read
        exact .unit valid (inductionHypothesis readOthers)
    | case7 value pieces invalid low pair inductionHypothesis =>
        rw [textOf?.eq_5, if_neg invalid, if_pos pair, Option.map_eq_some_iff] at read
        obtain ⟨others, readOthers, rfl⟩ := read
        exact .surrogates ⟨pair.1, pair.2.1⟩ pair.2.2 (inductionHypothesis readOthers)
    | case8 value pieces invalid low lone =>
        rw [textOf?.eq_5, if_neg invalid, if_neg lone] at read
        contradiction
    | case9 value next pieces invalid lone =>
        cases next with
        | unit low => exact absurd rfl (lone low)
        | _ => simp [textOf?, invalid] at read
  · intro spells
    induction spells with
    | nil => rfl
    | char _ inductionHypothesis => rw [textOf?.eq_2, inductionHypothesis]; rfl
    | @unit value pieces text valid _ inductionHypothesis =>
        rw [textOf?_unit valid, inductionHypothesis]
        rfl
    | surrogates isHigh isLow _ inductionHypothesis =>
        rw [textOf?.eq_5, if_neg (not_isValidChar_of_high isHigh),
          if_pos ⟨isHigh.1, isHigh.2, isLow⟩, inductionHypothesis]
        rfl

/-- A string is read up to its closing quotation mark. -/
theorem string?_eq_some_iff {text : Option String} :
    string? input = some (text, rest) ↔
      ∃ inner, IsString text inner ∧ input = inner ++ some '"' :: rest := by
  constructor
  · intro read
    obtain ⟨⟨pieces, behind⟩, readPieces, same⟩ := Option.bind_eq_some_iff.mp read
    obtain ⟨rfl, rfl⟩ := Prod.mk.inj (Option.some.inj same)
    obtain ⟨inner, written, rfl⟩ := arePieces_of_stringPieces? readPieces
    refine ⟨inner, ?_, rfl⟩
    cases spelled : textOf? pieces with
    | none =>
        refine .broken written fun text spells => ?_
        rw [textOf?_eq_some_iff.mpr spells] at spelled
        contradiction
    | some text => exact .text written (textOf?_eq_some_iff.mp spelled)
  · rintro ⟨inner, isString, rfl⟩
    cases isString with
    | text written spelled =>
        rw [string?, stringPieces?_of_arePieces written]
        simp [textOf?_eq_some_iff.mpr spelled]
    | broken written unspelled =>
        rw [string?, stringPieces?_of_arePieces written]
        simpa [Option.eq_none_iff_forall_ne_some, textOf?_eq_some_iff] using unspelled

end PubSubProvisioning.Json
