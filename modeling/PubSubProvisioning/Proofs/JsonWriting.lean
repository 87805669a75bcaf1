import Mathlib.Data.List.Forall2
import PubSubProvisioning.Json.Writer
import PubSubProvisioning.Proofs.JsonGrammar

/-!
# Written JSON

A text is written as a string that spells it, and members whose values are written already as an
object of these.  What is written is therefore read as what it was written for.
-/

namespace PubSubProvisioning.Json

/-! ## Strings -/

/-- A control character is written with the four digits of its number. -/
theorem escapedControl_ofNat {code : Nat} (control : code < 0x20) :
    escapedControl (Char.ofNat code) =
      ['\\', 'u', '0', '0', Nat.digitChar (code / 16), Nat.digitChar (code % 16)] := by
  have all : ∀ code ∈ List.range 0x20, escapedControl (Char.ofNat code) =
      ['\\', 'u', '0', '0', Nat.digitChar (code / 16), Nat.digitChar (code % 16)] := by decide
  exact all code (List.mem_range.mpr control)

theorem unit?_digitChar {code : Nat} (control : code < 0x20) :
    unit? '0' '0' (Nat.digitChar (code / 16)) (Nat.digitChar (code % 16)) = some code := by
  have all : ∀ code ∈ List.range 0x20,
      unit? '0' '0' (Nat.digitChar (code / 16)) (Nat.digitChar (code % 16)) = some code := by decide
  exact all code (List.mem_range.mpr control)

/-- However a character is written, it is a piece that spells it. -/
theorem exists_piece_escapedChar (c : Char) :
    ∃ piece, IsPiece piece ((escapedChar c).map some) ∧
      ∀ pieces text, Spells pieces text → Spells (piece :: pieces) (c :: text) := by
  have short : ∀ {letter : Char}, shortEscape? letter = some c →
      ∃ piece, IsPiece piece (['\\', letter].map some) ∧
        ∀ pieces text, Spells pieces text → Spells (piece :: pieces) (c :: text) :=
    fun known => ⟨.char c, .short known, fun _ _ => .char⟩
  unfold escapedChar
  split
  next quote => exact short (by rw [quote]; rfl)
  split
  next backslash => exact short (by rw [backslash]; rfl)
  split
  next backspace => exact short (by rw [backspace]; rfl)
  split
  next formFeed => exact short (by rw [formFeed]; rfl)
  split
  next lineFeed => exact short (by rw [lineFeed]; rfl)
  split
  next carriageReturn => exact short (by rw [carriageReturn]; rfl)
  split
  next tab => exact short (by rw [tab]; rfl)
  split
  next control =>
    have written := escapedControl_ofNat control
    rw [Char.ofNat_toNat] at written
    rw [written]
    refine ⟨.unit c.toNat, .number (unit?_digitChar control), fun pieces text others => ?_⟩
    have spelled := Spells.unit (show c.toNat.isValidChar from c.valid) others
    rwa [Char.ofNat_toNat] at spelled
  next noQuote noBackslash _ _ _ _ _ visible =>
    exact ⟨.char c, .plain noQuote noBackslash (Nat.le_of_not_lt visible), fun _ _ => .char⟩

theorem exists_pieces_escapedChar (text : List Char) :
    ∃ pieces, ArePieces pieces ((text.flatMap escapedChar).map some) ∧ Spells pieces text := by
  induction text with
  | nil => exact ⟨[], .nil, .nil⟩
  | cons c rest inductionHypothesis =>
      obtain ⟨piece, isPiece, spells⟩ := exists_piece_escapedChar c
      obtain ⟨pieces, written, spelled⟩ := inductionHypothesis
      refine ⟨piece :: pieces, ?_, spells pieces rest spelled⟩
      rw [List.flatMap_cons, List.map_append]
      exact .cons isPiece written

/-- Between its quotation marks a written text is a string of this text. -/
theorem isString_escapedChar (text : String) :
    IsString (some text) ((text.toList.flatMap escapedChar).map some) := by
  obtain ⟨pieces, written, spelled⟩ := exists_pieces_escapedChar text.toList
  have isString := IsString.text written spelled
  rwa [String.ofList_toList] at isString

theorem ofText_stringText (text : String) :
    Input.ofText (stringText text) =
      some '"' :: ((text.toList.flatMap escapedChar).map some ++ [some '"']) := by
  rw [Input.ofText, stringText, String.toList_ofList, List.cons_append, List.map_cons,
    List.map_append]
  rfl

theorem isPhrase_stringText (text : String) :
    IsPhrase (.value (.string (some text))) (.ofText (stringText text)) := by
  rw [ofText_stringText]
  exact .string (isString_escapedChar text)

/-! ## Numbers -/

theorem isPhrase_toString (number : Int) :
    IsPhrase (.value (.number (toString number))) (.ofText (toString number)) := by
  have written := IsPhrase.number (isNumeral_toString number)
  rwa [String.ofList_toList] at written

/-! ## Objects -/

/-- What a member is written from: its key, and the text of its value. -/
structure IsWritten (member : Option String × Value) (written : String × String) : Prop where
  key : member.1 = some written.1
  value : IsPhrase (.value member.2) (.ofText written.2)

theorem IsPhrase.unpadded {value : Value} {input : Input} (written : IsPhrase (.value value) input) :
    IsPhrase (.padded value) input := by
  have padded : IsPhrase (.padded value) ([] ++ (input ++ [])) :=
    .padded (List.forall_mem_nil _) written (List.forall_mem_nil _)
  rwa [List.nil_append, List.append_nil] at padded

/-- A member as it is written. -/
def memberText (written : String × String) : String :=
  stringText written.1 ++ ":" ++ written.2

theorem isPhrase_memberText {member : Option String × Value} {written : String × String}
    (isWritten : IsWritten member written) :
    IsPhrase (.member member.1 member.2) (.ofText (memberText written)) := by
  have text : Input.ofText (memberText written) =
      [] ++ some '"' :: ((written.1.toList.flatMap escapedChar).map some ++ some '"' ::
        ([] ++ some ':' :: Input.ofText written.2)) := by
    rw [memberText, Input.ofText_append, Input.ofText_append, ofText_stringText]
    simp [Input.ofText]
  rw [text, isWritten.key]
  exact .member (List.forall_mem_nil _) (isString_escapedChar written.1) (List.forall_mem_nil _)
    isWritten.value.unpadded

theorem isPhrase_memberTexts {members : List (Option String × Value)}
    {written : List (String × String)} (areWritten : List.Forall₂ IsWritten members written)
    (present : written ≠ []) :
    IsPhrase (.members members) (.ofText (",".intercalate (written.map memberText))) := by
  induction areWritten with
  | nil => contradiction
  | @cons member first members others isWritten areWritten inductionHypothesis =>
      have head := isPhrase_memberText isWritten
      cases others with
      | nil =>
          cases areWritten
          rw [List.map_singleton, String.intercalate_singleton]
          exact .lastMember head
      | cons second others =>
          rw [List.map_cons, String.intercalate_cons_of_ne_nil (by simp), Input.ofText_append,
            Input.ofText_append, List.append_assoc]
          exact .members head (inductionHypothesis (List.cons_ne_nil _ _))

theorem ofText_objectText (written : List (String × String)) :
    Input.ofText (objectText written) =
      some '\x7b' ::
        (Input.ofText (",".intercalate (written.map memberText)) ++ [some '\x7d']) := by
  change Input.ofText ("\x7b" ++ ",".intercalate (written.map memberText) ++ "\x7d") = _
  rw [Input.ofText_append, Input.ofText_append]
  rfl

/-- Written members make up an object of them. -/
theorem isPhrase_objectText {members : List (Option String × Value)}
    {written : List (String × String)} (areWritten : List.Forall₂ IsWritten members written) :
    IsPhrase (.value (.object members)) (.ofText (objectText written)) := by
  rw [ofText_objectText]
  cases areWritten with
  | nil => exact .emptyObject (show Blank [] from List.forall_mem_nil _)
  | cons isWritten others =>
      exact .object (isPhrase_memberTexts (.cons isWritten others) (List.cons_ne_nil _ _))

end PubSubProvisioning.Json
