import Mathlib.Data.List.TakeWhile
import PubSubProvisioning.Proofs.JsonNumerals
import PubSubProvisioning.Proofs.JsonStrings

/-!
# The grammar of JSON

    value    := "null" | "true" | "false" | numeral | string
              | "[" blanks "]" | "[" elements "]" | "{" blanks "}" | "{" members "}"
    padded   := blanks value blanks
    elements := padded | padded "," elements
    member   := blanks string blanks ":" padded
    members  := member | member "," members

Reading finds the value of which an input is the padded text, and fails on any other input.  So an
input is the text of one value at most.
-/

namespace PubSubProvisioning.Json

variable {input rest : Input}

theorem Input.ofText_append (first second : String) :
    Input.ofText (first ++ second) = .ofText first ++ .ofText second := by
  rw [Input.ofText, String.toList_append, List.map_append]
  rfl

/-! ## Blanks -/

/-- The four blanks. -/
def isBlank (c : Option Char) : Bool :=
  c = some ' ' || c = some '\t' || c = some '\n' || c = some '\r'

/-- A run of blanks, which may be empty. -/
def Blank (input : Input) : Prop :=
  ∀ c ∈ input, isBlank c = true

theorem skipBlanks_eq (input : Input) : skipBlanks input = input.dropWhile isBlank :=
  rfl

theorem skipBlanks_append {before : Input} (blank : Blank before) (rest : Input) :
    skipBlanks (before ++ rest) = skipBlanks rest := by
  rw [skipBlanks_eq, List.dropWhile_append_of_pos blank, skipBlanks_eq]

theorem skipBlanks_cons {c : Option Char} (visible : isBlank c = false) (rest : Input) :
    skipBlanks (c :: rest) = c :: rest := by
  rw [skipBlanks_eq, List.dropWhile_cons_of_neg (by simp [visible])]

theorem exists_blank_append (input : Input) :
    ∃ before, Blank before ∧ input = before ++ skipBlanks input :=
  ⟨input.takeWhile isBlank, List.all_eq_true.mp List.all_takeWhile,
    List.takeWhile_append_dropWhile.symm⟩

theorem skipBlanks_eq_nil_iff : skipBlanks input = [] ↔ Blank input :=
  List.dropWhile_eq_nil_iff

/-! ## Grammar -/

/-- What a part of an input stands for. -/
inductive Phrase where
  | value (value : Value)
  | padded (value : Value)
  | elements (list : List Value)
  | member (key : Option String) (value : Value)
  | members (list : List (Option String × Value))

/-- The inputs that stand for a phrase. -/
inductive IsPhrase : Phrase → Input → Prop where
  | null : IsPhrase (.value .null) (.ofText "null")
  | bool (value : Bool) : IsPhrase (.value (.bool value)) (.ofText (toString value))
  | number {numeral : List Char} (isNumeral : IsNumeral numeral) :
      IsPhrase (.value (.number (String.ofList numeral))) (numeral.map some)
  | string {text : Option String} {inner : Input} (isString : IsString text inner) :
      IsPhrase (.value (.string text)) (some '"' :: (inner ++ [some '"']))
  | emptyArray {blanks : Input} (blank : Blank blanks) :
      IsPhrase (.value (.array [])) (some '[' :: (blanks ++ [some ']']))
  | array {list : List Value} {inner : Input} (written : IsPhrase (.elements list) inner) :
      IsPhrase (.value (.array list)) (some '[' :: (inner ++ [some ']']))
  | emptyObject {blanks : Input} (blank : Blank blanks) :
      IsPhrase (.value (.object [])) (some '\x7b' :: (blanks ++ [some '\x7d']))
  | object {list : List (Option String × Value)} {inner : Input}
      (written : IsPhrase (.members list) inner) :
      IsPhrase (.value (.object list)) (some '\x7b' :: (inner ++ [some '\x7d']))
  | padded {value : Value} {before text after : Input} (blankBefore : Blank before)
      (written : IsPhrase (.value value) text) (blankAfter : Blank after) :
      IsPhrase (.padded value) (before ++ (text ++ after))
  | lastElement {value : Value} {text : Input} (written : IsPhrase (.padded value) text) :
      IsPhrase (.elements [value]) text
  | element {value : Value} {list : List Value} {text others : Input}
      (written : IsPhrase (.padded value) text) (followed : IsPhrase (.elements list) others) :
      IsPhrase (.elements (value :: list)) (text ++ some ',' :: others)
  | member {key : Option String} {value : Value} {before inner between text : Input}
      (blankBefore : Blank before) (isString : IsString key inner) (blankBetween : Blank between)
      (written : IsPhrase (.padded value) text) :
      IsPhrase (.member key value)
        (before ++ some '"' :: (inner ++ some '"' :: (between ++ some ':' :: text)))
  | lastMember {key : Option String} {value : Value} {text : Input}
      (written : IsPhrase (.member key value) text) : IsPhrase (.members [(key, value)]) text
  | members {key : Option String} {value : Value} {list : List (Option String × Value)}
      {text others : Input} (written : IsPhrase (.member key value) text)
      (followed : IsPhrase (.members list) others) :
      IsPhrase (.members ((key, value) :: list)) (text ++ some ',' :: others)

/-! ## Beginnings -/

/-- The characters that a value can begin with. -/
def opensValue (c : Char) : Bool :=
  c.isDigit || "-\"[\x7bntf".toList.contains c

/-- A phrase begins with blanks and a character that a value can begin with. -/
def Opens (input : Input) : Prop :=
  ∃ before c behind, Blank before ∧ input = before ++ some c :: behind ∧ opensValue c = true

theorem Opens.cons {c : Char} (opens : opensValue c = true) (behind : Input) :
    Opens (some c :: behind) :=
  ⟨[], c, behind, nofun, rfl, opens⟩

theorem Opens.append (opens : Opens input) (rest : Input) : Opens (input ++ rest) := by
  obtain ⟨before, c, behind, blank, rfl, opensValue⟩ := opens
  exact ⟨before, c, behind ++ rest, blank, by rw [List.append_assoc, List.cons_append], opensValue⟩

theorem Opens.blank_append {before : Input} (blank : Blank before) (opens : Opens input) :
    Opens (before ++ input) := by
  obtain ⟨more, c, behind, blankMore, rfl, opensValue⟩ := opens
  exact ⟨before ++ more, c, behind, List.forall_mem_append.mpr ⟨blank, blankMore⟩,
    (List.append_assoc _ _ _).symm, opensValue⟩

/-- A numeral begins with its sign or with a digit. -/
theorem IsNumeral.exists_cons {numeral : List Char} (isNumeral : IsNumeral numeral) :
    ∃ c others, numeral = c :: others ∧ (c = '-' ∨ c.isDigit = true) := by
  cases isNumeral with
  | parts signed isWhole _ _ =>
      obtain ⟨c, others, rfl⟩ := List.exists_cons_of_ne_nil isWhole.present
      have digit : c.isDigit = true := isWhole.digits c List.mem_cons_self
      rcases signed with rfl | rfl
      · exact ⟨c, _, rfl, .inr digit⟩
      · exact ⟨'-', _, rfl, .inl rfl⟩

theorem IsPhrase.opens {phrase : Phrase} (isPhrase : IsPhrase phrase input) : Opens input := by
  induction isPhrase with
  | null => exact .cons rfl _
  | bool value => cases value <;> exact .cons rfl _
  | number isNumeral =>
      obtain ⟨c, others, rfl, begins⟩ := isNumeral.exists_cons
      refine .cons ?_ _
      rcases begins with rfl | digit
      · rfl
      · simp [opensValue, digit]
  | string | emptyArray | array | emptyObject | object => exact .cons rfl _
  | padded blankBefore _ _ inductionHypothesis =>
      exact .blank_append blankBefore (inductionHypothesis.append _)
  | lastElement _ inductionHypothesis => exact inductionHypothesis
  | element _ _ inductionHypothesis _ => exact inductionHypothesis.append _
  | member blankBefore => exact .blank_append blankBefore (.cons rfl _)
  | lastMember _ inductionHypothesis => exact inductionHypothesis
  | members _ _ inductionHypothesis _ => exact inductionHypothesis.append _

theorem Opens.length_pos (opens : Opens input) : 0 < input.length := by
  obtain ⟨before, c, behind, _, rfl, _⟩ := opens
  simp only [List.length_append, List.length_cons]
  omega

/-- No value begins with a blank. -/
theorem isBlank_of_opensValue {c : Char} (opens : opensValue c = true) : isBlank (some c) = false := by
  rw [Bool.eq_false_iff]
  intro blank
  simp only [isBlank, Option.some.injEq, Bool.or_eq_true, decide_eq_true_eq] at blank
  rcases blank with ((rfl | rfl) | rfl) | rfl <;> contradiction

/-! ## Steps of reading -/

theorem value?_blank_append {before : Input} (blank : Blank before) (fuel : Nat) (rest : Input) :
    value? fuel (before ++ rest) = value? fuel rest := by
  cases fuel with
  | zero => rfl
  | succ fuel => rw [value?, value?, skipBlanks_append blank]

theorem element?_blank_append {before : Input} (blank : Blank before) (fuel : Nat) (rest : Input) :
    element? fuel (before ++ rest) = element? fuel rest := by
  cases fuel with
  | zero => rfl
  | succ fuel => rw [element?, element?, value?_blank_append blank]

theorem member?_blank_append {before : Input} (blank : Blank before) (fuel : Nat) (rest : Input) :
    member? fuel (before ++ rest) = member? fuel rest := by
  cases fuel with
  | zero => rfl
  | succ fuel => rw [member?, member?, skipBlanks_append blank]

/-- The rest of a list: its closing bracket or an item, which follows a comma unless it is the
first. -/
def listRest? {α : Type} (close : Char) (item? : Input → Option (List α × Input)) (first : Bool)
    (input : Input) : Option (List α × Input) :=
  match skipBlanks input with
  | some c :: rest =>
      if c = close then some ([], rest)
      else if first then item? (some c :: rest)
      else if c = ',' then item? rest
      else none
  | rest => if first then item? rest else none

theorem elements?_eq (fuel : Nat) (first : Bool) (input : Input) :
    elements? (fuel + 1) first input = listRest? ']' (element? fuel) first input := by
  unfold elements? listRest?
  rcases skipBlanks input with _ | ⟨_ | c, behind⟩
  · cases first <;> rfl
  · cases first <;> rfl
  · by_cases isClose : c = ']'
    · subst isClose
      cases first <;> rfl
    · by_cases isComma : c = ','
      · subst isComma
        cases first <;> rfl
      · cases first <;> simp [isClose, isComma]

theorem members?_eq (fuel : Nat) (first : Bool) (input : Input) :
    members? (fuel + 1) first input = listRest? '\x7d' (member? fuel) first input := by
  unfold members? listRest?
  rcases skipBlanks input with _ | ⟨_ | c, behind⟩
  · cases first <;> rfl
  · cases first <;> rfl
  · by_cases isClose : c = '\x7d'
    · subst isClose
      cases first <;> rfl
    · by_cases isComma : c = ','
      · subst isComma
        cases first <;> rfl
      · cases first <;> simp [isClose, isComma]

section ListRest

variable {α : Type} {close : Char} {item? : Input → Option (List α × Input)} {list : List α}

theorem listRest?_close (close : Char) (visible : isBlank (some close) = false) {before : Input}
    (blank : Blank before) (first : Bool) (rest : Input) :
    listRest? close item? first (before ++ some close :: rest) = some ([], rest) := by
  simp [listRest?, skipBlanks_append blank, skipBlanks_cons visible]

theorem listRest?_comma (close : Char) (other : ',' ≠ close) {before : Input} (blank : Blank before)
    (rest : Input) :
    listRest? close item? false (before ++ some ',' :: rest) = item? rest := by
  simp [listRest?, skipBlanks_append blank, skipBlanks_cons (c := some ',') rfl, other]

/-- What a value can begin with is the beginning of the first item. -/
theorem listRest?_opens (close : Char) (closes : opensValue close = false)
    (passes : ∀ before rest, Blank before → item? (before ++ rest) = item? rest)
    (opens : Opens input) : listRest? close item? true input = item? input := by
  obtain ⟨before, c, behind, blank, rfl, opensValue⟩ := opens
  have other : c ≠ close := by
    rintro rfl
    rw [opensValue] at closes
    contradiction
  simp [listRest?, skipBlanks_append blank, skipBlanks_cons (isBlank_of_opensValue opensValue), other,
    passes _ _ blank]

theorem listRest?_first
    (passes : ∀ before rest, Blank before → item? (before ++ rest) = item? rest)
    (read : listRest? close item? true input = some (list, rest)) :
    (list = [] ∧ ∃ blanks, Blank blanks ∧ input = blanks ++ some close :: rest) ∨
      item? input = some (list, rest) := by
  obtain ⟨before, blank, split⟩ := exists_blank_append input
  rw [split, passes _ _ blank]
  unfold listRest? at read
  split at read
  next c behind visible =>
    rw [visible]
    split at read
    next isClose =>
      obtain ⟨rfl, rfl⟩ := Prod.mk.inj (Option.some.inj read)
      exact .inl ⟨rfl, before, blank, by rw [isClose]⟩
    next => exact .inr read
  next => exact .inr read

theorem listRest?_next (read : listRest? close item? false input = some (list, rest)) :
    ∃ blanks, Blank blanks ∧
      ((list = [] ∧ input = blanks ++ some close :: rest) ∨
        ∃ others, input = blanks ++ some ',' :: others ∧ item? others = some (list, rest)) := by
  obtain ⟨before, blank, split⟩ := exists_blank_append input
  refine ⟨before, blank, ?_⟩
  rw [split]
  unfold listRest? at read
  split at read
  next c behind visible =>
    rw [visible]
    split at read
    next isClose =>
      obtain ⟨rfl, rfl⟩ := Prod.mk.inj (Option.some.inj read)
      exact .inl ⟨rfl, by rw [isClose]⟩
    next =>
      simp only [Bool.false_eq_true, if_false] at read
      split at read
      next isComma => exact .inr ⟨behind, by rw [isComma], read⟩
      next => contradiction
  next => contradiction

end ListRest

theorem value?_quote (fuel : Nat) (rest : Input) :
    value? (fuel + 1) (some '"' :: rest) =
      (string? rest).map fun (text, rest) => (.string text, rest) :=
  rfl

theorem value?_bracket (fuel : Nat) (rest : Input) :
    value? (fuel + 1) (some '[' :: rest) =
      (elements? fuel true rest).map fun (list, rest) => (.array list, rest) :=
  rfl

theorem value?_brace (fuel : Nat) (rest : Input) :
    value? (fuel + 1) (some '\x7b' :: rest) =
      (members? fuel true rest).map fun (list, rest) => (.object list, rest) :=
  rfl

theorem value?_numeral {numeral : List Char} (isNumeral : IsNumeral numeral) (stops : Stops rest)
    (fuel : Nat) :
    value? (fuel + 1) (numeral.map some ++ rest) =
      some (.number (String.ofList numeral), rest) := by
  obtain ⟨c, others, rfl, begins⟩ := isNumeral.exists_cons
  have read := number?_of_isNumeral isNumeral stops
  have opens : opensValue c = true := by
    rcases begins with rfl | digit
    · rfl
    · simp [opensValue, digit]
  have other : c ≠ '"' ∧ c ≠ '[' ∧ c ≠ '\x7b' ∧ c ≠ 'n' ∧ c ≠ 't' ∧ c ≠ 'f' := by
    refine ⟨?_, ?_, ?_, ?_, ?_, ?_⟩ <;> (rintro rfl; simp at begins)
  rw [List.map_cons, List.cons_append] at read ⊢
  rw [value?, skipBlanks_cons (isBlank_of_opensValue opens), ← read]
  simp [other]

/-! ## Completeness -/

/-- What it is for a phrase to be read.  The fuel is three times the length at the most; a number
has to be followed by something else. -/
def IsReadAs (input : Input) : Phrase → Prop
  | .value value =>
      ∀ fuel rest, 3 * input.length ≤ fuel + 2 → (∀ numeral, value = .number numeral → Stops rest) →
        value? fuel (input ++ rest) = some (value, rest)
  | .padded value =>
      ∃ after, Blank after ∧ ∀ fuel rest, 3 * input.length ≤ fuel + 2 → Stops rest →
        value? fuel (input ++ rest) = some (value, after ++ rest)
  | .elements list =>
      ∀ fuel rest, 3 * input.length ≤ fuel + 1 →
        element? fuel (input ++ some ']' :: rest) = some (list, rest)
  | .member key value =>
      ∃ after, Blank after ∧ ∀ fuel rest, 3 * input.length ≤ fuel + 2 → Stops rest →
        member? (fuel + 1) (input ++ rest) =
          (members? fuel false (after ++ rest)).map fun (others, rest) =>
            ((key, value) :: others, rest)
  | .members list =>
      ∀ fuel rest, 3 * input.length ≤ fuel + 1 →
        member? fuel (input ++ some '\x7d' :: rest) = some (list, rest)

theorem stops_cons {c : Char} (stops : continuesNumeral c = false) (rest : Input) :
    Stops (some c :: rest) := by
  intro d first
  obtain rfl := Option.some.inj (Option.some.inj first)
  exact stops

theorem Stops.blank_append {after : Input} (blank : Blank after) (stops : Stops rest) :
    Stops (after ++ rest) := by
  cases after with
  | nil => exact stops
  | cons c others =>
      intro d first
      obtain rfl : c = some d := Option.some.inj first
      have isBlank := blank (some d) List.mem_cons_self
      simp only [Json.isBlank, Option.some.injEq, Bool.or_eq_true, decide_eq_true_eq] at isBlank
      rcases isBlank with ((rfl | rfl) | rfl) | rfl <;> rfl

theorem exists_eq_succ_of_enough {fuel : Nat} (enough : 3 * input.length ≤ fuel + 2)
    (present : 0 < input.length) : ∃ less, fuel = less + 1 :=
  Nat.exists_eq_add_of_le' (by omega)

/-- A phrase is read from where it stands, whatever follows. -/
theorem IsPhrase.isReadAs {phrase : Phrase} (isPhrase : IsPhrase phrase input) :
    IsReadAs input phrase := by
  induction isPhrase with
  | null =>
      intro fuel rest enough _
      obtain ⟨fuel, rfl⟩ := exists_eq_succ_of_enough enough (by decide)
      rfl
  | bool value =>
      intro fuel rest enough _
      obtain ⟨fuel, rfl⟩ := exists_eq_succ_of_enough enough (by cases value <;> decide)
      cases value <;> rfl
  | number isNumeral =>
      intro fuel rest enough stops
      obtain ⟨fuel, rfl⟩ :=
        exists_eq_succ_of_enough enough (IsPhrase.number isNumeral).opens.length_pos
      exact value?_numeral isNumeral (stops _ rfl) fuel
  | @string text inner isString =>
      intro fuel rest enough _
      obtain ⟨fuel, rfl⟩ := exists_eq_succ_of_enough enough (Nat.succ_pos _)
      have read : string? (inner ++ some '"' :: rest) = some (text, rest) :=
        string?_eq_some_iff.mpr ⟨inner, isString, rfl⟩
      rw [List.cons_append, List.append_assoc, List.singleton_append, value?_quote, read]
      rfl
  | @emptyArray blanks blank =>
      intro fuel rest enough _
      simp only [List.length_cons, List.length_append, List.length_nil] at enough
      obtain ⟨fuel, rfl⟩ := Nat.exists_eq_add_of_le' (show 2 ≤ fuel by omega)
      rw [List.cons_append, List.append_assoc, List.singleton_append, value?_bracket, elements?_eq,
        listRest?_close ']' rfl blank]
      rfl
  | array written inductionHypothesis =>
      intro fuel rest enough _
      simp only [List.length_cons, List.length_append, List.length_nil] at enough
      obtain ⟨fuel, rfl⟩ := Nat.exists_eq_add_of_le' (show 2 ≤ fuel by omega)
      rw [List.cons_append, List.append_assoc, List.singleton_append, value?_bracket, elements?_eq,
        listRest?_opens ']' rfl (fun _ _ blank => element?_blank_append blank fuel _)
          (written.opens.append _),
        inductionHypothesis fuel rest (by omega)]
      rfl
  | emptyObject blank =>
      intro fuel rest enough _
      simp only [List.length_cons, List.length_append, List.length_nil] at enough
      obtain ⟨fuel, rfl⟩ := Nat.exists_eq_add_of_le' (show 2 ≤ fuel by omega)
      rw [List.cons_append, List.append_assoc, List.singleton_append, value?_brace, members?_eq,
        listRest?_close '\x7d' rfl blank]
      rfl
  | object written inductionHypothesis =>
      intro fuel rest enough _
      simp only [List.length_cons, List.length_append, List.length_nil] at enough
      obtain ⟨fuel, rfl⟩ := Nat.exists_eq_add_of_le' (show 2 ≤ fuel by omega)
      rw [List.cons_append, List.append_assoc, List.singleton_append, value?_brace, members?_eq,
        listRest?_opens '\x7d' rfl (fun _ _ blank => member?_blank_append blank fuel _)
          (written.opens.append _),
        inductionHypothesis fuel rest (by omega)]
      rfl
  | @padded value before text after blankBefore written blankAfter inductionHypothesis =>
      refine ⟨after, blankAfter, fun fuel rest enough stops => ?_⟩
      simp only [List.length_append] at enough
      rw [List.append_assoc, value?_blank_append blankBefore, List.append_assoc]
      exact inductionHypothesis fuel (after ++ rest) (by omega)
        fun _ _ => stops.blank_append blankAfter
  | lastElement written inductionHypothesis =>
      obtain ⟨after, blank, readValue⟩ := inductionHypothesis
      intro fuel rest enough
      have long := written.opens.length_pos
      obtain ⟨fuel, rfl⟩ := Nat.exists_eq_add_of_le' (show 2 ≤ fuel by omega)
      rw [element?, readValue (fuel + 1) _ (by omega) (stops_cons rfl rest)]
      simp [elements?_eq, listRest?_close ']' rfl blank]
  | element written followed inductionHypothesis inductionHypothesisOthers =>
      obtain ⟨after, blank, readValue⟩ := inductionHypothesis
      intro fuel rest enough
      simp only [List.length_cons, List.length_append] at enough
      obtain ⟨fuel, rfl⟩ := Nat.exists_eq_add_of_le' (show 2 ≤ fuel by omega)
      rw [List.append_assoc, List.cons_append, element?,
        readValue (fuel + 1) _ (by omega) (stops_cons rfl _)]
      simp [elements?_eq, listRest?_comma ']' (by decide) blank,
        inductionHypothesisOthers fuel rest (by omega)]
  | @member key value before inner between text blankBefore isString blankBetween written
      inductionHypothesis =>
      obtain ⟨after, blank, readValue⟩ := inductionHypothesis
      refine ⟨after, blank, fun fuel rest enough stops => ?_⟩
      simp only [List.length_cons, List.length_append] at enough
      have readKey : string? (inner ++ some '"' :: (between ++ some ':' :: (text ++ rest))) =
          some (key, between ++ some ':' :: (text ++ rest)) :=
        string?_eq_some_iff.mpr ⟨inner, isString, rfl⟩
      simp only [List.append_assoc, List.cons_append]
      rw [member?_blank_append blankBefore, member?, skipBlanks_cons rfl]
      simp only [readKey, skipBlanks_append blankBetween, skipBlanks_cons (c := some ':') rfl,
        readValue fuel rest (by omega) stops, Option.bind_eq_bind, Option.bind_some]
      cases members? fuel false (after ++ rest) <;> rfl
  | lastMember written inductionHypothesis =>
      obtain ⟨after, blank, readMember⟩ := inductionHypothesis
      intro fuel rest enough
      have long := written.opens.length_pos
      obtain ⟨fuel, rfl⟩ := Nat.exists_eq_add_of_le' (show 2 ≤ fuel by omega)
      rw [readMember (fuel + 1) _ (by omega) (stops_cons rfl rest), members?_eq,
        listRest?_close '\x7d' rfl blank]
      rfl
  | members written followed inductionHypothesis inductionHypothesisOthers =>
      obtain ⟨after, blank, readMember⟩ := inductionHypothesis
      intro fuel rest enough
      simp only [List.length_cons, List.length_append] at enough
      obtain ⟨fuel, rfl⟩ := Nat.exists_eq_add_of_le' (show 2 ≤ fuel by omega)
      rw [List.append_assoc, List.cons_append,
        readMember (fuel + 1) _ (by omega) (stops_cons rfl _), members?_eq,
        listRest?_comma '\x7d' (by decide) blank, inductionHypothesisOthers fuel rest (by omega)]
      rfl

/-! ## Soundness -/

/-- What is read with some fuel is a phrase. -/
structure ReadsPhrases (fuel : Nat) : Prop where
  value : ∀ {input rest value}, value? fuel input = some (value, rest) →
    ∃ blanks text, Blank blanks ∧ IsPhrase (.value value) text ∧ input = blanks ++ (text ++ rest)
  elements : ∀ {input rest list}, element? fuel input = some (list, rest) →
    ∃ text, IsPhrase (.elements list) text ∧ input = text ++ some ']' :: rest
  members : ∀ {input rest list}, member? fuel input = some (list, rest) →
    ∃ text, IsPhrase (.members list) text ∧ input = text ++ some '\x7d' :: rest

theorem eq_of_afterWord? {word : String} (read : afterWord? word input = some rest) :
    input = .ofText word ++ rest := by
  unfold afterWord? at read
  split at read
  next isFront =>
    obtain ⟨behind, rfl⟩ := List.isPrefixOf_iff_prefix.mp isFront
    obtain rfl := Option.some.inj read
    have length : (word.toList.map some).length = word.length := by
      rw [List.length_map, String.length_toList]
    rw [Input.ofText, List.drop_left' length]
  next => contradiction

theorem exists_array_of_elements? {fuel : Nat} {list : List Value}
    (reads : ∀ less < fuel, ReadsPhrases less)
    (read : elements? fuel true input = some (list, rest)) :
    ∃ text, IsPhrase (.value (.array list)) text ∧ some '[' :: input = text ++ rest := by
  cases fuel with
  | zero => contradiction
  | succ fuel =>
      rw [elements?_eq] at read
      rcases listRest?_first (fun _ _ blank => element?_blank_append blank fuel _) read with
        ⟨rfl, blanks, blank, rfl⟩ | readElements
      · exact ⟨_, .emptyArray blank, by simp⟩
      · obtain ⟨text, written, rfl⟩ := (reads fuel (Nat.lt_succ_self fuel)).elements readElements
        exact ⟨_, .array written, by simp⟩

theorem exists_object_of_members? {fuel : Nat} {list : List (Option String × Value)}
    (reads : ∀ less < fuel, ReadsPhrases less)
    (read : members? fuel true input = some (list, rest)) :
    ∃ text, IsPhrase (.value (.object list)) text ∧ some '\x7b' :: input = text ++ rest := by
  cases fuel with
  | zero => contradiction
  | succ fuel =>
      rw [members?_eq] at read
      rcases listRest?_first (fun _ _ blank => member?_blank_append blank fuel _) read with
        ⟨rfl, blanks, blank, rfl⟩ | readMembers
      · exact ⟨_, .emptyObject blank, by simp⟩
      · obtain ⟨text, written, rfl⟩ := (reads fuel (Nat.lt_succ_self fuel)).members readMembers
        exact ⟨_, .object written, by simp⟩

theorem exists_value_of_value? {fuel : Nat} {value : Value}
    (reads : ∀ less < fuel, ReadsPhrases less) (read : value? fuel input = some (value, rest)) :
    ∃ blanks text, Blank blanks ∧ IsPhrase (.value value) text ∧
      input = blanks ++ (text ++ rest) := by
  obtain ⟨before, blank, split⟩ := exists_blank_append input
  suffices visible : ∃ text, IsPhrase (.value value) text ∧ skipBlanks input = text ++ rest by
    obtain ⟨text, written, same⟩ := visible
    exact ⟨before, text, blank, written, by rw [← same]; exact split⟩
  cases fuel with
  | zero => contradiction
  | succ fuel =>
      have readsLess : ∀ less < fuel, ReadsPhrases less :=
        fun less below => reads less (Nat.lt_succ_of_lt below)
      rw [value?] at read
      split at read
      next behind shape =>
        obtain ⟨⟨text, after⟩, readString, same⟩ := Option.map_eq_some_iff.mp read
        obtain ⟨rfl, rfl⟩ := Prod.mk.inj same
        obtain ⟨inner, isString, rfl⟩ := string?_eq_some_iff.mp readString
        exact ⟨_, .string isString, by simp [shape]⟩
      next behind shape =>
        obtain ⟨⟨list, after⟩, readElements, same⟩ := Option.map_eq_some_iff.mp read
        obtain ⟨rfl, rfl⟩ := Prod.mk.inj same
        rw [shape]
        exact exists_array_of_elements? readsLess readElements
      next behind shape =>
        obtain ⟨⟨list, after⟩, readMembers, same⟩ := Option.map_eq_some_iff.mp read
        obtain ⟨rfl, rfl⟩ := Prod.mk.inj same
        rw [shape]
        exact exists_object_of_members? readsLess readMembers
      next behind shape =>
        obtain ⟨after, readWord, same⟩ := Option.map_eq_some_iff.mp read
        obtain ⟨rfl, rfl⟩ := Prod.mk.inj same
        exact ⟨_, .null, by rw [shape, eq_of_afterWord? readWord]; rfl⟩
      next behind shape =>
        obtain ⟨after, readWord, same⟩ := Option.map_eq_some_iff.mp read
        obtain ⟨rfl, rfl⟩ := Prod.mk.inj same
        exact ⟨_, .bool true, by rw [shape, eq_of_afterWord? readWord]; rfl⟩
      next behind shape =>
        obtain ⟨after, readWord, same⟩ := Option.map_eq_some_iff.mp read
        obtain ⟨rfl, rfl⟩ := Prod.mk.inj same
        exact ⟨_, .bool false, by rw [shape, eq_of_afterWord? readWord]; rfl⟩
      next =>
        obtain ⟨numeral, isNumeral, rfl, same⟩ := isNumeral_of_number? read
        exact ⟨_, .number isNumeral, same⟩

theorem exists_elements_of_element? {fuel : Nat} {list : List Value}
    (reads : ∀ less < fuel, ReadsPhrases less) (read : element? fuel input = some (list, rest)) :
    ∃ text, IsPhrase (.elements list) text ∧ input = text ++ some ']' :: rest := by
  obtain _ | _ | fuel := fuel
  · contradiction
  · contradiction
  · rw [element?] at read
    obtain ⟨⟨value, behind⟩, readValue, readOthers⟩ := Option.bind_eq_some_iff.mp read
    obtain ⟨⟨others, after⟩, readRest, same⟩ := Option.bind_eq_some_iff.mp readOthers
    obtain ⟨rfl, rfl⟩ := Prod.mk.inj (Option.some.inj same)
    obtain ⟨before, text, blankBefore, written, rfl⟩ :=
      (reads (fuel + 1) (Nat.lt_succ_self _)).value readValue
    rw [elements?_eq] at readRest
    obtain ⟨between, blankBetween, ⟨rfl, rfl⟩ | ⟨behind, rfl, readElements⟩⟩ :=
      listRest?_next readRest
    · exact ⟨_, .lastElement (.padded blankBefore written blankBetween), by simp⟩
    · obtain ⟨others, writtenOthers, rfl⟩ :=
        (reads fuel (Nat.lt_succ_of_lt (Nat.lt_succ_self fuel))).elements readElements
      exact ⟨_, .element (.padded blankBefore written blankBetween) writtenOthers, by simp⟩

theorem exists_members_of_member? {fuel : Nat} {list : List (Option String × Value)}
    (reads : ∀ less < fuel, ReadsPhrases less) (read : member? fuel input = some (list, rest)) :
    ∃ text, IsPhrase (.members list) text ∧ input = text ++ some '\x7d' :: rest := by
  obtain ⟨before, blankBefore, split⟩ := exists_blank_append input
  obtain _ | fuel := fuel
  · contradiction
  · rw [member?] at read
    split at read
    next behind shape =>
      obtain ⟨⟨key, afterKey⟩, readKey, readOn⟩ := Option.bind_eq_some_iff.mp read
      obtain ⟨inner, isString, rfl⟩ := string?_eq_some_iff.mp readKey
      obtain ⟨between, blankBetween, splitKey⟩ := exists_blank_append afterKey
      dsimp only at readOn
      split at readOn
      next afterColon colon =>
        obtain ⟨⟨value, afterValue⟩, readValue, readOthers⟩ := Option.bind_eq_some_iff.mp readOn
        obtain ⟨⟨others, after⟩, readRest, same⟩ := Option.bind_eq_some_iff.mp readOthers
        obtain ⟨rfl, rfl⟩ := Prod.mk.inj (Option.some.inj same)
        obtain ⟨blanks, text, blank, written, rfl⟩ :=
          (reads fuel (Nat.lt_succ_self _)).value readValue
        obtain _ | fuel := fuel
        · contradiction
        rw [members?_eq] at readRest
        rw [shape, splitKey, colon] at split
        obtain ⟨behind, blankBehind, ⟨rfl, rfl⟩ | ⟨afterComma, rfl, readMembers⟩⟩ :=
          listRest?_next readRest
        · exact ⟨_, .lastMember
            (.member blankBefore isString blankBetween (.padded blank written blankBehind)),
            by simp [split]⟩
        · obtain ⟨others, writtenOthers, rfl⟩ :=
            (reads fuel (Nat.lt_succ_of_lt (Nat.lt_succ_self fuel))).members readMembers
          exact ⟨_, .members
            (.member blankBefore isString blankBetween (.padded blank written blankBehind))
            writtenOthers, by simp [split]⟩
      next => contradiction
    next => contradiction

theorem readsPhrases (fuel : Nat) : ReadsPhrases fuel := by
  -- Each reader calls the others, and all of them with less fuel.
  induction fuel using Nat.strongRecOn with
  | ind fuel inductionHypothesis =>
      exact ⟨exists_value_of_value? inductionHypothesis,
        exists_elements_of_element? inductionHypothesis,
        exists_members_of_member? inductionHypothesis⟩

/-! ## Texts of values -/

/-- An input is read as the value of which it is the text. -/
theorem read?_eq_some_iff {value : Value} :
    read? input = some value ↔ IsPhrase (.padded value) input := by
  constructor
  · intro read
    obtain ⟨⟨found, behind⟩, readValue, same⟩ := Option.bind_eq_some_iff.mp read
    dsimp only at same
    split at same
    next ends =>
      obtain rfl := Option.some.inj same
      obtain ⟨before, text, blankBefore, written, rfl⟩ := (readsPhrases _).value readValue
      obtain ⟨after, blankAfter, split⟩ := exists_blank_append behind
      rw [List.isEmpty_iff.mp ends, List.append_nil] at split
      rw [split]
      exact .padded blankBefore written blankAfter
    next => contradiction
  · intro written
    obtain ⟨after, blank, readValue⟩ := written.isReadAs
    have readInput := readValue (3 * input.length + 3) [] (by omega) nofun
    have ends : skipBlanks after = [] := skipBlanks_eq_nil_iff.mpr blank
    rw [List.append_nil, List.append_nil] at readInput
    rw [read?, readInput]
    simp [ends]

/-- An input is the text of one value at most. -/
theorem IsPhrase.value_unique {first second : Value} (isFirst : IsPhrase (.padded first) input)
    (isSecond : IsPhrase (.padded second) input) : first = second :=
  Option.some.inj ((read?_eq_some_iff.mpr isFirst).symm.trans (read?_eq_some_iff.mpr isSecond))

/-- The text of a value is the text of none if something visible follows.  A number could go on with
it. -/
theorem IsPhrase.not_padded_append {value : Value} (written : IsPhrase (.padded value) input)
    (delimited : ∀ numeral, value ≠ .number numeral) (visible : ¬Blank rest) (other : Value) :
    ¬IsPhrase (.padded other) (input ++ rest) := by
  intro longer
  have read := read?_eq_some_iff.mpr longer
  cases written with
  | @padded _ before text after blankBefore written blankAfter =>
      have readValue : ∀ fuel rest, 3 * text.length ≤ fuel + 2 →
          value? fuel (text ++ rest) = some (value, rest) :=
        fun fuel rest enough => written.isReadAs fuel rest enough
          fun numeral isNumber => absurd isNumber (delimited numeral)
      have remains : skipBlanks (after ++ rest) ≠ [] := by
        rw [skipBlanks_append blankAfter]
        exact fun ends => visible (skipBlanks_eq_nil_iff.mp ends)
      rw [read?, List.append_assoc, List.append_assoc, value?_blank_append blankBefore,
        readValue _ _ (by simp only [List.length_append]; omega)] at read
      simp [remains] at read

/-! ## Parts of values -/

/-- A value that some input is the text of. -/
def Value.IsSpelled (value : Value) : Prop :=
  ∃ input, IsPhrase (.padded value) input

/-- The values right inside a value. -/
def Value.parts : Value → List Value
  | .array elements => elements
  | .object members => members.map (·.2)
  | _ => []

/-- The values right inside what a phrase stands for. -/
def Phrase.parts : Phrase → List Value
  | .value whole | .padded whole => whole.parts
  | .elements list => list
  | .member _ part => [part]
  | .members list => list.map (·.2)

theorem IsPhrase.isSpelled_of_mem_parts {phrase : Phrase} (isPhrase : IsPhrase phrase input) :
    ∀ part ∈ phrase.parts, part.IsSpelled := by
  induction isPhrase with
  | null | bool | number | string | emptyArray | emptyObject => exact nofun
  | array _ inductionHypothesis => exact inductionHypothesis
  | object _ inductionHypothesis => exact inductionHypothesis
  | padded _ _ _ inductionHypothesis => exact inductionHypothesis
  | lastElement written _ => exact List.forall_mem_singleton.mpr ⟨_, written⟩
  | element written _ _ inductionHypothesisOthers =>
      exact List.forall_mem_cons.mpr ⟨⟨_, written⟩, inductionHypothesisOthers⟩
  | member _ _ _ written _ => exact List.forall_mem_singleton.mpr ⟨_, written⟩
  | lastMember _ inductionHypothesis => exact inductionHypothesis
  | members _ _ inductionHypothesis inductionHypothesisOthers =>
      exact List.forall_mem_cons.mpr
        ⟨List.forall_mem_singleton.mp inductionHypothesis, inductionHypothesisOthers⟩

theorem Value.IsSpelled.of_mem_parts {value part : Value} (spelled : value.IsSpelled)
    (member : part ∈ value.parts) : part.IsSpelled := by
  obtain ⟨input, written⟩ := spelled
  exact written.isSpelled_of_mem_parts part member

theorem Value.IsSpelled.isNumeral {numeral : String} (spelled : (Value.number numeral).IsSpelled) :
    IsNumeral numeral.toList := by
  obtain ⟨input, padded⟩ := spelled
  cases padded with
  | padded _ written _ =>
      cases written with
      | number isNumeral => rwa [String.toList_ofList]

end PubSubProvisioning.Json
