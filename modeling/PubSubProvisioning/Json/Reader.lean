import PubSubProvisioning.Text.Numeral
import PubSubProvisioning.Unicode.Utf8

/-!
# Reading JSON

Strict JSON, from octets or from text.  What nobody asks for only has to be well-formed: a string
that spells no text, through a lone surrogate or through octets that are no UTF-8, is read as such,
and a number keeps its numeral, whatever its size.
-/

namespace PubSubProvisioning.Json

open PubSubProvisioning.Text (digitsNumber hexValue?)

/-- A JSON value.  A string that spells no text is `string none`; the members of an object are kept
in order, repeated keys included. -/
inductive Value where
  | null
  | bool (value : Bool)
  | number (numeral : String)
  | string (text : Option String)
  | array (elements : List Value)
  | object (members : List (Option String × Value))

/-- What a reader sees: characters, with `none` for a sequence of octets that is no character. -/
abbrev Input : Type :=
  List (Option Char)

/-- The input that octets make. -/
def Input.ofOctets (octets : List UInt8) : Input :=
  Unicode.Utf8.scan none octets

/-- The input that a text makes. -/
def Input.ofText (text : String) : Input :=
  text.toList.map some

/-- The input after its blanks. -/
def skipBlanks (input : Input) : Input :=
  input.dropWhile fun c => c = some ' ' || c = some '\t' || c = some '\n' || c = some '\r'

/-! ## Strings -/

/-- A piece of a string: a character, a number of sixteen bits that is written as an escape, or
octets that are no character. -/
inductive Piece where
  | char (c : Char)
  | unit (value : Nat)
  | illFormed
  deriving DecidableEq, Repr

/-- What a one-letter escape stands for. -/
def shortEscape? (c : Char) : Option Char :=
  match c with
  | '"' => some '"'
  | '\\' => some '\\'
  | '/' => some '/'
  | 'b' => some '\x08'
  | 'f' => some '\x0c'
  | 'n' => some '\n'
  | 'r' => some '\r'
  | 't' => some '\t'
  | _ => none

/-- The number that four hexadecimal digits spell. -/
def unit? (first second third fourth : Char) : Option Nat := do
  let high ← hexValue? first
  let next ← hexValue? second
  let third ← hexValue? third
  let low ← hexValue? fourth
  some (((high * 16 + next) * 16 + third) * 16 + low)

/-- The pieces of a string up to its closing quotation mark, and the input after that. -/
def stringPieces? : Input → Option (List Piece × Input)
  | [] => none
  | some '"' :: rest => some ([], rest)
  | some '\\' :: some 'u' :: some first :: some second :: some third :: some fourth :: rest => do
      let value ← unit? first second third fourth
      let (pieces, rest) ← stringPieces? rest
      some (.unit value :: pieces, rest)
  | some '\\' :: some letter :: rest => do
      let c ← shortEscape? letter
      let (pieces, rest) ← stringPieces? rest
      some (.char c :: pieces, rest)
  | some c :: rest =>
      if c = '\\' ∨ c.toNat < 0x20 then none
      else do
        let (pieces, rest) ← stringPieces? rest
        some (.char c :: pieces, rest)
  | none :: rest => do
      let (pieces, rest) ← stringPieces? rest
      some (.illFormed :: pieces, rest)

/-- The text that pieces spell.  Two surrogates in order are one character; any other surrogate is
none. -/
def textOf? : List Piece → Option (List Char)
  | [] => some []
  | .char c :: rest => (textOf? rest).map (c :: ·)
  | .illFormed :: _ => none
  | [.unit value] => if value.isValidChar then some [Char.ofNat value] else none
  | .unit value :: next :: rest =>
      if value.isValidChar then (textOf? (next :: rest)).map (Char.ofNat value :: ·)
      else
        match next with
        | .unit low =>
            if 0xD800 ≤ value ∧ value < 0xDC00 ∧ 0xDC00 ≤ low ∧ low < 0xE000 then
              (textOf? rest).map
                (Char.ofNat (0x10000 + (value - 0xD800) * 0x400 + (low - 0xDC00)) :: ·)
            else none
        | _ => none

/-- Reads the rest of a string after its opening quotation mark. -/
def string? (input : Input) : Option (Option String × Input) := do
  let (pieces, rest) ← stringPieces? input
  some ((textOf? pieces).map String.ofList, rest)

/-! ## Numbers and names -/

/-- The digits at the front of an input, and what follows them. -/
def digits (input : Input) : List Char × Input :=
  let front := input.takeWhile fun c => c.any Char.isDigit
  (front.filterMap id, input.drop front.length)

/-- The fraction at the front of an input, if there is one. -/
def fraction? (input : Input) : Option (List Char × Input) :=
  match input with
  | some '.' :: rest =>
      let (digits, rest) := digits rest
      if digits.isEmpty then none else some ('.' :: digits, rest)
  | _ => some ([], input)

/-- The exponent at the front of an input, if there is one. -/
def exponent? (input : Input) : Option (List Char × Input) :=
  match input with
  | some mark :: rest =>
      if mark = 'e' || mark = 'E' then
        let (sign, rest) :=
          match rest with
          | some '+' :: after => (['+'], after)
          | some '-' :: after => (['-'], after)
          | _ => ([], rest)
        let (digits, rest) := digits rest
        if digits.isEmpty then none else some (mark :: sign ++ digits, rest)
      else some ([], input)
  | _ => some ([], input)

/-- Reads a number. -/
def number? (input : Input) : Option (Value × Input) := do
  let (sign, rest) :=
    match input with
    | some '-' :: after => (['-'], after)
    | _ => ([], input)
  let (whole, rest) := digits rest
  if whole.isEmpty || whole.head? = some '0' && 1 < whole.length then none
  else
    let (fraction, rest) ← fraction? rest
    let (exponent, rest) ← exponent? rest
    some (.number (String.ofList (sign ++ whole ++ fraction ++ exponent)), rest)

/-- The input after a word that it has to begin with. -/
def afterWord? (word : String) (input : Input) : Option Input :=
  if (word.toList.map some).isPrefixOf input then some (input.drop word.length) else none

/-! ## Values -/

mutual

/-- Reads a value, of at most the given depth and length. -/
def value? : Nat → Input → Option (Value × Input)
  | 0, _ => none
  | fuel + 1, input =>
      match skipBlanks input with
      | some '"' :: rest => (string? rest).map fun (text, rest) => (.string text, rest)
      | some '[' :: rest => (elements? fuel true rest).map fun (list, rest) => (.array list, rest)
      | some '\x7b' :: rest => (members? fuel true rest).map fun (list, rest) => (.object list, rest)
      | some 'n' :: rest => (afterWord? "ull" rest).map (.null, ·)
      | some 't' :: rest => (afterWord? "rue" rest).map (.bool true, ·)
      | some 'f' :: rest => (afterWord? "alse" rest).map (.bool false, ·)
      | rest => number? rest

/-- Reads the rest of an array; `first` says that no element has been read. -/
def elements? : Nat → Bool → Input → Option (List Value × Input)
  | 0, _, _ => none
  | fuel + 1, first, input =>
      match first, skipBlanks input with
      | _, some ']' :: rest => some ([], rest)
      | false, some ',' :: rest => element? fuel rest
      | true, rest => element? fuel rest
      | _, _ => none

/-- Reads an element and the rest of its array. -/
def element? : Nat → Input → Option (List Value × Input)
  | 0, _ => none
  | fuel + 1, input => do
      let (value, rest) ← value? fuel input
      let (others, rest) ← elements? fuel false rest
      some (value :: others, rest)

/-- Reads the rest of an object; `first` says that no member has been read. -/
def members? : Nat → Bool → Input → Option (List (Option String × Value) × Input)
  | 0, _, _ => none
  | fuel + 1, first, input =>
      match first, skipBlanks input with
      | _, some '\x7d' :: rest => some ([], rest)
      | false, some ',' :: rest => member? fuel rest
      | true, rest => member? fuel rest
      | _, _ => none

/-- Reads a member and the rest of its object. -/
def member? : Nat → Input → Option (List (Option String × Value) × Input)
  | 0, _ => none
  | fuel + 1, input =>
      match skipBlanks input with
      | some '"' :: rest => do
          let (key, rest) ← string? rest
          match skipBlanks rest with
          | some ':' :: rest =>
              let (value, rest) ← value? fuel rest
              let (others, rest) ← members? fuel false rest
              some ((key, value) :: others, rest)
          | _ => none
      | _ => none

end

/-- Reads an input that is one value, blanks aside.  No more than three steps go by for each
character. -/
def read? (input : Input) : Option Value := do
  let (value, rest) ← value? (3 * input.length + 3) input
  if (skipBlanks rest).isEmpty then some value else none

/-! ## Records -/

/-- The members of an object whose keys all spell texts. -/
def keyed? (members : List (Option String × Value)) : Option (List (String × Value)) :=
  members.mapM fun (key, value) => key.map (·, value)

/-- The value of a key that must not be repeated. -/
def valueOf? (members : List (String × Value)) (key : String) : Option (Option Value) :=
  match members.filter (·.1 = key) with
  | [] => some none
  | [(_, value)] => some (some value)
  | _ => none

/-- The fields of a record, by their keys.  A record is an object, in which other keys are passed
over, or an array of the fields in order, of which only those after the first `least` may be left
out. -/
def fields? (keys : List String) (least : Nat) : Value → Option (List (Option Value))
  | .object members => do
      let members ← keyed? members
      keys.mapM (valueOf? members)
  | .array elements =>
      if least ≤ elements.length ∧ elements.length ≤ keys.length then
        some (elements.map some ++ List.replicate (keys.length - elements.length) none)
      else none
  | _ => none

/-- The text of a field; a missing field counts as empty. -/
def textField? : Option Value → Option String
  | none => some ""
  | some (.string text) => text
  | some _ => none

/-- The whole number of a field below a bound; a missing field counts as zero. -/
def natField? (bound : Nat) : Option Value → Option Nat
  | none => some 0
  | some (.number numeral) =>
      if numeral.toList.all Char.isDigit then
        let value := digitsNumber 10 numeral.toList
        if value < bound then some value else none
      else none
  | some _ => none

end PubSubProvisioning.Json
