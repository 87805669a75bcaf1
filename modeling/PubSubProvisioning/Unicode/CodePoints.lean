import PubSubProvisioning.Text.Fields
import PubSubProvisioning.Text.Numeral

/-!
# Character classes kept as text

A large character class is written down as a list of words: a code point `A0`, or a closed range
`A0-AF`, in hexadecimal.  A table that assigns code points to code points adds a colon and the
assigned sequence: `A0:20.308`.  A range of assignments moves along with its sources, `41-5A:61`,
and `100+12E:101` names every second code point of the range.
-/

namespace PubSubProvisioning.Unicode

open PubSubProvisioning.Text

/-- The words of a text, with blanks and line ends between them. -/
def tableWords (text : String) : List (List Char) :=
  (fields ' ' (text.toList.map fun c => if c = '\n' then ' ' else c)).filter (!·.isEmpty)

/-! ## Sets -/

/-- The code points from `first` to `last`, both included. -/
structure Range where
  first : Nat
  last : Nat
  deriving DecidableEq, Repr

/-- Reads a code point or a closed range. -/
def Range.ofWord (word : List Char) : Range :=
  match fields '-' word with
  | [first, last] => ⟨hexNumber first, hexNumber last⟩
  | _ => ⟨hexNumber word, hexNumber word⟩

/-- A set of code points, as the union of ranges. -/
structure CodePoints where
  ranges : List Range
  deriving DecidableEq, Repr

namespace CodePoints

/-- Reads a set from the words of a text. -/
def ofText (text : String) : CodePoints :=
  ⟨(tableWords text).map Range.ofWord⟩

/-- Whether a character lies in one of the ranges. -/
def contains (set : CodePoints) (c : Char) : Bool :=
  set.ranges.any fun range => range.first ≤ c.toNat && c.toNat ≤ range.last

end CodePoints

/-! ## Assignments -/

/-- Every `stride`-th code point from `first` to `last` has a value; that of `first` is `value`, and
a later one moves along. -/
structure Assigned where
  first : Nat
  last : Nat
  stride : Nat
  value : List Nat
  deriving DecidableEq, Repr

namespace Assigned

/-- Reads one assignment. -/
def ofWord (word : List Char) : Assigned :=
  match fields ':' word with
  | [sources, value] =>
      let value := (fields '.' value).map hexNumber
      match fields '-' sources, fields '+' sources with
      | [first, last], _ => ⟨hexNumber first, hexNumber last, 1, value⟩
      | _, [first, last] => ⟨hexNumber first, hexNumber last, 2, value⟩
      | _, _ => ⟨hexNumber sources, hexNumber sources, 1, value⟩
  | _ => ⟨0, 0, 1, []⟩

/-- Reads the assignments of a text, one from each word. -/
def listOfText (text : String) : List Assigned :=
  (tableWords text).map ofWord

/-- Whether the assignment speaks of the code point. -/
def covers (entry : Assigned) (code : Nat) : Bool :=
  entry.first ≤ code && code ≤ entry.last && (code - entry.first) % entry.stride == 0

/-- The first assignment of a table that speaks of a character. -/
def covering? (table : List Assigned) (c : Char) : Option Assigned :=
  table.find? (·.covers c.toNat)

/-- The sequence that a table assigns to a character, moved along with it. -/
def find? (table : List Assigned) (c : Char) : Option (List Nat) :=
  (covering? table c).map fun entry => entry.value.map (· + (c.toNat - entry.first))

end Assigned

end PubSubProvisioning.Unicode
