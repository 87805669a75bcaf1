import PubSubProvisioning.Unicode.CombiningClass
import PubSubProvisioning.Unicode.Decomposition

/-!
# Composed normal form

Equivalent texts have one composed form: every character is decomposed in full, marks are brought
into the canonical order, and then each base takes up the marks that it composes with.
-/

namespace PubSubProvisioning.Unicode

/-! ## Hangul syllables

A syllable is a leading consonant, a vowel and perhaps a trailing consonant; its code follows from
theirs. -/

/-- The code of the first Hangul syllable. -/
def firstSyllable : Nat := 0xAC00

/-- The parts of a Hangul syllable. -/
def syllableParts? (code : Nat) : Option (List Nat) :=
  if firstSyllable ≤ code ∧ code < firstSyllable + 19 * 21 * 28 then
    let index := code - firstSyllable
    let opening := [0x1100 + index / (21 * 28), 0x1161 + index % (21 * 28) / 28]
    some (if index % 28 = 0 then opening else opening ++ [0x11A7 + index % 28])
  else none

/-- The syllable that begins with two parts, or a syllable completed by a trailing consonant. -/
def syllable? (first second : Nat) : Option Nat :=
  if 0x1100 ≤ first ∧ first < 0x1113 ∧ 0x1161 ≤ second ∧ second < 0x1176 then
    some (firstSyllable + ((first - 0x1100) * 21 + (second - 0x1161)) * 28)
  else if firstSyllable ≤ first ∧ first < firstSyllable + 19 * 21 * 28 ∧
      (first - firstSyllable) % 28 = 0 ∧ 0x11A7 < second ∧ second < 0x11C3 then
    some (first + (second - 0x11A7))
  else none

/-! ## Decomposition and order -/

/-- The full canonical decomposition of a character.  Nothing below C0 has another one than
itself. -/
def decompose (c : Char) : List Char :=
  if c.toNat < 0xC0 then [c]
  else
    match syllableParts? c.toNat with
    | some parts => parts.map Char.ofNat
    | none =>
        match Assigned.find? decompositions c with
        | some codes => codes.map Char.ofNat
        | none => [c]

/-- Puts a mark into a row of marks, after those of its own class and of lower ones. -/
def insertMark (mark : Char) : List Char → List Char
  | [] => [mark]
  | other :: marks =>
      if combiningClass mark < combiningClass other then mark :: other :: marks
      else other :: insertMark mark marks

/-- Takes in one character of a text to be ordered, given what stands before its last row of marks,
and that row.  A character that is no mark ends the row. -/
def takeInOrder (before : List Char × List Char) (c : Char) : List Char × List Char :=
  let (done, marks) := before
  if combiningClass c = 0 then (done ++ marks ++ [c], []) else (done, insertMark c marks)

/-- The canonical order: the marks after each base by class, marks of one class left as they are. -/
def ordered (text : List Char) : List Char :=
  let (done, marks) := text.foldl takeInOrder ([], [])
  done ++ marks

/-! ## Composition -/

/-- The character that two characters compose to.  The first base that takes up anything is the sign
`<` at 3C, and what it takes up is a mark. -/
def compose? (first second : Char) : Option Char :=
  if first.toNat < 0x3C ∨ second.toNat < 0x300 then none
  else
    match syllable? first.toNat second.toNat with
    | some code => some (Char.ofNat code)
    | none =>
        (compositions.find? fun entry => entry.value == [first.toNat, second.toNat]).map
          fun entry => Char.ofNat entry.first

/-- Composition under way: the text before the current base, the base if there is one, and the
characters after it that have not been taken up. -/
structure Composer where
  done : List Char
  base : Option Char
  pending : List Char

/-- Leaves a character as it is: a mark behind the base, and any other one as the next base. -/
def Composer.setAside (composer : Composer) (c : Char) : Composer :=
  if combiningClass c = 0 then
    { done := composer.done ++ composer.base.toList ++ composer.pending
      base := some c
      pending := [] }
  else { composer with pending := composer.pending ++ [c] }

/-- Whether the base is in reach of a character: nothing in between has its class or a higher one,
or is itself a base. -/
def Composer.reaches (composer : Composer) (c : Char) : Bool :=
  match composer.pending.getLast? with
  | none => true
  | some last => combiningClass last < combiningClass c

/-- Takes in one character.  It is taken up by a base in reach that it composes with. -/
def Composer.take (composer : Composer) (c : Char) : Composer :=
  match composer.base with
  | none => composer.setAside c
  | some base =>
      match if composer.reaches c then compose? base c else none with
      | some composed => { composer with base := some composed }
      | none => composer.setAside c

/-- The text in which every base has taken up what it composes with. -/
def composed (text : List Char) : List Char :=
  let final := text.foldl Composer.take ⟨[], none, []⟩
  final.done ++ final.base.toList ++ final.pending

/-- The composed normal form of a text. -/
def normalForm (text : List Char) : List Char :=
  composed (ordered (text.flatMap decompose))

end PubSubProvisioning.Unicode
