/-!
# Punycode

A label with characters outside ASCII is written in ASCII as its ASCII characters, a hyphen, and a
row of generalised variable-length integers.  Each integer says how far to walk through the pairs
(code point, place in the label) until the next insertion, so that the remaining characters are
inserted in ascending order.

Digits run from `a` to `z` and from `0` to `9`.  How large a digit ends an integer adapts to the
size of the integers before it.
-/

namespace PubSubProvisioning.Idna.Punycode

/-- The digit of a value below 36. -/
def digit (value : Nat) : Char :=
  if value < 26 then Char.ofNat ('a'.toNat + value) else Char.ofNat ('0'.toNat + value - 26)

/-- The value of a digit of either case. -/
def digitValue? (c : Char) : Option Nat :=
  if 'a' ≤ c ∧ c ≤ 'z' then some (c.toNat - 'a'.toNat)
  else if 'A' ≤ c ∧ c ≤ 'Z' then some (c.toNat - 'A'.toNat)
  else if '0' ≤ c ∧ c ≤ '9' then some (c.toNat - '0'.toNat + 26)
  else none

/-- The least value that does not end an integer at the place `place`, where places count by 36. -/
def threshold (place bias : Nat) : Nat :=
  min 26 (max 1 (place - bias))

theorem threshold_pos (place bias : Nat) : 1 ≤ threshold place bias := by
  unfold threshold
  omega

theorem threshold_le (place bias : Nat) : threshold place bias ≤ 26 := by
  unfold threshold
  omega

/-- Divides by 35 until at most 455 remains; the result counts 36 for each division. -/
def settle (delta : Nat) : Nat :=
  if 455 < delta then 36 + settle (delta / 35) else 36 * delta / (delta + 38)
termination_by delta
decreasing_by omega

/-- The bias after an integer `delta` that placed one of `length` characters. -/
def adapt (delta length : Nat) (first : Bool) : Nat :=
  let scaled := if first then delta / 700 else delta / 2
  settle (scaled + scaled / length)

/-! ## Writing -/

/-- The digits of an integer, from the place `place` on. -/
def integer (bias place value : Nat) : List Char :=
  let limit := threshold place bias
  if value < limit then [digit value]
  else
    digit (limit + (value - limit) % (36 - limit)) ::
      integer bias (place + 36) ((value - limit) / (36 - limit))
termination_by value
decreasing_by
  have positive := threshold_pos place bias
  have bounded := threshold_le place bias
  calc (value - threshold place bias) / (36 - threshold place bias)
      ≤ value - threshold place bias := Nat.div_le_self _ _
    _ < value := by omega

/-- The state of a writer: the digits so far, the steps since the last insertion, the bias, and the
number of characters placed. -/
structure Writer where
  digits : List Char
  delta : Nat
  bias : Nat
  placed : Nat

/-- Passes one character of the label while the characters of code `code` are inserted: earlier ones
take a step each, and one of that code ends an integer. -/
def Writer.pass (basicCount code : Nat) (writer : Writer) (c : Char) : Writer :=
  if c.toNat < code then { writer with delta := writer.delta + 1 }
  else if c.toNat = code then
    { digits := writer.digits ++ integer writer.bias 36 writer.delta
      delta := 0
      bias := adapt writer.delta (writer.placed + 1) (writer.placed == basicCount)
      placed := writer.placed + 1 }
  else writer

/-- Inserts the characters of each code of an ascending list, the codes from `next` on. -/
def Writer.insertAll (label : List Char) (basicCount : Nat) (writer : Writer) (next : Nat) :
    List Nat → List Char
  | [] => writer.digits
  | code :: codes =>
      let skipped := { writer with delta := writer.delta + (code - next) * (writer.placed + 1) }
      let passed := label.foldl (Writer.pass basicCount code) skipped
      insertAll label basicCount { passed with delta := passed.delta + 1 } (code + 1) codes

/-- The codes of a label's characters outside ASCII, ascending and without repeats. -/
def extendedCodes (label : List Char) : List Nat :=
  ((label.map Char.toNat).filter (0x80 ≤ ·)).mergeSort.eraseReps

/-- The Punycode form of a label. -/
def encode (label : List Char) : List Char :=
  let basic := label.filter fun c => c.toNat < 0x80
  let writer : Writer :=
    { digits := [], delta := 0, bias := 72, placed := basic.length }
  (if basic.isEmpty then [] else basic ++ ['-']) ++
    writer.insertAll label basic.length 0x80 (extendedCodes label)

/-! ## Reading -/

/-- The state of a reader: the label so far, the code and place of the last insertion, the integer
under way with the weight and place of its next digit, and the bias. -/
structure Reader where
  label : List Char
  code : Nat
  position : Nat
  integer : Nat
  weight : Nat
  place : Nat
  bias : Nat

/-- Numbers of 32 bits are all that a reader counts with. -/
def isCount (number : Nat) : Bool :=
  number < 0x100000000

/-- Ends an integer: walks that far and inserts the character found there. -/
def Reader.insert? (reader : Reader) (integer : Nat) : Option Reader :=
  let length := reader.label.length + 1
  let walked := reader.position + integer
  let code := reader.code + walked / length
  let position := walked % length
  if code.isValidChar then
    some
      { label := reader.label.take position ++ Char.ofNat code :: reader.label.drop position
        code := code
        position := position + 1
        integer := 0
        weight := 1
        place := 36
        bias := adapt integer length (reader.position == 0) }
  else none

/-- Reads one digit.  An integer that is too large to walk is refused, and so is one whose next
digit would weigh too much. -/
def Reader.step? (reader : Reader) (c : Char) : Option Reader := do
  let value ← digitValue? c
  let integer := reader.integer + value * reader.weight
  let limit := threshold reader.place reader.bias
  let weight := reader.weight * (36 - limit)
  if !isCount (reader.position + integer) then none
  else if value < limit then reader.insert? integer
  else if isCount weight then
    some { reader with integer := integer, weight := weight, place := reader.place + 36 }
  else none

/-- The part of a text before its last hyphen, and the part after it.  Without a hyphen the first
part is empty; a hyphen at the very front divides nothing. -/
def splitAtLastHyphen (text : List Char) : List Char × List Char :=
  let tail := (text.reverse.takeWhile (· ≠ '-')).reverse
  let basic := text.take (text.length - tail.length - 1)
  if basic.isEmpty then ([], text) else (basic, tail)

/-- The label that a Punycode form stands for, if it stands for one. -/
def decode? (text : List Char) : Option (List Char) := do
  let (basic, digits) := splitAtLastHyphen text
  let start : Reader :=
    { label := basic, code := 0x80, position := 0, integer := 0, weight := 1, place := 36, bias := 72 }
  let final ← digits.foldlM Reader.step? start
  if final.place = 36 then some final.label else none

end PubSubProvisioning.Idna.Punycode
