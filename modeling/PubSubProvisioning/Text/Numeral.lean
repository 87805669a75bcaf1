/-!
# Numerals

Numbers written with digits of a base up to sixteen, in either case on reading and in the case asked
for on writing.
-/

namespace PubSubProvisioning.Text

/-- The value of a hexadecimal digit of either case. -/
def hexValue? (c : Char) : Option Nat :=
  if '0' ≤ c ∧ c ≤ '9' then some (c.toNat - '0'.toNat)
  else if 'a' ≤ c ∧ c ≤ 'f' then some (c.toNat - 'a'.toNat + 10)
  else if 'A' ≤ c ∧ c ≤ 'F' then some (c.toNat - 'A'.toNat + 10)
  else none

/-- The number that digits of a base spell; other characters count as zeros. -/
def digitsNumber (base : Nat) (digits : List Char) : Nat :=
  digits.foldl (fun number c => base * number + (hexValue? c).getD 0) 0

/-- The number that hexadecimal digits spell. -/
def hexNumber (digits : List Char) : Nat :=
  digitsNumber 16 digits

/-- The lower-case numeral of a number, without leading zeros. -/
def lowerHex (number : Nat) : List Char :=
  Nat.toDigits 16 number

/-- The upper-case digit of a number below sixteen. -/
def upperHexDigit (value : Nat) : Char :=
  if value < 10 then Char.ofNat ('0'.toNat + value) else Char.ofNat ('A'.toNat + value - 10)

theorem hexValue?_upperHexDigit {value : Nat} (small : value < 16) :
    hexValue? (upperHexDigit value) = some value := by
  have all : ∀ digit ∈ List.range 16, hexValue? (upperHexDigit digit) = some digit := by decide
  exact all value (List.mem_range.mpr small)

end PubSubProvisioning.Text
