/-!
# Base64

Three octets are written as four characters, six bits in each; equals signs fill up the last group.
-/

namespace PubSubProvisioning.Http.Base64

/-- The character of a six-bit value. -/
def digit (value : Nat) : Char :=
  if value < 26 then Char.ofNat ('A'.toNat + value)
  else if value < 52 then Char.ofNat ('a'.toNat + value - 26)
  else if value < 62 then Char.ofNat ('0'.toNat + value - 52)
  else if value = 62 then '+'
  else '/'

/-- The Base64 form of octets. -/
def encode : List UInt8 → List Char
  | [] => []
  | [first] =>
      let value := first.toNat * 0x10
      [digit (value / 0x40), digit (value % 0x40), '=', '=']
  | [first, second] =>
      let value := (first.toNat * 0x100 + second.toNat) * 4
      [digit (value / 0x1000), digit (value / 0x40 % 0x40), digit (value % 0x40), '=']
  | first :: second :: third :: rest =>
      let value := (first.toNat * 0x100 + second.toNat) * 0x100 + third.toNat
      digit (value / 0x40000) :: digit (value / 0x1000 % 0x40) :: digit (value / 0x40 % 0x40) ::
        digit (value % 0x40) :: encode rest

end PubSubProvisioning.Http.Base64
