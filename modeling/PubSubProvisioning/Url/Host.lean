import PubSubProvisioning.Idna.Name
import PubSubProvisioning.Text.Fields
import PubSubProvisioning.Unicode.Utf8
import PubSubProvisioning.Url.PercentCode

/-!
# Hosts

The host of a URL is an IPv6 address in brackets, an IPv4 address, or a name.  Under a special
scheme a name is a domain name in ASCII, and one that ends in a number has to be an IPv4 address;
under any other scheme a name is taken as written.
-/

namespace PubSubProvisioning.Url

open PubSubProvisioning.Text (digitsNumber fields hexValue? lowerHex)
open PubSubProvisioning.Unicode (Utf8.decode?)

/-- Why a text is no URL. -/
inductive ParseError where
  | emptyHost
  | domainName
  | port
  | ipv4Address
  | ipv6Address
  | domainCharacter
  | relative
  deriving DecidableEq, Repr

/-- The reason in words. -/
def ParseError.message : ParseError → String
  | .emptyHost => "empty host"
  | .domainName => "invalid international domain name"
  | .port => "invalid port number"
  | .ipv4Address => "invalid IPv4 address"
  | .ipv6Address => "invalid IPv6 address"
  | .domainCharacter => "invalid domain character"
  | .relative => "relative URL without a base"

/-- The host of a URL.  An IPv6 address has eight pieces of sixteen bits. -/
inductive Host where
  | name (text : String)
  | ipv4 (address : Nat)
  | ipv6 (pieces : List Nat)
  deriving DecidableEq, Repr

/-! ## IPv4 addresses -/

/-- Reads one number of an IPv4 address: hexadecimal after `0x`, octal after another leading zero,
and decimal otherwise.  Zero may lack its digits after the mark of its base. -/
def ipv4Number? (text : List Char) : Option Nat :=
  let reading := fun (base : Nat) (digits : List Char) =>
    if digits.all fun c => (hexValue? c).any (· < base) then some (digitsNumber base digits)
    else none
  match text with
  | [] => none
  | '0' :: 'x' :: digits => reading 16 digits
  | '0' :: 'X' :: digits => reading 16 digits
  | '0' :: second :: digits => reading 8 (second :: digits)
  | digits => reading 10 digits

/-- The parts of a name between its full stops, without an empty last one. -/
def addressParts (name : List Char) : List (List Char) :=
  let parts := fields '.' name
  if parts.getLast? = some [] then parts.dropLast else parts

/-- Whether the last part of a name is a number, so that the name has to be an address. -/
def endsInNumber (name : List Char) : Bool :=
  match (addressParts name).getLast? with
  | some part => !part.isEmpty && part.all Char.isDigit || (ipv4Number? part).isSome
  | none => false

/-- Reads an IPv4 address of at most four numbers; the last one fills all octets that the others
leave. -/
def ipv4Address? (name : List Char) : Option Nat := do
  let numbers ← (addressParts name).mapM ipv4Number?
  let octets := numbers.dropLast
  let last ← numbers.getLast?
  let left := Nat.pow 256 (4 - octets.length)
  if octets.length < 4 && octets.all (· ≤ 255) && last < left then
    some (octets.foldl (fun high octet => high * 256 + octet) 0 * left + last)
  else none

/-- The four octets of an address, in decimal. -/
def ipv4Text (address : Nat) : String :=
  ".".intercalate
    [toString (address / 0x1000000 % 256), toString (address / 0x10000 % 256),
      toString (address / 0x100 % 256), toString (address % 256)]

/-! ## IPv6 addresses -/

/-- Reads one piece of an IPv6 address. -/
def ipv6Piece? (text : List Char) : Option Nat :=
  if !text.isEmpty && text.length ≤ 4 && text.all fun c => (hexValue? c).isSome then
    some (digitsNumber 16 text)
  else none

/-- Reads an octet in decimal, without leading zeros. -/
def decimalOctet? (text : List Char) : Option Nat :=
  if !text.isEmpty && text.length ≤ 3 && text.all Char.isDigit &&
      (text.length = 1 || text.head? ≠ some '0') && digitsNumber 10 text ≤ 255 then
    some (digitsNumber 10 text)
  else none

/-- Reads four octets as the last two pieces of an IPv6 address. -/
def embeddedIpv4? (text : List Char) : Option (List Nat) := do
  match ← (fields '.' text).mapM decimalOctet? with
  | [first, second, third, fourth] => some [first * 256 + second, third * 256 + fourth]
  | _ => none

/-- Reads a row of pieces with colons between them.  Where the address ends with the row, octets may
stand for its last two pieces. -/
def ipv6Row? (final : Bool) (text : List Char) : Option (List Nat) :=
  if text.isEmpty then some []
  else do
    let parts := fields ':' text
    let last ← parts.getLast?
    let pieces ← parts.dropLast.mapM ipv6Piece?
    match ipv6Piece? last with
    | some piece => some (pieces ++ [piece])
    | none => if final then (embeddedIpv4? last).map (pieces ++ ·) else none

/-- The parts of a text before and after its first two colons in a row. -/
def splitAtGap? : List Char → Option (List Char × List Char)
  | ':' :: ':' :: rest => some ([], rest)
  | c :: rest => (splitAtGap? rest).map fun (before, after) => (c :: before, after)
  | [] => none

/-- Reads an IPv6 address.  A gap stands for the zeros that are missing, of which there is at least
one. -/
def ipv6Address? (text : List Char) : Option (List Nat) := do
  match splitAtGap? text with
  | none =>
      let pieces ← ipv6Row? true text
      if pieces.length = 8 then some pieces else none
  | some (before, after) =>
      let first ← ipv6Row? false before
      let second ← ipv6Row? true after
      let written := first.length + second.length
      if written < 8 then some (first ++ List.replicate (8 - written) 0 ++ second) else none

/-- How many zeros a row of pieces begins with. -/
def leadingZeros (pieces : List Nat) : Nat :=
  (pieces.takeWhile (· = 0)).length

/-- The place and length of the first longest row of zeros. -/
def longestGap : List Nat → Nat × Nat
  | [] => (0, 0)
  | piece :: rest =>
      let (place, length) := longestGap rest
      let here := leadingZeros (piece :: rest)
      if length ≤ here then (0, here) else (place + 1, length)

/-- Pieces in hexadecimal, with colons between them. -/
def ipv6RowText (pieces : List Nat) : String :=
  ":".intercalate (pieces.map fun piece => String.ofList (lowerHex piece))

/-- The text of an IPv6 address; the first longest row of at least two zeros becomes a gap. -/
def ipv6Text (pieces : List Nat) : String :=
  let (place, length) := longestGap pieces
  if 2 ≤ length then
    ipv6RowText (pieces.take place) ++ "::" ++ ipv6RowText (pieces.drop (place + length))
  else ipv6RowText pieces

/-! ## Any host -/

/-- The host as a URL writes it. -/
def Host.text : Host → String
  | .name text => text
  | .ipv4 address => ipv4Text address
  | .ipv6 pieces => "[" ++ ipv6Text pieces ++ "]"

/-- Reads the address between the brackets of a text that begins with one. -/
def bracketedHost (text : List Char) : Except ParseError Host :=
  match if text.getLast? = some ']' then ipv6Address? (text.drop 1).dropLast else none with
  | some pieces => .ok (.ipv6 pieces)
  | none => .error .ipv6Address

/-- Reads the host of a URL with a special scheme. -/
def domainHost (text : List Char) : Except ParseError Host :=
  if text.head? = some '[' then bracketedHost text
  else
    match Utf8.decode? (percentDecode text) >>= Idna.toAscii? with
    | none => .error .domainName
    | some [] => .error .emptyHost
    | some name =>
        if endsInNumber name then
          match ipv4Address? name with
          | some address => .ok (.ipv4 address)
          | none => .error .ipv4Address
        else .ok (.name (String.ofList name))

/-- Characters that no host holds that is taken as written. -/
def forbiddenInHost (c : Char) : Bool :=
  "\x00\t\n\r #/:<>?@[\\]^|".toList.contains c

/-- Reads the host of a URL with any other scheme. -/
def plainHost (text : List Char) : Except ParseError Host :=
  if text.head? = some '[' then bracketedHost text
  else if text.any forbiddenInHost then .error .domainCharacter
  else .ok (.name (String.ofList (percentEncode escapedAlways text)))

end PubSubProvisioning.Url
