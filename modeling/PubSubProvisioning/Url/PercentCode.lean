import PubSubProvisioning.Text.Numeral
import PubSubProvisioning.Unicode.Utf8

/-!
# Percent code

A character that a part of a URL may not hold is written as its UTF-8 octets, each as a percent sign
and two upper-case hexadecimal digits.  Which characters those are depends on the part; characters
outside ASCII are among them everywhere.
-/

namespace PubSubProvisioning.Url

open PubSubProvisioning.Text (hexValue? upperHexDigit)
open PubSubProvisioning.Unicode (Utf8.encode)

/-! ## What is escaped where -/

/-- Characters that are escaped everywhere: the controls, and all that is not ASCII. -/
def escapedAlways (c : Char) : Bool :=
  c.toNat < 0x20 || 0x7F ≤ c.toNat

/-- What is escaped in a fragment. -/
def escapedInFragment (c : Char) : Bool :=
  escapedAlways c || c = ' ' || c = '"' || c = '<' || c = '>' || c = '`'

/-- What is escaped in a path that is taken as written. -/
def escapedInPath (c : Char) : Bool :=
  escapedInFragment c || c = '#' || c = '?' || c = '\x7b' || c = '\x7d'

/-- What is escaped in a user name or password. -/
def escapedInCredentials (c : Char) : Bool :=
  escapedInPath c || c = '/' || c = ':' || c = ';' || c = '=' || c = '@' || c = '[' || c = '\\' ||
    c = ']' || c = '^' || c = '|'

/-- What is escaped in a query; a special scheme also escapes the apostrophe. -/
def escapedInQuery (special : Bool) (c : Char) : Bool :=
  escapedAlways c || c = ' ' || c = '"' || c = '#' || c = '<' || c = '>' || special && c = '\''

/-- What is escaped in a single segment that is added to a path, so that it stays one segment and
reads back as itself. -/
def escapedInSegment (special : Bool) (c : Char) : Bool :=
  escapedInPath c || c = '/' || c = '%' || special && c = '\\'

/-! ## Writing and reading -/

/-- One octet, escaped. -/
def escapeOctet (octet : UInt8) : List Char :=
  ['%', upperHexDigit (octet.toNat / 16), upperHexDigit (octet.toNat % 16)]

/-- A text with the characters that satisfy `escaped` written as their octets. -/
def percentEncode (escaped : Char → Bool) (text : List Char) : List Char :=
  text.flatMap fun c =>
    if escaped c then (String.utf8EncodeChar c).flatMap escapeOctet else [c]

/-- Octets with each escape among them replaced by the octet that it stands for.  A percent sign
without two digits stands for itself. -/
def unescape : List UInt8 → List UInt8
  | percent :: high :: low :: rest =>
      if percent = 0x25 then
        match hexValue? (Char.ofNat high.toNat), hexValue? (Char.ofNat low.toNat) with
        | some first, some second => UInt8.ofNat (16 * first + second) :: unescape rest
        | _, _ => percent :: unescape (high :: low :: rest)
      else percent :: unescape (high :: low :: rest)
  | octets => octets

/-- The octets that a percent-coded text stands for. -/
def percentDecode (text : List Char) : List UInt8 :=
  unescape (Utf8.encode text)

@[simp]
theorem percentEncode_nil (escaped : Char → Bool) : percentEncode escaped [] = [] :=
  rfl

theorem percentEncode_cons (escaped : Char → Bool) (c : Char) (rest : List Char) :
    percentEncode escaped (c :: rest) =
      (if escaped c then (String.utf8EncodeChar c).flatMap escapeOctet else [c]) ++
        percentEncode escaped rest := by
  simp [percentEncode]

@[simp]
theorem percentEncode_append (escaped : Char → Bool) (first second : List Char) :
    percentEncode escaped (first ++ second) =
      percentEncode escaped first ++ percentEncode escaped second := by
  simp [percentEncode]

end PubSubProvisioning.Url
