/-!
# UTF-8

Reading goes octet by octet and never fails: an ill-formed sequence is reported in its place, and
reading goes on with the first octet that could not continue it.  A strict reader refuses any such
report; a lenient one puts the replacement character there.
-/

namespace PubSubProvisioning.Unicode.Utf8

/-- The octets of a text. -/
def encode (text : List Char) : List UInt8 :=
  text.flatMap String.utf8EncodeChar

/-- A character begun: the number that its octets spell so far, how many octets it still needs, and
the bounds of the next one. -/
structure Begun where
  value : Nat
  missing : Nat
  low : UInt8
  high : UInt8

/-- What an octet can be at the start of a character. -/
inductive Lead where
  | whole (c : Char)
  | begins (begun : Begun)
  | illFormed

/-- What an octet is at the start of a character.  The bounds of the second octet keep out numerals
that are longer than needed, surrogates, and numbers beyond the last code point. -/
def lead (octet : UInt8) : Lead :=
  let value := octet.toNat
  if value < 0x80 then .whole (Char.ofNat value)
  else if value < 0xC2 then .illFormed
  else if value < 0xE0 then .begins ⟨value - 0xC0, 1, 0x80, 0xBF⟩
  else if value = 0xE0 then .begins ⟨0, 2, 0xA0, 0xBF⟩
  else if value = 0xED then .begins ⟨0xD, 2, 0x80, 0x9F⟩
  else if value < 0xF0 then .begins ⟨value - 0xE0, 2, 0x80, 0xBF⟩
  else if value = 0xF0 then .begins ⟨0, 3, 0x90, 0xBF⟩
  else if value < 0xF4 then .begins ⟨value - 0xF0, 3, 0x80, 0xBF⟩
  else if value = 0xF4 then .begins ⟨4, 3, 0x80, 0x8F⟩
  else .illFormed

/-- The characters that octets spell, with `none` for each ill-formed sequence. -/
def scan : Option Begun → List UInt8 → List (Option Char)
  | none, [] => []
  | some _, [] => [none]
  | none, octet :: rest =>
      match lead octet with
      | .whole c => some c :: scan none rest
      | .begins begun => scan (some begun) rest
      | .illFormed => none :: scan none rest
  | some begun, octet :: rest =>
      if begun.low ≤ octet ∧ octet ≤ begun.high then
        let value := begun.value * 0x40 + (octet.toNat - 0x80)
        if begun.missing = 1 then some (Char.ofNat value) :: scan none rest
        else scan (some ⟨value, begun.missing - 1, 0x80, 0xBF⟩) rest
      else
        none ::
          match lead octet with
          | .whole c => some c :: scan none rest
          | .begins begun => scan (some begun) rest
          | .illFormed => none :: scan none rest

/-- The text that octets spell, if they are well-formed throughout. -/
def decode? (octets : List UInt8) : Option (List Char) :=
  (scan none octets).mapM id

/-- The text that octets spell, with a replacement character for each ill-formed sequence. -/
def decodeLenient (octets : List UInt8) : List Char :=
  (scan none octets).map (·.getD '\uFFFD')

/-- An ASCII text spells itself, one octet for each character. -/
theorem scan_ascii {octet : UInt8} (ascii : octet.toNat < 0x80) (rest : List UInt8) :
    scan none (octet :: rest) = some (Char.ofNat octet.toNat) :: scan none rest := by
  simp [scan, lead, ascii]

end PubSubProvisioning.Unicode.Utf8
