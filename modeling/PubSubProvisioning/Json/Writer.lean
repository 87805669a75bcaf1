import PubSubProvisioning.Text.Numeral

/-!
# Writing JSON

Compact JSON: no blanks, members in the order given, and only those characters escaped that a string
cannot hold.
-/

namespace PubSubProvisioning.Json

open PubSubProvisioning.Text (lowerHex)

/-- A control character that has no short escape. -/
def escapedControl (c : Char) : List Char :=
  let digits := lowerHex c.toNat
  ['\\', 'u'] ++ List.replicate (4 - digits.length) '0' ++ digits

/-- A character as it stands in a string. -/
def escapedChar (c : Char) : List Char :=
  if c = '"' then ['\\', '"']
  else if c = '\\' then ['\\', '\\']
  else if c = '\x08' then ['\\', 'b']
  else if c = '\x0c' then ['\\', 'f']
  else if c = '\n' then ['\\', 'n']
  else if c = '\r' then ['\\', 'r']
  else if c = '\t' then ['\\', 't']
  else if c.toNat < 0x20 then escapedControl c
  else [c]

/-- A text as a JSON string. -/
def stringText (text : String) : String :=
  String.ofList ('"' :: text.toList.flatMap escapedChar ++ ['"'])

/-- An object of members whose values are written already. -/
def objectText (members : List (String × String)) : String :=
  "\x7b" ++ ",".intercalate (members.map fun (key, value) => stringText key ++ ":" ++ value) ++
    "\x7d"

end PubSubProvisioning.Json
