import PubSubProvisioning.Text.Numeral
import PubSubProvisioning.Unicode.Invisible

/-!
# Quoted texts

A text inside a message stands in quotation marks, with every character that could be overlooked or
mistaken spelled out.  Only the backslash begins an escape and only a bare quotation mark ends the
text, so a quoted text shows where it ends and which characters it holds.
-/

namespace PubSubProvisioning.Text

open PubSubProvisioning.Unicode (invisible)

/-- A character that is spelled out by its number in braces. -/
def numbered (c : Char) : List Char :=
  '\\' :: 'u' :: '\x7b' :: lowerHex c.toNat ++ ['\x7d']

/-- A character as it stands in a quoted text. -/
def quotedChar (c : Char) : List Char :=
  if c = '"' then ['\\', '"']
  else if c = '\\' then ['\\', '\\']
  else if c = '\n' then ['\\', 'n']
  else if c = '\r' then ['\\', 'r']
  else if c = '\t' then ['\\', 't']
  else if c = '\x00' then ['\\', '0']
  else if 0x20 ≤ c.toNat ∧ c.toNat < 0x7F then [c]
  else if c.toNat < 0xA0 || invisible.contains c then numbered c
  else [c]

/-- A text in quotation marks. -/
def quote (text : String) : String :=
  String.ofList ('"' :: text.toList.flatMap quotedChar ++ ['"'])

end PubSubProvisioning.Text
