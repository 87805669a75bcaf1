import PubSubProvisioning.Idna.Mapping
import PubSubProvisioning.Idna.Punycode
import PubSubProvisioning.Unicode.Direction
import PubSubProvisioning.Unicode.Joining
import PubSubProvisioning.Unicode.Mark
import PubSubProvisioning.Unicode.Normal

/-!
# Domain names in ASCII

A domain name is folded, brought into its composed form, cut at its full stops, and checked label by
label; labels with characters outside ASCII are then written in Punycode.  A label that is already
written in Punycode is read first, and has to stand for a label that folding leaves alone.

The rules are the non-transitional ones, without limits on hyphens, and with limits on lengths only
where Punycode is read or written, which takes longer than reading along.  Names in ASCII alone take
a short way through every step, and no table is consulted for them.
-/

namespace PubSubProvisioning.Idna

open PubSubProvisioning.Unicode
open PubSubProvisioning.Text (fields joined)

/-- Whether a character belongs to ASCII. -/
def isAscii (c : Char) : Bool :=
  c.toNat < 0x80

/-- ASCII characters that would end or alter the host of a URL. -/
def forbiddenInUrl (c : Char) : Bool :=
  c.toNat ≤ 0x20 || c.toNat = 0x7F ||
    "%#/:<>?@[\\]^|".toList.contains c

/-- Folds a whole name, and brings it into the composed form. -/
def foldName? (name : List Char) : Option (List Char) := do
  let folded ← name.mapM fold
  let text := folded.flatten
  some (if text.all isAscii then text else normalForm text)

/-! ## Checks on one label -/

/-- Whether a joiner may stand between `before`, nearest character first, and `after`.  Either
joiner may follow a virama; a non-joiner may also separate two letters that would connect. -/
def joinerFits (joiner : Char) (before after : List Char) : Bool :=
  let connects := fun (text : List Char) (sides : List CodePoints) =>
    match text.find? fun c => !transparentJoining.contains c with
    | some c => sides.any (·.contains c)
    | none => false
  before.head?.any isVirama ||
    joiner = '\u200C' && connects before [leftJoining, dualJoining] &&
      connects after [rightJoining, dualJoining]

/-- Whether every joiner of a label stands where one may stand. -/
def joinersFit (before : List Char) : List Char → Bool
  | [] => true
  | c :: after =>
      (c ≠ '\u200C' && c ≠ '\u200D' || joinerFits c before after) && joinersFit (c :: before) after

/-- Whether a label can stand in a name: it is in composed form, does not begin with a mark, folding
leaves its characters alone, its joiners fit, and none of its characters is forbidden. -/
def isLabel (label : List Char) : Bool :=
  label.all (!forbiddenInUrl ·) &&
    (label.all isAscii && label.all (!·.isUpper) ||
      normalForm label == label && !label.head?.any marks.contains &&
        label.all (fun c => fold c == some [c]) && joinersFit [] label)

/-- How a label begins that is written in Punycode. -/
def punycodeMark : List Char :=
  ['x', 'n', '-', '-']

/-- How long a label may be that Punycode has to write. -/
def labelLimit : Nat :=
  1000

/-- How long a Punycode form may be. -/
def punycodeLimit : Nat :=
  2000

/-- The label that a piece of a folded name stands for.  What is written in Punycode has to need
it. -/
def readLabel? (piece : List Char) : Option (List Char) :=
  if punycodeMark.isPrefixOf piece then do
    let form := piece.drop 4
    let label ← if form.length ≤ punycodeLimit then Punycode.decode? form else none
    if piece.all isAscii && !label.all isAscii && isLabel label && label.length ≤ labelLimit then
      some label
    else none
  else if isLabel piece && (piece.all isAscii || piece.length ≤ labelLimit) then some piece
  else none

/-! ## Direction -/

/-- Whether a label makes its name bidirectional. -/
def isRightToLeft (label : List Char) : Bool :=
  label.any fun c =>
    !isAscii c &&
      match direction c with
      | .rightToLeft | .arabicLetter | .arabicNumber => true
      | _ => false

/-- The directions in which a label may hold characters whatever its own direction is. -/
def isNeutral : Direction → Bool
  | .europeanSeparator | .commonSeparator | .europeanTerminator | .otherNeutral
  | .boundaryNeutral | .nonspacingMark => true
  | _ => false

/-- Whether a label reads the same in a line of either direction.  It begins with a letter, holds
nothing of the other direction, ends with a letter or digit, marks aside, and does not mix the two
kinds of digits. -/
def keepsDirection (label : List Char) : Bool :=
  let classes := label.map direction
  let final := (classes.reverse.dropWhile (· = .nonspacingMark)).head?
  match classes.head? with
  | none => true
  | some .leftToRight =>
      classes.all (fun d => d = .leftToRight || d = .europeanNumber || isNeutral d) &&
        (final = some .leftToRight || final = some .europeanNumber)
  | some first =>
      (first = .rightToLeft || first = .arabicLetter) &&
        classes.all (fun d => d = .rightToLeft || d = .arabicLetter || d = .arabicNumber ||
          d = .europeanNumber || isNeutral d) &&
        (final = some .rightToLeft || final = some .arabicLetter ||
          final = some .europeanNumber || final = some .arabicNumber) &&
        !(classes.contains .europeanNumber && classes.contains .arabicNumber)

/-! ## Whole names -/

/-- A label as it is written in ASCII. -/
def writeLabel (label : List Char) : List Char :=
  if label.all isAscii then label else punycodeMark ++ Punycode.encode label

/-- The ASCII form of a domain name, or nothing if it is no domain name. -/
def toAscii? (name : List Char) : Option (List Char) := do
  let folded ← foldName? name
  let labels ← (fields '.' folded).mapM readLabel?
  if labels.any isRightToLeft && !labels.all keepsDirection then none
  else some (joined '.' (labels.map writeLabel))

end PubSubProvisioning.Idna
