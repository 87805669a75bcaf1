import PubSubProvisioning.Text.Fields
import PubSubProvisioning.Url.Basic

/-!
# Paths of segments

A path grows one segment at a time.  A single dot names the segment it stands in, a double dot the
one before it; neither is ever kept.  Where such a segment is the last one it leaves an empty
segment behind, since what it names is a directory.  A drive letter is never taken back by a double
dot.

Segments are also added to the path of a finished URL.  There, a text that is given as one segment
becomes one segment, whatever characters it holds.
-/

namespace PubSubProvisioning.Url

open PubSubProvisioning.Text (fields)

/-! ## Where a part ends -/

/-- Whether a character is a slash, or a backslash that stands for one. -/
def isSlash (special : Bool) (c : Char) : Bool :=
  c = '/' || special && c = '\\'

/-- Characters that end a path. -/
def endsPath (c : Char) : Bool :=
  c = '?' || c = '#'

/-- Characters that end an authority. -/
def endsAuthority (special : Bool) (c : Char) : Bool :=
  isSlash special c || endsPath c

/-! ## Breaks -/

/-- Tabs and line ends, which are no part of a URL wherever they stand. -/
def isBreak (c : Char) : Bool :=
  c = '\t' || c = '\n' || c = '\r'

/-- The characters of a text that belong to a URL. -/
def visible (text : List Char) : List Char :=
  text.filter (!isBreak ·)

/-- A text from behind its first `count` visible characters on. -/
def dropVisible : Nat → List Char → List Char
  | _, [] => []
  | count, c :: rest =>
      if count = 0 then c :: rest
      else if isBreak c then dropVisible count rest
      else dropVisible (count - 1) rest

/-! ## Drive letters -/

/-- Whether a segment is a letter and a colon, or a letter and a bar. -/
def isDriveLetter (segment : List Char) : Bool :=
  match segment with
  | [letter, mark] => letter.isAlpha && (mark = ':' || mark = '|')
  | _ => false

/-- Whether a segment is a drive letter, or one with a backslash behind it. -/
def beginsWithDriveLetter (segment : List Char) : Bool :=
  isDriveLetter (segment.take 2) && (segment.drop 2).head?.all (· = '\\')

/-- A drive letter and the text behind it, if a break stands between them; they are then read as two
segments. -/
def drivePieces? (text : List Char) : Option (List Char × List Char) :=
  let behind := dropVisible 2 text
  let drive := (visible text).take 2
  if isDriveLetter drive && drive.getLast? = some ':' && behind.head?.any isBreak &&
      !(visible behind).isEmpty then some (drive, visible behind)
  else none

/-! ## Dot segments -/

/-- What a segment stands for. -/
inductive SegmentKind where
  | here
  | parent
  | plain
  deriving DecidableEq, Repr

/-- A dot may be escaped, in either case. -/
def segmentKind (segment : List Char) : SegmentKind :=
  let rec dots : List Char → Option Nat
    | [] => some 0
    | '.' :: rest => (dots rest).map (· + 1)
    | '%' :: '2' :: 'e' :: rest => (dots rest).map (· + 1)
    | '%' :: '2' :: 'E' :: rest => (dots rest).map (· + 1)
    | _ => none
  match dots segment with
  | some 1 => .here
  | some 2 => .parent
  | _ => .plain

/-! ## Growth -/

/-- A path while it grows: the segments so far, the last one first, and whether the path begins with
a drive, which is a place on the local machine whatever host is named. -/
structure Trail where
  behind : List String := []
  onDrive : Bool := false
  deriving DecidableEq, Repr

/-- The trail with one more segment. -/
def Trail.push (trail : Trail) (segment : List Char) : Trail :=
  { trail with behind := String.ofList segment :: trail.behind }

/-- The trail without its last segment, which stays if it begins with a drive letter. -/
def Trail.pop (trail : Trail) : Trail :=
  if trail.behind.head?.any (beginsWithDriveLetter ·.toList) then trail
  else { trail with behind := trail.behind.tail }

/-- Adds one segment to a trail; `last` says whether the path ends with it.  Only the first segment
of a `file` path can be a drive. -/
def Trail.add (kind : SchemeKind) (escaped : Char → Bool) (last : Bool) (trail : Trail)
    (segment : List Char) : Trail :=
  let written := percentEncode escaped (visible segment)
  let directory := fun (trail : Trail) => if last then trail.push [] else trail
  let atFront := kind = .file && trail.behind.isEmpty
  match if atFront then drivePieces? segment else none with
  | some (drive, rest) => (trail.push drive).push (percentEncode escaped rest)
  | none =>
      match segmentKind written with
      | .parent => directory trail.pop
      | .here => directory trail
      | .plain =>
          if atFront && isDriveLetter written then
            { trail.push (written.take 1 ++ [':']) with onDrive := true }
          else trail.push written

/-- Adds segments in turn; the path ends with the last one. -/
def Trail.addAll (kind : SchemeKind) (trail : Trail) : List (List Char) → Trail
  | [] => trail
  | [last] => trail.add kind escapedInPath true last
  | segment :: next :: rest =>
      addAll kind (trail.add kind escapedInPath false segment) (next :: rest)

/-- The trail of a path that is read from the text behind its first slash. -/
def Trail.read (kind : SchemeKind) (text : List Char) : Trail :=
  Trail.addAll kind {} (fields '/' (text.map fun c => if isSlash kind.isSpecial c then '/' else c))

/-- The segments of a trail in their order.  A `file` path does not begin with empty ones. -/
def Trail.segments (kind : SchemeKind) (trail : Trail) : List String :=
  let ordered := trail.behind.reverse
  if kind = .file then
    match ordered.dropWhile (· = "") with
    | [] => [""]
    | rest => rest
  else ordered

/-! ## Adding to a finished path -/

/-- The path without an empty last segment, so that what is added follows its last slash. -/
def withoutEmptyEnd (segments : List String) : List String :=
  if 2 ≤ segments.length && segments.getLast? = some "" then segments.dropLast else segments

/-- Adds a text as one segment.  A path of one empty segment is replaced.  A text of one or two dots
is left out, and one that becomes such without its breaks is resolved. -/
def appendSegment (kind : SchemeKind) (segments : List String) (segment : String) : List String :=
  if segment = "." || segment = ".." then segments
  else
    let before : Trail := { behind := if segments = [""] then [] else segments.reverse }
    (before.add kind (escapedInSegment kind.isSpecial) true segment.toList).segments kind

/-- The URL with texts added to its path, each as one segment, in place of an empty last segment.  A
path without segments takes none. -/
def append? (url : Url) (added : List String) : Option Url :=
  match url.path with
  | .segments list =>
      let kind := schemeKind url.scheme
      some
        { url with
          path := .segments (added.foldl (appendSegment kind) (withoutEmptyEnd list)) }
  | .rootless _ => none

end PubSubProvisioning.Url
