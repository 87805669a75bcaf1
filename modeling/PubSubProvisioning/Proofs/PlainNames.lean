import PubSubProvisioning.Proofs.DomainNames
import PubSubProvisioning.Proofs.PercentCode

/-!
# Hosts of letters and digits

A host that is written with letters and digits of ASCII alone stands for itself in lower case.  If
all of it is digits it is a number, and so an address rather than a name.
-/

namespace PubSubProvisioning

open PubSubProvisioning.Text (fields joined)
open PubSubProvisioning.Unicode (Utf8.encode Utf8.decode?)

/-- What holds of all codes of ASCII holds of its characters. -/
theorem exists_code_of_ascii {c : Char} (ascii : c.toNat < 0x80) :
    ∃ code ∈ List.range 0x80, Char.ofNat code = c :=
  ⟨c.toNat, List.mem_range.mpr ascii, Char.ofNat_toNat c⟩

theorem ascii_of_isAlphanum {c : Char} (plain : c.isAlphanum = true) : c.toNat < 0x80 := by
  have bounded {last : Char} (upTo : c.val ≤ last.val) (ascii : last.toNat < 0x80) :
      c.toNat < 0x80 := Nat.lt_of_le_of_lt (UInt32.le_iff_toNat_le.mp upTo) ascii
  rcases Bool.or_eq_true_iff.mp plain with letter | digit
  · rcases Bool.or_eq_true_iff.mp letter with upper | lower
    · exact bounded (of_decide_eq_true upper).2 (by decide)
    · exact bounded (of_decide_eq_true (Bool.and_eq_true_iff.mp lower).2) (by decide)
  · exact bounded (of_decide_eq_true (Bool.and_eq_true_iff.mp digit).2) (by decide)

/-- Letters and digits are no part of an escape, and folding changes no more than their case. -/
theorem plain_of_isAlphanum {c : Char} (plain : c.isAlphanum = true) :
    c ≠ '%' ∧ c ≠ '[' ∧ c.toLower.isAlphanum = true ∧ Idna.forbiddenInUrl c.toLower = false ∧
      c.toLower.isUpper = false ∧ c.toLower ≠ '.' ∧ c.toLower ≠ '-' := by
  obtain ⟨code, member, rfl⟩ := exists_code_of_ascii (ascii_of_isAlphanum plain)
  revert code
  decide +kernel

theorem isAlphanum_of_isDigit {c : Char} (digit : c.isDigit = true) : c.isAlphanum = true := by
  rw [Char.isAlphanum, digit, Bool.or_true]

theorem toLower_of_isDigit {c : Char} (digit : c.isDigit = true) : c.toLower = c := by
  obtain ⟨code, member, rfl⟩ :=
    exists_code_of_ascii (ascii_of_isAlphanum (isAlphanum_of_isDigit digit))
  revert code
  decide +kernel

section Word

variable {word : List Char}

/-! ## Octets -/

/-- An ASCII text spells itself. -/
theorem Unicode.Utf8.decode?_encode_of_ascii (ascii : ∀ c ∈ word, c.toNat < 0x80) :
    Utf8.decode? (Utf8.encode word) = some word := by
  induction word with
  | nil => rfl
  | cons c rest inductionHypothesis =>
      have low := ascii c List.mem_cons_self
      have octet : (UInt8.ofNat c.toNat).toNat < 0x80 := by
        rw [UInt8.toNat_ofNat', Nat.mod_eq_of_lt (by omega)]
        exact low
      have later := inductionHypothesis fun d member => ascii d (List.mem_cons_of_mem _ member)
      rw [Utf8.decode?] at later ⊢
      rw [encode_cons, encodeChar_of_ascii low, List.singleton_append, scan_ascii octet,
        ofNat_octet low, List.mapM_cons, later]
      rfl

theorem Url.percentDecode_of_isAlphanum (plain : ∀ c ∈ word, c.isAlphanum = true) :
    percentDecode word = Utf8.encode word := by
  rw [percentDecode]
  induction word with
  | nil => rfl
  | cons c rest inductionHypothesis =>
      have letter := plain c List.mem_cons_self
      have low := ascii_of_isAlphanum letter
      have noEscape : UInt8.ofNat c.toNat ≠ 0x25 := by
        intro same
        have code := congrArg (fun octet => Char.ofNat octet.toNat) same
        rw [Unicode.Utf8.ofNat_octet low] at code
        exact (plain_of_isAlphanum letter).1 code
      rw [Unicode.Utf8.encode_cons, Unicode.Utf8.encodeChar_of_ascii low, List.singleton_append,
        unescape_cons_of_ne noEscape,
        inductionHypothesis fun d member => plain d (List.mem_cons_of_mem _ member)]

/-! ## Names -/

namespace Idna

theorem isAscii_toLower_of_isAlphanum (plain : ∀ c ∈ word, c.isAlphanum = true) :
    (word.map Char.toLower).all isAscii = true := by
  rw [List.all_map, List.all_eq_true]
  intro c member
  simpa [isAscii] using ascii_of_isAlphanum (plain_of_isAlphanum (plain c member)).2.2.1

theorem foldName?_of_isAlphanum (plain : ∀ c ∈ word, c.isAlphanum = true) :
    foldName? word = some (word.map Char.toLower) := by
  have folded : word.mapM fold = some (word.map fun c => [c.toLower]) := by
    induction word with
    | nil => rfl
    | cons c rest inductionHypothesis =>
        have low := ascii_of_isAlphanum (plain c List.mem_cons_self)
        rw [List.mapM_cons, fold, if_pos low,
          inductionHypothesis fun d member => plain d (List.mem_cons_of_mem _ member)]
        rfl
  have flat : (word.map fun c => [c.toLower]).flatten = word.map Char.toLower := by
    rw [← List.flatMap_def, List.map_eq_flatMap]
  rw [foldName?, folded]
  simp only [Option.bind_eq_bind, Option.bind_some, flat, isAscii_toLower_of_isAlphanum plain,
    if_true]

/-- A word is a label in lower case. -/
theorem readLabel?_of_isAlphanum (plain : ∀ c ∈ word, c.isAlphanum = true) :
    readLabel? (word.map Char.toLower) = some (word.map Char.toLower) := by
  have letters (c : Char) (member : c ∈ word) := plain_of_isAlphanum (plain c member)
  have unmarked : punycodeMark.isPrefixOf (word.map Char.toLower) = false := by
    rw [Bool.eq_false_iff, ne_eq, List.isPrefixOf_iff_prefix]
    intro marked
    have hyphen : '-' ∈ word.map Char.toLower := marked.subset (by decide)
    obtain ⟨c, member, same⟩ := List.mem_map.mp hyphen
    exact (letters c member).2.2.2.2.2.2 same
  have ascii := isAscii_toLower_of_isAlphanum plain
  have allowed : (word.map Char.toLower).all (!forbiddenInUrl ·) = true := by
    simpa using fun c member => (letters c member).2.2.2.1
  have lower : (word.map Char.toLower).all (!·.isUpper) = true := by
    rw [List.all_map, List.all_eq_true]
    intro c member
    rw [Function.comp_apply, (letters c member).2.2.2.2.1, Bool.not_false]
  simp [readLabel?, unmarked, isLabel, ascii, allowed, lower]

/-- A word is a domain name in lower case. -/
theorem toAscii?_of_isAlphanum (plain : ∀ c ∈ word, c.isAlphanum = true) :
    toAscii? word = some (word.map Char.toLower) := by
  have letters (c : Char) (member : c ∈ word) := plain_of_isAlphanum (plain c member)
  have whole : '.' ∉ word.map Char.toLower := by
    intro stop
    obtain ⟨c, member, same⟩ := List.mem_map.mp stop
    exact (letters c member).2.2.2.2.2.1 same
  have ascii := isAscii_toLower_of_isAlphanum plain
  have plainLabel : isRightToLeft (word.map Char.toLower) = false := by
    rw [isRightToLeft, List.any_eq_false]
    intro c member
    simp [List.all_eq_true.mp ascii c member]
  simp [toAscii?, foldName?_of_isAlphanum plain, Text.fields_of_not_mem whole,
    readLabel?_of_isAlphanum plain, plainLabel, writeLabel, ascii, joined]

end Idna

/-! ## Hosts -/

namespace Url

/-- A word is the host of its name in lower case, or the address that it is the number of. -/
theorem domainHost_of_isAlphanum (plain : ∀ c ∈ word, c.isAlphanum = true) (present : word ≠ []) :
    domainHost word =
      if endsInNumber (word.map Char.toLower) then
        match ipv4Address? (word.map Char.toLower) with
        | some address => .ok (.ipv4 address)
        | none => .error .ipv4Address
      else .ok (.name (String.ofList (word.map Char.toLower))) := by
  have read : (Utf8.decode? (percentDecode word) >>= Idna.toAscii?) =
      some (word.map Char.toLower) := by
    rw [percentDecode_of_isAlphanum plain,
      Unicode.Utf8.decode?_encode_of_ascii fun c member => ascii_of_isAlphanum (plain c member)]
    exact Idna.toAscii?_of_isAlphanum plain
  cases word with
  | nil => exact absurd rfl present
  | cons c rest =>
      have noBracket : c ≠ '[' := (plain_of_isAlphanum (plain c List.mem_cons_self)).2.1
      rw [domainHost, if_neg (by simpa using noBracket), read]
      rfl

/-- A number is not the name of a host. -/
theorem domainHost_ne_name_of_isDigit (digits : ∀ c ∈ word, c.isDigit = true)
    (present : word ≠ []) (name : String) : domainHost word ≠ .ok (.name name) := by
  have plain : ∀ c ∈ word, c.isAlphanum = true :=
    fun c member => isAlphanum_of_isDigit (digits c member)
  have lower : word.map Char.toLower = word := by
    rw [List.map_congr_left fun c member => toLower_of_isDigit (digits c member), List.map_id']
  have number : endsInNumber word = true := by
    have whole : '.' ∉ word := fun member => absurd (digits '.' member) (by decide)
    have filled : word.isEmpty = false := by simpa using present
    simp [endsInNumber, addressParts, Text.fields_of_not_mem whole, present, filled,
      List.all_eq_true.mpr digits]
  rw [domainHost_of_isAlphanum plain present, lower, if_pos number]
  split <;> simp

end Url

end Word

end PubSubProvisioning
