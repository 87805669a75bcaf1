import PubSubProvisioning.Url.Path

/-!
# Percent code reads back

A text that is written in percent code reads back as itself as long as percent signs are escaped
too. Escaping makes no dots and takes none away, so a written segment is a dot segment exactly if
the text was one before.
-/

namespace PubSubProvisioning

open PubSubProvisioning.Text (hexValue? upperHexDigit hexValue?_upperHexDigit)

/-! ## Octets -/

namespace Unicode.Utf8

@[simp]
theorem encode_cons (c : Char) (rest : List Char) :
    encode (c :: rest) = String.utf8EncodeChar c ++ encode rest :=
  List.flatMap_cons

@[simp]
theorem encode_append (first second : List Char) :
    encode (first ++ second) = encode first ++ encode second :=
  List.flatMap_append

/-- Different texts have different octets. -/
theorem encode_inj {first second : List Char} : encode first = encode second ↔ first = second := by
  constructor
  · intro same
    have octets : first.utf8Encode = second.utf8Encode := congrArg List.toByteArray same
    have texts := congrArg ByteArray.utf8Decode? octets
    rw [List.utf8Decode?_utf8Encode, List.utf8Decode?_utf8Encode] at texts
    simpa using texts
  · rintro rfl
    rfl

theorem encodeChar_of_ascii {c : Char} (ascii : c.toNat < 0x80) :
    String.utf8EncodeChar c = [UInt8.ofNat c.toNat] := by
  have low : c.val.toNat ≤ 0x7F := Nat.le_of_lt_succ ascii
  rw [String.utf8EncodeChar]
  simp only [low, if_true]
  rfl

/-- No octet of a character outside ASCII is one of ASCII. -/
theorem high_of_mem_encodeChar {c : Char} (high : 0x80 ≤ c.toNat) {octet : UInt8}
    (member : octet ∈ String.utf8EncodeChar c) : 0x80 ≤ octet.toNat := by
  have beyond : ¬c.val.toNat ≤ 0x7F := Nat.not_le.mpr high
  rw [String.utf8EncodeChar] at member
  simp only [beyond, if_false] at member
  split at member
  · simp only [List.mem_cons, List.not_mem_nil, or_false] at member
    rcases member with rfl | rfl <;> simp <;> omega
  · split at member
    · simp only [List.mem_cons, List.not_mem_nil, or_false] at member
      rcases member with rfl | rfl | rfl <;> simp <;> omega
    · simp only [List.mem_cons, List.not_mem_nil, or_false] at member
      rcases member with rfl | rfl | rfl | rfl <;> simp <;> omega

theorem ofNat_octet {c : Char} (ascii : c.toNat < 0x80) :
    Char.ofNat (UInt8.ofNat c.toNat).toNat = c := by
  have small : c.toNat % 2 ^ 8 = c.toNat := Nat.mod_eq_of_lt (by omega)
  rw [UInt8.toNat_ofNat', small, Char.ofNat_toNat]

end Unicode.Utf8

namespace Url

open PubSubProvisioning.Unicode (Utf8.encode Utf8.encode_cons Utf8.encode_append
  Utf8.encodeChar_of_ascii Utf8.high_of_mem_encodeChar Utf8.ofNat_octet)

/-! ## Escapes -/

theorem upperHexDigit_lt {value : Nat} (small : value < 16) :
    (upperHexDigit value).toNat < 0x80 := by
  have all : ∀ digit ∈ List.range 16, (upperHexDigit digit).toNat < 0x80 := by decide
  exact all value (List.mem_range.mpr small)

theorem unescape_cons_of_ne {octet : UInt8} (plain : octet ≠ 0x25) (rest : List UInt8) :
    unescape (octet :: rest) = octet :: unescape rest := by
  match rest with
  | [] => rfl
  | [_] => rfl
  | _ :: _ :: _ => rw [unescape, if_neg plain]

theorem unescape_escapeOctet (octet : UInt8) (rest : List UInt8) :
    unescape (Utf8.encode (escapeOctet octet) ++ rest) = octet :: unescape rest := by
  have bound := octet.toNat_lt
  have high : octet.toNat / 16 < 16 := by omega
  have low : octet.toNat % 16 < 16 := Nat.mod_lt _ (by decide)
  have encoded : Utf8.encode (escapeOctet octet) =
      [0x25, UInt8.ofNat (upperHexDigit (octet.toNat / 16)).toNat,
        UInt8.ofNat (upperHexDigit (octet.toNat % 16)).toNat] := by
    rw [escapeOctet, Utf8.encode_cons, Utf8.encode_cons, Utf8.encode_cons,
      Utf8.encodeChar_of_ascii (upperHexDigit_lt high),
      Utf8.encodeChar_of_ascii (upperHexDigit_lt low)]
    rfl
  have whole : 16 * (octet.toNat / 16) + octet.toNat % 16 = octet.toNat := Nat.div_add_mod _ _
  rw [encoded]
  simp only [List.cons_append, List.nil_append, unescape, if_pos]
  rw [Utf8.ofNat_octet (upperHexDigit_lt high), Utf8.ofNat_octet (upperHexDigit_lt low),
    hexValue?_upperHexDigit high, hexValue?_upperHexDigit low]
  simp only [whole, UInt8.ofNat_toNat]

theorem unescape_escapeOctets (octets rest : List UInt8) :
    unescape (Utf8.encode (octets.flatMap escapeOctet) ++ rest) = octets ++ unescape rest := by
  induction octets with
  | nil => rfl
  | cons octet octets inductionHypothesis =>
      rw [List.flatMap_cons, Utf8.encode_append, List.append_assoc, unescape_escapeOctet,
        inductionHypothesis, List.cons_append]

/-- A text reads back from its percent code. -/
theorem percentDecode_percentEncode {escaped : Char → Bool}
    (kept : ∀ c, escaped c = false → c.toNat < 0x80 ∧ c ≠ '%') (text : List Char) :
    percentDecode (percentEncode escaped text) = Utf8.encode text := by
  rw [percentDecode]
  induction text with
  | nil => rfl
  | cons c rest inductionHypothesis =>
      rw [percentEncode_cons, Utf8.encode_append, Utf8.encode_cons]
      cases escapes : escaped c with
      | true => rw [if_pos rfl, unescape_escapeOctets, inductionHypothesis]
      | false =>
          obtain ⟨ascii, noPercent⟩ := kept c escapes
          have plain : UInt8.ofNat c.toNat ≠ 0x25 := by
            intro same
            apply noPercent
            rw [← Utf8.ofNat_octet ascii, same]
            rfl
          have alone : Utf8.encode [c] = [UInt8.ofNat c.toNat] := by
            rw [Utf8.encode_cons, Utf8.encodeChar_of_ascii ascii]
            rfl
          simp only [Bool.false_eq_true, if_false]
          rw [alone, Utf8.encodeChar_of_ascii ascii, List.singleton_append,
            unescape_cons_of_ne plain, inductionHypothesis, List.singleton_append]

/-- What is kept in a segment is in ASCII, and no percent sign. -/
theorem escapedInSegment_eq_false {special : Bool} {c : Char}
    (kept : escapedInSegment special c = false) : c.toNat < 0x80 ∧ c ≠ '%' := by
  simp only [escapedInSegment, escapedInPath, escapedInFragment, escapedAlways,
    Bool.or_eq_false_iff, decide_eq_false_iff_not] at kept
  constructor
  · omega
  · exact kept.1.2

/-! ## Dot segments -/

theorem dots_dot (rest : List Char) :
    segmentKind.dots ('.' :: rest) = (segmentKind.dots rest).map (· + 1) :=
  rfl

theorem dots_of_plain {c : Char} (noDot : c ≠ '.') (noPercent : c ≠ '%') (rest : List Char) :
    segmentKind.dots (c :: rest) = none := by
  rw [segmentKind.dots.eq_def]
  split <;> simp_all

theorem dots_of_escape {high low : Char} (noDot : high ≠ '2' ∨ low ≠ 'e' ∧ low ≠ 'E')
    (rest : List Char) : segmentKind.dots ('%' :: high :: low :: rest) = none := by
  rw [segmentKind.dots.eq_def]
  split <;> simp_all

/-- An escaped octet stands for no dot unless it is one. -/
theorem dots_escapeOctet {octet : UInt8} (noDot : octet ≠ 0x2E) (rest : List Char) :
    segmentKind.dots (escapeOctet octet ++ rest) = none := by
  apply dots_of_escape
  have bound := octet.toNat_lt
  have inverse (value : Nat) (small : value < 16) (digit : Char)
      (same : upperHexDigit value = digit) : hexValue? digit = some value := by
    rw [← same, hexValue?_upperHexDigit small]
  by_cases two : upperHexDigit (octet.toNat / 16) = '2'
  · right
    have high : 2 = octet.toNat / 16 := Option.some.inj (inverse _ (by omega) _ two)
    have low : octet.toNat % 16 ≠ 14 := by
      intro low
      apply noDot
      apply UInt8.toNat_inj.mp
      simp only [UInt8.reduceToNat]
      omega
    constructor
    · intro small
      exact low (Option.some.inj (inverse _ (by omega) _ small)).symm
    · intro capital
      exact low (Option.some.inj (inverse _ (by omega) _ capital)).symm
  · exact .inl two

/-- Only the octets of a dot begin with that of a dot. -/
theorem exists_octet_of_ne_dot {c : Char} (noDot : c ≠ '.') :
    ∃ octet more, octet ≠ 0x2E ∧ String.utf8EncodeChar c = octet :: more := by
  obtain ⟨octet, more, shape⟩ :=
    List.exists_cons_of_ne_nil (String.utf8EncodeChar_ne_nil (c := c))
  have member : octet ∈ String.utf8EncodeChar c := by
    rw [shape]
    exact List.mem_cons_self
  have differs : octet ≠ 0x2E := by
    rintro rfl
    by_cases ascii : c.toNat < 0x80
    · apply noDot
      rw [Utf8.encodeChar_of_ascii ascii, List.mem_singleton] at member
      rw [← Utf8.ofNat_octet ascii, ← member]
      rfl
    · have high := Utf8.high_of_mem_encodeChar (Nat.le_of_not_lt ascii) member
      simp at high
  exact ⟨octet, more, differs, shape⟩

/-- Escaping neither makes dots nor takes any away. -/
theorem dots_percentEncode (special : Bool) (text : List Char) :
    segmentKind.dots (percentEncode (escapedInSegment special) text) =
      if text.all (· = '.') then some text.length else none := by
  induction text with
  | nil => rfl
  | cons c rest inductionHypothesis =>
      rw [percentEncode_cons]
      by_cases dot : c = '.'
      · subst dot
        have kept : escapedInSegment special '.' = false := by cases special <;> rfl
        simp only [kept, Bool.false_eq_true, if_false, List.singleton_append, dots_dot,
          inductionHypothesis, List.all_cons, decide_true, Bool.true_and, List.length_cons]
        split <;> rfl
      · simp only [List.all_cons, dot, decide_false, Bool.false_and, Bool.false_eq_true, if_false]
        cases escapes : escapedInSegment special c with
        | false =>
            simp only [Bool.false_eq_true, if_false, List.singleton_append]
            exact dots_of_plain dot (escapedInSegment_eq_false escapes).2 _
        | true =>
            obtain ⟨octet, more, noDot, shape⟩ := exists_octet_of_ne_dot dot
            simp only [if_true, shape, List.flatMap_cons, List.append_assoc]
            exact dots_escapeOctet noDot _

/-- A written segment is a dot segment exactly if its text is one or two dots. -/
theorem segmentKind_percentEncode (special : Bool) (text : List Char) :
    segmentKind (percentEncode (escapedInSegment special) text) =
      if text = ['.'] then .here else if text = ['.', '.'] then .parent else .plain := by
  rw [segmentKind, dots_percentEncode]
  match text with
  | [] => rfl
  | [c] => by_cases dot : c = '.' <;> simp [dot]
  | [c, d] => by_cases first : c = '.' <;> by_cases second : d = '.' <;> simp [first, second]
  | c :: d :: e :: rest => split <;> simp_all

end Url

end PubSubProvisioning
