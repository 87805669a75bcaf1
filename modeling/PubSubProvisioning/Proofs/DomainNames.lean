import PubSubProvisioning.Proofs.NormalForm
import PubSubProvisioning.Url.Host

/-!
# What domain names cannot hold

A control or a space in a host cannot get lost on the way to a domain name: it is no part of an
escape and of no longer character, folding and composition leave it alone, and Punycode does not
write it.  No label may hold it, so the host is refused.
-/

namespace PubSubProvisioning

open PubSubProvisioning.Text (fields hexValue?)
open PubSubProvisioning.Unicode (IsInert)

/-- Controls and spaces of ASCII, which are cut off at the ends of a URL. -/
def IsPadding (c : Char) : Prop :=
  c.toNat ≤ 0x20

theorem IsPadding.isInert {c : Char} (padding : IsPadding c) : IsInert c :=
  Nat.lt_of_le_of_lt padding (by decide)

/-- Padding is one of finitely many characters. -/
theorem IsPadding.exists_code {c : Char} (padding : IsPadding c) :
    ∃ code ∈ List.range 0x21, Char.ofNat code = c :=
  ⟨c.toNat, List.mem_range.mpr (Nat.lt_succ_of_le padding), Char.ofNat_toNat c⟩

/-- Where a list of partial results is complete, each of them is there. -/
theorem exists_of_mapM_eq_some {α β : Type} {step : α → Option β} {list : List α}
    {results : List β} (complete : list.mapM step = some results) {item : α}
    (member : item ∈ list) : ∃ result ∈ results, step item = some result := by
  induction list generalizing results with
  | nil => simp at member
  | cons first rest inductionHypothesis =>
      rw [List.mapM_cons] at complete
      obtain ⟨head, stepped, complete⟩ := Option.bind_eq_some_iff.mp complete
      obtain ⟨tail, completeRest, same⟩ := Option.bind_eq_some_iff.mp complete
      obtain rfl : head :: tail = results := Option.some.inj same
      rcases List.mem_cons.mp member with rfl | member
      · exact ⟨head, List.mem_cons_self, stepped⟩
      · obtain ⟨result, there, stepped⟩ := inductionHypothesis completeRest member
        exact ⟨result, List.mem_cons_of_mem _ there, stepped⟩

/-! ## Octets -/

/-- An octet that is neither a percent sign nor a hexadecimal digit is no part of an escape. -/
theorem Url.mem_unescape {octet : UInt8} (plain : octet ≠ 0x25)
    (noDigit : hexValue? (Char.ofNat octet.toNat) = none) {octets : List UInt8}
    (member : octet ∈ octets) : octet ∈ unescape octets := by
  fun_induction unescape octets with
  | case1 high low rest first second isSecond isFirst inductionHypothesis =>
      rcases List.mem_cons.mp member with rfl | member
      · contradiction
      · rcases List.mem_cons.mp member with rfl | member
        · rw [noDigit] at isFirst
          contradiction
        · rcases List.mem_cons.mp member with rfl | member
          · rw [noDigit] at isSecond
            contradiction
          · exact List.mem_cons_of_mem _ (inductionHypothesis member)
  | case2 high low rest _ inductionHypothesis =>
      rcases List.mem_cons.mp member with rfl | member
      · contradiction
      · exact List.mem_cons_of_mem _ (inductionHypothesis member)
  | case3 percent high low rest _ inductionHypothesis =>
      rcases List.mem_cons.mp member with rfl | member
      · exact List.mem_cons_self
      · exact List.mem_cons_of_mem _ (inductionHypothesis member)
  | case4 octets _ => exact member

namespace Unicode.Utf8

/-- Whether a character begun goes on with an octet outside ASCII only. -/
def Begun.IsOpen (begun : Begun) : Prop :=
  0x80 ≤ begun.low

theorem isOpen_of_lead {octet : UInt8} {begun : Begun} (begins : lead octet = .begins begun) :
    begun.IsOpen := by
  simp only [lead] at begins
  repeat' split at begins
  all_goals simp only [reduceCtorEq, Lead.begins.injEq] at begins
  all_goals subst begins
  all_goals simp [Begun.IsOpen]

/-- An octet of ASCII spells its own character, whatever stands before it. -/
theorem some_mem_scan_cons {octet : UInt8} (ascii : octet.toNat < 0x80) (rest : List UInt8)
    {state : Option Begun} (isOpen : ∀ begun ∈ state, begun.IsOpen) :
    some (Char.ofNat octet.toNat) ∈ scan state (octet :: rest) := by
  cases state with
  | none => simp [scan_ascii ascii]
  | some begun =>
      have closed : ¬(begun.low ≤ octet ∧ octet ≤ begun.high) := by
        rintro ⟨above, -⟩
        have high := UInt8.le_iff_toNat_le.mp (UInt8.le_trans (isOpen begun rfl) above)
        simp only [UInt8.reduceToNat] at high
        omega
      rw [scan, if_neg closed]
      simp [lead, ascii]

/-- What an octet leaves to the ones behind it is read from an open state again. -/
theorem exists_scan_suffix (octet : UInt8) (rest : List UInt8) {state : Option Begun}
    (isOpen : ∀ begun ∈ state, begun.IsOpen) :
    ∃ next, (∀ begun ∈ next, begun.IsOpen) ∧ scan next rest <:+ scan state (octet :: rest) := by
  have fromNone : ∃ next, (∀ begun ∈ next, begun.IsOpen) ∧
      scan next rest <:+ scan none (octet :: rest) := by
    rw [scan]
    cases leads : lead octet with
    | whole c => exact ⟨none, by simp, List.suffix_cons _ _⟩
    | begins begun => exact ⟨some begun, by simpa using isOpen_of_lead leads, List.suffix_refl _⟩
    | illFormed => exact ⟨none, by simp, List.suffix_cons _ _⟩
  cases state with
  | none => exact fromNone
  | some begun =>
      rw [scan]
      by_cases within : begun.low ≤ octet ∧ octet ≤ begun.high
      · rw [if_pos within]
        dsimp only
        split
        · exact ⟨none, by simp, List.suffix_cons _ _⟩
        · exact ⟨some _, by simp [Begun.IsOpen], List.suffix_refl _⟩
      · obtain ⟨next, nextOpen, suffix⟩ := fromNone
        rw [if_neg within]
        exact ⟨next, nextOpen, suffix.trans (List.suffix_cons none _)⟩

/-- An octet of ASCII spells its own character, wherever it stands. -/
theorem some_mem_scan {octet : UInt8} (ascii : octet.toNat < 0x80) {octets : List UInt8}
    (member : octet ∈ octets) {state : Option Begun} (isOpen : ∀ begun ∈ state, begun.IsOpen) :
    some (Char.ofNat octet.toNat) ∈ scan state octets := by
  induction octets generalizing state with
  | nil => contradiction
  | cons first rest inductionHypothesis =>
      rcases List.mem_cons.mp member with rfl | member
      · exact some_mem_scan_cons ascii rest isOpen
      · obtain ⟨next, nextOpen, suffix⟩ := exists_scan_suffix first rest isOpen
        exact suffix.subset (inductionHypothesis member nextOpen)

end Unicode.Utf8

/-- Padding is one octet of ASCII, which is no part of an escape. -/
theorem IsPadding.octet {c : Char} (padding : IsPadding c) :
    let octet := UInt8.ofNat c.toNat
    String.utf8EncodeChar c = [octet] ∧ octet.toNat < 0x80 ∧ octet ≠ 0x25 ∧
      Char.ofNat octet.toNat = c ∧ hexValue? c = none := by
  obtain ⟨code, member, rfl⟩ := padding.exists_code
  clear padding
  revert code
  decide

/-- Padding in a host is padding in the text that the host stands for. -/
theorem Url.mem_of_decode?_percentDecode {c : Char} (padding : IsPadding c) {text name : List Char}
    (member : c ∈ text) (decoded : Unicode.Utf8.decode? (percentDecode text) = some name) :
    c ∈ name := by
  obtain ⟨encodes, ascii, plain, same, noDigit⟩ := padding.octet
  have encoded : UInt8.ofNat c.toNat ∈ Unicode.Utf8.encode text :=
    List.mem_flatMap.mpr ⟨c, member, by simp [encodes]⟩
  have octets : UInt8.ofNat c.toNat ∈ percentDecode text :=
    mem_unescape plain (by rwa [same]) encoded
  have fresh : ∀ begun ∈ (none : Option Unicode.Utf8.Begun), begun.IsOpen := by simp
  have spelled := Unicode.Utf8.some_mem_scan ascii octets fresh
  obtain ⟨letter, there, letterSame⟩ := exists_of_mapM_eq_some decoded spelled
  rw [same] at letterSame
  cases letterSame
  exact there

/-! ## Labels -/

/-- Padding is forbidden in labels; folding leaves it alone, and it has no meaning in Punycode. -/
theorem IsPadding.not_in_label {c : Char} (padding : IsPadding c) :
    Idna.forbiddenInUrl c = true ∧ Idna.fold c = some [c] ∧ c ≠ '.' ∧
      Idna.Punycode.digitValue? c = none ∧ c ≠ '-' ∧ c ∉ Idna.punycodeMark := by
  obtain ⟨code, member, rfl⟩ := padding.exists_code
  clear padding
  revert code
  decide

namespace Idna

namespace Punycode

/-- Characters that have been placed stay in the label. -/
theorem Reader.mem_label_of_insert? {reader after : Reader} {integer : Nat} {c : Char}
    (inserted : reader.insert? integer = some after) (member : c ∈ reader.label) :
    c ∈ after.label := by
  simp only [insert?] at inserted
  split at inserted
  · obtain rfl := Option.some.inj inserted
    rw [← List.take_append_drop ((reader.position + integer) % (reader.label.length + 1))
      reader.label] at member
    simp only [List.mem_append, List.mem_cons] at member ⊢
    rcases member with front | back
    · exact .inl front
    · exact .inr (.inr back)
  · contradiction

theorem Reader.mem_label_of_step? {reader after : Reader} {c d : Char}
    (stepped : reader.step? d = some after) (member : c ∈ reader.label) : c ∈ after.label := by
  obtain ⟨value, -, stepped⟩ := Option.bind_eq_some_iff.mp stepped
  dsimp only at stepped
  split at stepped
  · contradiction
  · split at stepped
    · exact mem_label_of_insert? stepped member
    · split at stepped
      · obtain rfl := Option.some.inj stepped
        exact member
      · contradiction

/-- Reading digits keeps what has been placed, and reads nothing but digits. -/
theorem Reader.mem_label_of_foldlM {reader final : Reader} {c : Char} {digits : List Char}
    (read : digits.foldlM Reader.step? reader = some final)
    (noDigit : digitValue? c = none) (member : c ∈ reader.label ∨ c ∈ digits) :
    c ∈ final.label := by
  induction digits generalizing reader with
  | nil =>
      obtain rfl := Option.some.inj read
      simpa using member
  | cons d rest inductionHypothesis =>
      rw [List.foldlM_cons] at read
      obtain ⟨next, stepped, read⟩ := Option.bind_eq_some_iff.mp read
      rw [List.mem_cons, ← or_assoc] at member
      rcases member with (placed | rfl) | later
      · exact inductionHypothesis read (.inl (mem_label_of_step? stepped placed))
      · simp [step?, noDigit] at stepped
      · exact inductionHypothesis read (.inr later)

/-- Only hyphens may get lost where a text is divided. -/
theorem mem_splitAtLastHyphen {text : List Char} {c : Char} (noHyphen : c ≠ '-')
    (member : c ∈ text) :
    c ∈ (splitAtLastHyphen text).1 ∨ c ∈ (splitAtLastHyphen text).2 := by
  rw [splitAtLastHyphen]
  generalize shape : (text.reverse.takeWhile (· ≠ '-')).reverse = tail
  split
  · exact .inr member
  · have parts : (text.reverse.dropWhile (· ≠ '-')).reverse ++ tail = text := by
      rw [← shape, ← List.reverse_append, List.takeWhile_append_dropWhile, List.reverse_reverse]
    rw [← parts] at member ⊢
    rcases List.mem_append.mp member with front | back
    · cases behind : text.reverse.dropWhile (· ≠ '-') with
      | nil =>
          rw [behind] at front
          contradiction
      | cons hyphen before =>
          have isHyphen := List.head?_dropWhile_not (fun c => decide (c ≠ '-')) text.reverse
          rw [behind] at isHyphen front
          obtain rfl : hyphen = '-' := by simpa using isHyphen
          have inBefore : c ∈ before.reverse := by simpa [noHyphen] using front
          rw [List.reverse_cons, List.append_assoc, List.singleton_append]
          have cut : (before.reverse ++ '-' :: tail).length - tail.length - 1 =
              before.reverse.length := by
            simp only [List.length_append, List.length_cons]
            omega
          rw [cut, List.take_left]
          exact .inl inBefore
    · exact .inr back

/-- What Punycode does not write is written in a label as it is. -/
theorem mem_of_decode? {text label : List Char} {c : Char} (decoded : decode? text = some label)
    (noDigit : digitValue? c = none) (noHyphen : c ≠ '-') (member : c ∈ text) : c ∈ label := by
  rw [decode?] at decoded
  obtain ⟨final, read, decoded⟩ := Option.bind_eq_some_iff.mp decoded
  have kept := Reader.mem_label_of_foldlM read noDigit (mem_splitAtLastHyphen noHyphen member)
  split at decoded
  · obtain rfl := Option.some.inj decoded
    exact kept
  · contradiction

end Punycode

theorem isLabel_eq_false {c : Char} (forbidden : forbiddenInUrl c = true) {label : List Char}
    (member : c ∈ label) : isLabel label = false := by
  have notAll : label.all (!forbiddenInUrl ·) = false := by
    rw [List.all_eq_false]
    exact ⟨c, member, by simp [forbidden]⟩
  rw [isLabel, notAll, Bool.false_and]

/-- No label holds padding. -/
theorem readLabel?_eq_none {c : Char} (padding : IsPadding c) {piece : List Char}
    (member : c ∈ piece) : readLabel? piece = none := by
  obtain ⟨forbidden, -, -, noDigit, noHyphen, unmarked⟩ := padding.not_in_label
  rw [readLabel?]
  split
  · rename_i marked
    obtain ⟨form, rfl⟩ := List.isPrefixOf_iff_prefix.mp marked
    have formMember : c ∈ form := by
      rcases List.mem_append.mp member with inMark | inForm
      · contradiction
      · exact inForm
    dsimp only
    split
    · apply Option.bind_eq_none_iff.mpr
      intro label decoded
      have inLabel := Punycode.mem_of_decode? decoded noDigit noHyphen formMember
      rw [isLabel_eq_false forbidden inLabel, Bool.and_false, Bool.false_and, if_neg]
      exact Bool.false_ne_true
    · rfl
  · rw [isLabel_eq_false forbidden member, Bool.false_and, if_neg]
    exact Bool.false_ne_true

/-! ## Names -/

theorem exists_mem_fields {separator c : Char} (different : c ≠ separator) {text : List Char}
    (member : c ∈ text) : ∃ piece ∈ fields separator text, c ∈ piece := by
  induction text with
  | nil => contradiction
  | cons d rest inductionHypothesis =>
      by_cases same : d = separator
      · subst same
        have later : c ∈ rest := by simpa [different] using member
        obtain ⟨piece, there, inPiece⟩ := inductionHypothesis later
        exact ⟨piece, by simp [there], inPiece⟩
      · obtain ⟨first, others, shapeRest, shape⟩ := Text.fields_cons_of_ne same rest
        rw [shape]
        rcases List.mem_cons.mp member with rfl | later
        · exact ⟨c :: first, List.mem_cons_self, List.mem_cons_self⟩
        · obtain ⟨piece, there, inPiece⟩ := inductionHypothesis later
          rw [shapeRest] at there
          rcases List.mem_cons.mp there with rfl | there
          · exact ⟨d :: piece, List.mem_cons_self, List.mem_cons_of_mem _ inPiece⟩
          · exact ⟨piece, List.mem_cons_of_mem _ there, inPiece⟩

theorem mem_of_foldName? {c : Char} (padding : IsPadding c) {name folded : List Char}
    (folds : foldName? name = some folded) (member : c ∈ name) : c ∈ folded := by
  obtain ⟨letters, folds, same⟩ := Option.bind_eq_some_iff.mp folds
  obtain ⟨images, there, image⟩ := exists_of_mapM_eq_some folds member
  have fixed := padding.not_in_label.2.1
  rw [fixed] at image
  cases image
  have flat : c ∈ letters.flatten := List.mem_flatten.mpr ⟨[c], there, List.mem_singleton_self c⟩
  obtain rfl := Option.some.inj same
  split
  · exact flat
  · exact Unicode.mem_normalForm_of_mem padding.isInert flat

/-- No domain name holds padding. -/
theorem toAscii?_eq_none {c : Char} (padding : IsPadding c) {name : List Char}
    (member : c ∈ name) : toAscii? name = none := by
  rw [Option.eq_none_iff_forall_ne_some]
  intro ascii succeeds
  obtain ⟨folded, folds, succeeds⟩ := Option.bind_eq_some_iff.mp succeeds
  obtain ⟨labels, read, -⟩ := Option.bind_eq_some_iff.mp succeeds
  have noStop := padding.not_in_label.2.2.1
  obtain ⟨piece, there, inPiece⟩ := exists_mem_fields noStop (mem_of_foldName? padding folds member)
  obtain ⟨label, -, readPiece⟩ := exists_of_mapM_eq_some read there
  rw [readLabel?_eq_none padding inPiece] at readPiece
  contradiction

end Idna

namespace Url

/-- Without brackets, nothing is a host that holds padding. -/
theorem domainHost_of_mem_padding {text : List Char} {c : Char}
    (unbracketed : text.head? ≠ some '[') (member : c ∈ text) (padding : IsPadding c) :
    domainHost text = .error .domainName := by
  have unnamed : (Unicode.Utf8.decode? (percentDecode text) >>= Idna.toAscii?) = none := by
    apply Option.bind_eq_none_iff.mpr
    intro name decoded
    exact Idna.toAscii?_eq_none padding (mem_of_decode?_percentDecode padding member decoded)
  rw [domainHost, if_neg unbracketed, unnamed]

/-- Nothing is a host that ends in padding. -/
theorem domainHost_of_padding {text : List Char} {c : Char} (last : text.getLast? = some c)
    (padding : IsPadding c) : ∃ reason, domainHost text = .error reason := by
  by_cases bracketed : text.head? = some '['
  · have unclosed : text.getLast? ≠ some ']' := by
      rw [last]
      rintro ⟨⟩
      simp [IsPadding] at padding
    exact ⟨.ipv6Address, by simp [domainHost, bracketed, bracketedHost, unclosed]⟩
  · exact ⟨_, domainHost_of_mem_padding bracketed (List.mem_of_getLast? last) padding⟩

end Url

end PubSubProvisioning
