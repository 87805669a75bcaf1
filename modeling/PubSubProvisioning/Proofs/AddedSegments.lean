import PubSubProvisioning.Proofs.PercentCode

/-!
# Segments added to a path

A text that is added to a path becomes a segment of its own and reads back from it, unless it is one
or two dots or has a break in it.  Dots are left out, and so are breaks, after which the rest can be
dots all over again.
-/

namespace PubSubProvisioning.Url

open PubSubProvisioning.Unicode (Utf8.encode Utf8.encode_inj)

/-! ## Faithful texts -/

/-- Whether a text reads back as itself once it has been added to a path. -/
def isFaithful (text : String) : Bool :=
  text ≠ "." && text ≠ ".." && text.toList.all (!isBreak ·)

/-- A text as a segment of a path. -/
def segmentOf (text : List Char) : String :=
  String.ofList (percentEncode (escapedInSegment true) text)

/-- The octets that a segment reads back as. -/
def octets (segment : String) : List UInt8 :=
  percentDecode segment.toList

@[simp]
theorem octets_segmentOf (text : List Char) : octets (segmentOf text) = Utf8.encode text := by
  rw [octets, segmentOf, String.toList_ofList]
  exact percentDecode_percentEncode (fun _ => escapedInSegment_eq_false) text

/-- The segments that follow are added behind these; a path of one empty segment has none. -/
def stem (segments : List String) : List String :=
  if segments = [""] then [] else segments

theorem stem_append_singleton (front : List String) {last : String} (present : last ≠ "") :
    stem (front ++ [last]) = front ++ [last] := by
  rw [stem, if_neg]
  intro alone
  have same := congrArg List.getLast? alone
  simp [present] at same

/-! ## Adding one segment -/

/-- What a text other than one or two dots becomes is decided by what can be seen of it. -/
theorem appendSegment_eq {segments : List String} {text : String} (noDot : text ≠ ".")
    (noDots : text ≠ "..") :
    appendSegment .special segments text =
      if visible text.toList = ['.'] then stem segments ++ [""]
      else if visible text.toList = ['.', '.'] then
        (Trail.pop { behind := (stem segments).reverse }).behind.reverse ++ [""]
      else stem segments ++ [segmentOf (visible text.toList)] := by
  have elsewhere : SchemeKind.special ≠ .file := by decide
  have trail : ({ behind := if segments = [""] then [] else segments.reverse } : Trail) =
      { behind := (stem segments).reverse } := by
    rw [stem]
    split <;> rfl
  rw [appendSegment, if_neg (by simp [noDot, noDots])]
  simp only [trail, Trail.add, Trail.segments, elsewhere, decide_false, Bool.false_and, if_false,
    Bool.false_eq_true, SchemeKind.isSpecial, segmentKind_percentEncode]
  by_cases here : visible text.toList = ['.']
  · simp [here, Trail.push]
  · by_cases parent : visible text.toList = ['.', '.']
    · simp [parent, Trail.push]
    · simp [here, parent, Trail.push, segmentOf]

theorem visible_eq_self_iff {text : List Char} :
    visible text = text ↔ text.all (!isBreak ·) = true := by
  rw [visible, List.filter_eq_self, List.all_eq_true]

/-- A faithful text becomes one segment. -/
theorem appendSegment_of_faithful {segments : List String} {text : String}
    (faithful : isFaithful text = true) :
    appendSegment .special segments text = stem segments ++ [segmentOf text.toList] := by
  simp only [isFaithful, Bool.and_eq_true, decide_eq_true_eq] at faithful
  obtain ⟨⟨noDot, noDots⟩, unbroken⟩ := faithful
  have here : text.toList ≠ ['.'] := fun same => noDot (String.toList_inj.mp same)
  have parent : text.toList ≠ ['.', '.'] := fun same => noDots (String.toList_inj.mp same)
  rw [appendSegment_eq noDot noDots, visible_eq_self_iff.mpr unbroken, if_neg here, if_neg parent]

/-- What a text that is not faithful has instead. -/
theorem broken_of_unfaithful {text : String} (unfaithful : isFaithful text = false)
    (noDot : text ≠ ".") (noDots : text ≠ "..") : visible text.toList ≠ text.toList := by
  intro same
  simp [isFaithful, noDot, noDots, visible_eq_self_iff.mp same] at unfaithful

/-- A text that is not faithful is left out, becomes another segment, or takes the last one away. -/
theorem appendSegment_of_unfaithful (front : List String) {name text : String} (named : name ≠ "")
    (noDrive : beginsWithDriveLetter name.toList = false) (unfaithful : isFaithful text = false) :
    appendSegment .special (front ++ [name]) text = front ++ [name] ∧ (text = "." ∨ text = "..") ∨
      (∃ other, appendSegment .special (front ++ [name]) text = front ++ [name, other] ∧
        octets other ≠ Utf8.encode text.toList) ∨
      appendSegment .special (front ++ [name]) text = front ++ [""] ∧ text ≠ "" := by
  by_cases dots : text = "." ∨ text = ".."
  · left
    constructor
    · rw [appendSegment, if_pos (by simpa using dots)]
    · exact dots
  · right
    obtain ⟨noDot, noDots⟩ := not_or.mp dots
    have broken := broken_of_unfaithful unfaithful noDot noDots
    have nonempty : text ≠ "" := by
      rintro rfl
      exact broken rfl
    rw [appendSegment_eq noDot noDots, stem_append_singleton front named]
    split
    · left
      have differs : octets "" ≠ Utf8.encode text.toList := by
        intro same
        exact nonempty (String.toList_inj.mp (Utf8.encode_inj.mp same).symm)
      exact ⟨"", by simp, differs⟩
    · split
      · right
        exact ⟨by simp [Trail.pop, noDrive], nonempty⟩
      · left
        have differs : octets (segmentOf (visible text.toList)) ≠ Utf8.encode text.toList := by
          rw [octets_segmentOf]
          intro same
          exact broken (Utf8.encode_inj.mp same)
        exact ⟨_, List.append_assoc .., differs⟩

/-- Every text that is not faithful becomes the same as another one. -/
theorem exists_same_of_unfaithful {text : String} (unfaithful : isFaithful text = false) :
    ∃ other, other ≠ text ∧ ∀ segments,
      appendSegment .special segments other = appendSegment .special segments text := by
  by_cases dot : text = "."
  · subst dot
    exact ⟨"..", by decide, fun segments => rfl⟩
  · by_cases dots : text = ".."
    · subst dots
      exact ⟨".", by decide, fun segments => rfl⟩
    · have letters : (text ++ "\t").toList = text.toList ++ ['\t'] := String.toList_append ..
      have seen : visible (text ++ "\t").toList = visible text.toList := by
        rw [letters, visible, List.filter_append]
        exact List.append_nil _
      have endsOtherwise (dotted : String) (noTab : dotted.toList.getLast? ≠ some '\t') :
          text ++ "\t" ≠ dotted := by
        intro same
        rw [← same, letters, List.getLast?_concat] at noTab
        contradiction
      have different : text ++ "\t" ≠ text := by
        intro same
        have lengths := congrArg String.length same
        simp [String.length_append] at lengths
      apply Exists.intro (text ++ "\t")
      constructor
      · exact different
      · intro segments
        rw [appendSegment_eq dot dots, appendSegment_eq (endsOtherwise "." (by decide))
          (endsOtherwise ".." (by decide)), seen]

end PubSubProvisioning.Url
