/-!
# Texts cut at a separator

A text is cut at every occurrence of one character, and pieces are put together again with that
character between them.  The two operations undo each other on pieces that are free of the
separator, and those are the pieces that cutting yields.
-/

namespace PubSubProvisioning.Text

/-- The pieces of `text` between the occurrences of `separator`.  There is always a first piece,
which may be empty. -/
def fields (separator : Char) : List Char → List (List Char)
  | [] => [[]]
  | c :: rest =>
      if c = separator then [] :: fields separator rest
      else
        match fields separator rest with
        | [] => [[c]]
        | first :: others => (c :: first) :: others

/-- The pieces one after another, with `separator` between them. -/
def joined (separator : Char) : List (List Char) → List Char
  | [] => []
  | [last] => last
  | first :: next :: others => first ++ separator :: joined separator (next :: others)

@[simp]
theorem fields_nil (separator : Char) : fields separator [] = [[]] :=
  rfl

@[simp]
theorem fields_cons_self (separator : Char) (rest : List Char) :
    fields separator (separator :: rest) = [] :: fields separator rest := by
  simp [fields]

theorem fields_ne_nil (separator : Char) (text : List Char) :
    fields separator text ≠ [] := by
  cases text with
  | nil => simp
  | cons c rest =>
      rw [fields]
      split
      · simp
      · split <;> simp

/-- A character other than the separator joins the first piece of what follows it. -/
theorem fields_cons_of_ne {separator c : Char} (different : c ≠ separator) (rest : List Char) :
    ∃ first others, fields separator rest = first :: others ∧
      fields separator (c :: rest) = (c :: first) :: others := by
  cases shape : fields separator rest with
  | nil => exact absurd shape (fields_ne_nil separator rest)
  | cons first others => exact ⟨first, others, rfl, by simp [fields, different, shape]⟩

theorem joined_cons {separator : Char} {pieces : List (List Char)} (present : pieces ≠ [])
    (first : List Char) :
    joined separator (first :: pieces) = first ++ separator :: joined separator pieces := by
  cases pieces with
  | nil => exact absurd rfl present
  | cons next others => rfl

/-- Cutting loses nothing. -/
@[simp]
theorem joined_fields (separator : Char) (text : List Char) :
    joined separator (fields separator text) = text := by
  induction text with
  | nil => rfl
  | cons c rest inductionHypothesis =>
      by_cases same : c = separator
      · subst same
        rw [fields_cons_self, joined_cons (fields_ne_nil _ rest), inductionHypothesis]
        rfl
      · obtain ⟨first, others, shape, cut⟩ := fields_cons_of_ne same rest
        rw [cut]
        rw [shape] at inductionHypothesis
        cases others with
        | nil => simpa [joined] using inductionHypothesis
        | cons next others => simpa [joined] using inductionHypothesis

/-- No piece holds the separator. -/
theorem separator_not_mem_of_mem_fields {separator : Char} {text piece : List Char}
    (member : piece ∈ fields separator text) : separator ∉ piece := by
  induction text generalizing piece with
  | nil =>
      obtain rfl : piece = [] := by simpa using member
      simp
  | cons c rest inductionHypothesis =>
      by_cases same : c = separator
      · subst same
        rw [fields_cons_self, List.mem_cons] at member
        rcases member with rfl | member
        · simp
        · exact inductionHypothesis member
      · obtain ⟨first, others, shape, cut⟩ := fields_cons_of_ne same rest
        rw [cut, List.mem_cons] at member
        rcases member with rfl | member
        · have free : separator ∉ first := inductionHypothesis (by simp [shape])
          simpa [List.mem_cons, Ne.symm same] using free
        · exact inductionHypothesis (by simp [shape, member])

/-- A piece that is free of the separator is read off whole. -/
theorem fields_append_separator {separator : Char} {piece : List Char}
    (free : separator ∉ piece) (rest : List Char) :
    fields separator (piece ++ separator :: rest) = piece :: fields separator rest := by
  induction piece with
  | nil => simp
  | cons c piece inductionHypothesis =>
      simp only [List.mem_cons, not_or] at free
      simp [fields, Ne.symm free.1, inductionHypothesis free.2]

theorem fields_of_not_mem {separator : Char} {piece : List Char} (free : separator ∉ piece) :
    fields separator piece = [piece] := by
  induction piece with
  | nil => rfl
  | cons c piece inductionHypothesis =>
      simp only [List.mem_cons, not_or] at free
      simp [fields, Ne.symm free.1, inductionHypothesis free.2]

/-- Pieces that are free of the separator are found again. -/
theorem fields_joined {separator : Char} {pieces : List (List Char)} (present : pieces ≠ [])
    (free : ∀ piece ∈ pieces, separator ∉ piece) :
    fields separator (joined separator pieces) = pieces := by
  induction pieces with
  | nil => exact absurd rfl present
  | cons first others inductionHypothesis =>
      cases others with
      | nil => exact fields_of_not_mem (free first (by simp))
      | cons next others =>
          rw [joined, fields_append_separator (free first (by simp)),
            inductionHypothesis (by simp) fun piece member => free piece (by simp [member])]

/-- What is put together holds the separator and what its pieces hold. -/
theorem mem_joined {separator c : Char} {pieces : List (List Char)}
    (member : c ∈ joined separator pieces) : c = separator ∨ ∃ piece ∈ pieces, c ∈ piece := by
  induction pieces with
  | nil => simp [joined] at member
  | cons first others inductionHypothesis =>
      cases others with
      | nil => exact .inr ⟨first, List.mem_cons_self, member⟩
      | cons next others =>
          rw [joined, List.mem_append, List.mem_cons] at member
          rcases member with here | rfl | later
          · exact .inr ⟨first, List.mem_cons_self, here⟩
          · exact .inl rfl
          · apply (inductionHypothesis later).imp_right
            rintro ⟨piece, pieceMem, inside⟩
            exact ⟨piece, List.mem_cons_of_mem first pieceMem, inside⟩

theorem mem_joined_of_mem {separator c : Char} {pieces : List (List Char)} {piece : List Char}
    (member : piece ∈ pieces) (inside : c ∈ piece) : c ∈ joined separator pieces := by
  induction pieces with
  | nil => contradiction
  | cons first others inductionHypothesis =>
      cases others with
      | nil =>
          obtain rfl : piece = first := by simpa using member
          exact inside
      | cons next others =>
          rw [joined, List.mem_append, List.mem_cons]
          rcases List.mem_cons.mp member with rfl | later
          · exact .inl inside
          · exact .inr (.inr (inductionHypothesis later))

/-- A piece holds nothing that the text does not. -/
theorem mem_of_mem_fields {separator c : Char} {text piece : List Char}
    (member : piece ∈ fields separator text) (inside : c ∈ piece) : c ∈ text := by
  rw [← joined_fields separator text]
  exact mem_joined_of_mem member inside

/-- There is one piece more than there are separators. -/
theorem length_fields (separator : Char) (text : List Char) :
    (fields separator text).length = text.count separator + 1 := by
  induction text with
  | nil => rfl
  | cons c rest inductionHypothesis =>
      by_cases same : c = separator
      · subst same
        rw [fields_cons_self, List.length_cons, inductionHypothesis, List.count_cons_self]
      · obtain ⟨first, others, shape, cut⟩ := fields_cons_of_ne same rest
        rw [shape] at inductionHypothesis
        rw [cut, List.count_cons_of_ne same]
        exact inductionHypothesis

/-- There is more than one piece exactly if the separator occurs. -/
theorem tail_fields_eq_nil_iff {separator : Char} {text : List Char} :
    (fields separator text).tail = [] ↔ separator ∉ text := by
  constructor
  · intro single
    cases shape : fields separator text with
    | nil => exact absurd shape (fields_ne_nil separator text)
    | cons first others =>
        obtain rfl : others = [] := by simpa [shape] using single
        have whole := joined_fields separator text
        rw [shape, joined] at whole
        have only : first ∈ fields separator text := by simp [shape]
        rw [← whole]
        exact separator_not_mem_of_mem_fields only
  · intro free
    rw [fields_of_not_mem free]
    rfl

/-! ## The same on strings -/

/-- The pieces of a string between the occurrences of `separator`. -/
def split (separator : Char) (text : String) : List String :=
  (fields separator text.toList).map String.ofList

/-- Strings one after another, with `separator` between them. -/
def join (separator : Char) (pieces : List String) : String :=
  String.ofList (joined separator (pieces.map String.toList))

@[simp]
theorem join_split (separator : Char) (text : String) :
    join separator (split separator text) = text := by
  simp [join, split, Function.comp_def]

@[simp]
theorem join_singleton (separator : Char) (piece : String) : join separator [piece] = piece := by
  simp [join, joined]

theorem join_cons {separator : Char} {pieces : List String} (present : pieces ≠ [])
    (first : String) :
    join separator (first :: pieces) =
      first ++ String.singleton separator ++ join separator pieces := by
  rw [join, List.map_cons, joined_cons (by simpa using present)]
  apply String.toList_injective
  simp [join]

theorem split_join {separator : Char} {pieces : List String} (present : pieces ≠ [])
    (free : ∀ piece ∈ pieces, separator ∉ piece.toList) :
    split separator (join separator pieces) = pieces := by
  rw [split, join, String.toList_ofList, fields_joined (by simpa using present)]
  · simp [Function.comp_def]
  · simpa using free

theorem split_ne_nil (separator : Char) (text : String) : split separator text ≠ [] := by
  simpa [split] using fields_ne_nil separator text.toList

theorem split_of_not_mem {separator : Char} {piece : String} (free : separator ∉ piece.toList) :
    split separator piece = [piece] := by
  simp [split, fields_of_not_mem free]

/-- A piece that is free of the separator is read off whole. -/
theorem split_append {separator : Char} {piece : String} (free : separator ∉ piece.toList)
    (rest : String) :
    split separator (piece ++ String.singleton separator ++ rest) =
      piece :: split separator rest := by
  simp [split, String.toList_append, fields_append_separator free]

theorem length_split (separator : Char) (text : String) :
    (split separator text).length = text.toList.count separator + 1 := by
  rw [split, List.length_map, length_fields]

theorem not_mem_of_mem_split {separator : Char} {text piece : String}
    (member : piece ∈ split separator text) : separator ∉ piece.toList := by
  obtain ⟨letters, lettersMem, rfl⟩ := List.mem_map.mp member
  simpa using separator_not_mem_of_mem_fields lettersMem

theorem mem_of_mem_split {separator c : Char} {text piece : String}
    (member : piece ∈ split separator text) (inside : c ∈ piece.toList) : c ∈ text.toList := by
  obtain ⟨letters, lettersMem, rfl⟩ := List.mem_map.mp member
  exact mem_of_mem_fields lettersMem (by simpa using inside)

theorem mem_join {separator c : Char} {pieces : List String}
    (member : c ∈ (join separator pieces).toList) :
    c = separator ∨ ∃ piece ∈ pieces, c ∈ piece.toList := by
  rw [join, String.toList_ofList] at member
  apply (mem_joined member).imp_right
  rintro ⟨letters, lettersMem, inside⟩
  obtain ⟨piece, pieceMem, rfl⟩ := List.mem_map.mp lettersMem
  exact ⟨piece, pieceMem, inside⟩

theorem tail_split_eq_nil_iff {separator : Char} {text : String} :
    (split separator text).tail = [] ↔ separator ∉ text.toList := by
  rw [split, ← List.map_tail, List.map_eq_nil_iff, tail_fields_eq_nil_iff]

end PubSubProvisioning.Text
