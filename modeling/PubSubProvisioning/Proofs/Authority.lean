import Mathlib.Data.List.TakeWhile
import PubSubProvisioning.Proofs.DomainNames
import PubSubProvisioning.Url.Parser

/-!
# Authorities

What stands before the path of a special URL is cut at its last at sign and at the first colon
behind it.  It can be read exactly if its host can and its port can, and what follows it has no
other part in that than to be there.
-/

namespace PubSubProvisioning.Url

/-! ## Readings in a row -/

section InARow

variable {α β ε : Type} {first : Except ε α} {next : α → Except ε β}

theorem bind_eq_ok_iff {result : β} :
    first >>= next = .ok result ↔ ∃ value, first = .ok value ∧ next value = .ok result := by
  cases first with
  | error reason => simp [bind, Except.bind]
  | ok value => simp [bind, Except.bind]

/-- Of two readings in a row the first one fails, or the second one does behind it. -/
theorem bind_eq_error_iff {reason : ε} :
    first >>= next = .error reason ↔
      first = .error reason ∨ ∃ value, first = .ok value ∧ next value = .error reason := by
  cases first with
  | error reason => simp [bind, Except.bind]
  | ok value => simp [bind, Except.bind]

end InARow

/-! ## Hosts and ports in their places -/

/-- A domain name is not empty. -/
theorem domainHost_ne_empty {text : List Char} {host : Host} (read : domainHost text = .ok host) :
    host ≠ .name "" := by
  rintro rfl
  rw [domainHost] at read
  split at read
  · rw [bracketedHost] at read
    split at read <;> cases read
  · split at read
    · cases read
    · cases read
    · rename_i name nonempty _
      split at read
      · split at read <;> cases read
      · have written : String.ofList name = "" := Host.name.inj (Except.ok.inj read)
        exact nonempty (by simpa using written)

/-- Without a host a special URL has no authority. -/
theorem readAuthority_of_hostless {scheme : String}
    (special : (schemeKind scheme).isSpecial = true) {text : List Char}
    (hostless : hostPart (addressPart (text.takeWhile (!endsAuthority true ·))) = []) :
    readAuthority scheme text = .error .emptyHost := by
  simp only [readAuthority, special, hostless, List.isEmpty_nil, Bool.true_and]
  split <;> rfl

/-- With a host in its place, an authority is read from its host and its port. -/
theorem readAuthority_of_hostful {scheme : String}
    (special : (schemeKind scheme).isSpecial = true) (text : List Char) :
    let front := text.takeWhile (!endsAuthority true ·)
    let address := addressPart front
    hostPart address ≠ [] →
      readAuthority scheme text = (do
        let host ← domainHost (hostPart address)
        let numbered ← portBefore? scheme (portPart address) (text.drop front.length)
        let credited := credentials (credentialsPart front)
        pure (⟨credited.1, credited.2, host, numbered.1⟩, numbered.2)) := by
  intro front address hosted
  have manned : front ≠ ['@'] := by
    intro lone
    apply hosted
    simp [address, lone, addressPart, hostPart]
  have hostful : (hostPart address).isEmpty = false := by simpa using hosted
  simp only [front, address] at manned hostful ⊢
  simp only [readAuthority, special, manned, hostful, decide_false, Bool.false_and,
    Bool.and_false, Bool.false_eq_true, if_false, if_true]
  cases named : domainHost (hostPart (addressPart (text.takeWhile (!endsAuthority true ·)))) with
  | error reason => rfl
  | ok host =>
      have nonempty := domainHost_ne_empty named
      simp [nonempty, bind, Except.bind]

/-- An authority can be read exactly if it names a host, and its host and port can be read. -/
theorem readAuthority_eq_ok_iff {scheme : String} (special : (schemeKind scheme).isSpecial = true)
    {text rest : List Char} {authority : Authority} :
    let front := text.takeWhile (!endsAuthority true ·)
    let address := addressPart front
    readAuthority scheme text = .ok (authority, rest) ↔
      hostPart address ≠ [] ∧
        credentials (credentialsPart front) = (authority.username, authority.password) ∧
        domainHost (hostPart address) = .ok authority.host ∧
        portBefore? scheme (portPart address) (text.drop front.length) =
          .ok (authority.port, rest) := by
  intro front address
  by_cases hostless : hostPart address = []
  · rw [readAuthority_of_hostless special hostless]
    simp [hostless]
  · rw [readAuthority_of_hostful special text hostless, bind_eq_ok_iff]
    constructor
    · rintro ⟨host, named, behindHost⟩
      obtain ⟨numbered, read, same⟩ := bind_eq_ok_iff.mp behindHost
      cases same
      exact ⟨hostless, rfl, named, read⟩
    · rintro ⟨-, credited, named, numbered⟩
      refine ⟨authority.host, named, bind_eq_ok_iff.mpr ⟨_, numbered, ?_⟩⟩
      rw [credited]
      rfl

/-! ## Ports -/

theorem isDigit_eq_false_of_endsAuthority {c : Char} (ends : endsAuthority true c = true) :
    c.isDigit = false := by
  simp only [endsAuthority, isSlash, endsPath, Bool.true_and, Bool.or_eq_true,
    decide_eq_true_eq] at ends
  rcases ends with (rfl | rfl) | rfl | rfl <;> rfl

theorem takeWhile_isDigit_append {part behind : List Char} (digits : ∀ c ∈ part, c.isDigit = true)
    (stops : ∀ c ∈ behind.head?, c.isDigit = false) :
    (part ++ behind).takeWhile Char.isDigit = part := by
  rw [List.takeWhile_append_of_pos digits]
  cases behind with
  | nil => simp
  | cons c rest => simp [stops c rfl]

/-- A port is a numeral that fills its part of the authority. -/
theorem port?_of_not_digits {scheme : String} {part behind : List Char}
    (within : ∀ c ∈ part, endsAuthority true c = false)
    (noDigits : ¬∀ c ∈ part, c.isDigit = true) :
    port? scheme (part ++ behind) = .error .port := by
  obtain ⟨c, later, odd⟩ : ∃ c later, part.dropWhile Char.isDigit = c :: later := by
    apply List.exists_cons_of_ne_nil
    intro none
    exact noDigits (List.dropWhile_eq_nil_iff.mp none)
  have shape : part.takeWhile Char.isDigit ++ c :: later = part := by
    rw [← odd, List.takeWhile_append_dropWhile]
  have stops : c.isDigit = false := by
    have head := List.head?_dropWhile_not Char.isDigit part
    rw [odd] at head
    simpa using head
  have inside : endsAuthority true c = false := within c (by rw [← shape]; simp)
  have digits : ∀ d ∈ part.takeWhile Char.isDigit, d.isDigit = true :=
    fun d member => List.mem_takeWhile_imp member
  generalize part.takeWhile Char.isDigit = front at shape digits
  subst shape
  rw [List.append_assoc, port?, takeWhile_isDigit_append digits (by simpa using stops)]
  simp [inside]

/-- What follows digits behind the end of an authority has no part in the port. -/
theorem port?_of_digits {scheme : String} {part behind : List Char}
    (digits : ∀ c ∈ part, c.isDigit = true)
    (ends : ∀ c ∈ behind.head?, endsAuthority true c = true) :
    port? scheme (part ++ behind) = (port? scheme part).map fun found => (found.1, behind) := by
  have stops : ∀ c ∈ behind.head?, c.isDigit = false := fun c head =>
    isDigit_eq_false_of_endsAuthority (ends c head)
  have alone : part.takeWhile Char.isDigit = part := List.takeWhile_eq_self_iff.mpr digits
  have goesOn : behind.head?.any (fun c => !endsAuthority true c) = false := by
    cases behind with
    | nil => rfl
    | cons c rest => simp [ends c rfl]
  simp only [port?, takeWhile_isDigit_append digits stops, alone, List.drop_left, List.drop_length,
    List.head?_nil, Option.any_none, goesOn, Bool.or_false]
  split
  · rfl
  · split <;> rfl

/-! ## Hosts in an address -/

variable {address padding text : List Char}

/-- The host of an address fills it, or ends before a colon. -/
theorem drop_hostLength (bracketed : Bool) (address : List Char) :
    address.drop (hostLength bracketed address) = [] ∨
      ∃ port, address.drop (hostLength bracketed address) = ':' :: port := by
  induction address generalizing bracketed with
  | nil => exact .inl rfl
  | cons c rest inductionHypothesis =>
      rw [hostLength]
      split
      · rename_i colon
        obtain ⟨rfl, -⟩ : c = ':' ∧ bracketed = false := by simpa using colon
        exact .inr ⟨rest, rfl⟩
      · exact inductionHypothesis _

theorem hostLength_of_not_mem {bracketed : Bool} (free : ':' ∉ padding) :
    hostLength bracketed padding = padding.length := by
  induction padding generalizing bracketed with
  | nil => rfl
  | cons c rest inductionHypothesis =>
      simp only [List.mem_cons, not_or] at free
      simp [hostLength, Ne.symm free.1, inductionHypothesis free.2]

/-- A host that fills an address also fills what the address is extended to without a colon. -/
theorem hostLength_append_of_nil {bracketed : Bool} (free : ':' ∉ padding)
    (fills : address.drop (hostLength bracketed address) = []) :
    hostLength bracketed (address ++ padding) = (address ++ padding).length := by
  induction address generalizing bracketed with
  | nil => exact hostLength_of_not_mem free
  | cons c rest inductionHypothesis =>
      rw [hostLength] at fills
      rw [List.cons_append, hostLength]
      split at fills
      · contradiction
      · rename_i goesOn
        rw [if_neg goesOn, inductionHypothesis fills, List.length_cons]

/-- A host that ends before a colon does so whatever follows. -/
theorem hostLength_append_of_cons {bracketed : Bool} {port : List Char}
    (ends : address.drop (hostLength bracketed address) = ':' :: port) (padding : List Char) :
    hostLength bracketed (address ++ padding) = hostLength bracketed address := by
  induction address generalizing bracketed with
  | nil => contradiction
  | cons c rest inductionHypothesis =>
      rw [hostLength] at ends
      rw [List.cons_append, hostLength, hostLength]
      split at ends
      · rename_i colon
        rw [if_pos colon, if_pos colon]
      · rename_i goesOn
        rw [if_neg goesOn, if_neg goesOn, inductionHypothesis ends]

/-- The port of an address is what its host leaves. -/
theorem portPart_eq (address : List Char) :
    portPart address = address.drop (hostLength false address) := by
  rw [portPart, hostPart, List.length_take]
  by_cases short : hostLength false address ≤ address.length
  · rw [Nat.min_eq_left short]
  · have long : address.length ≤ hostLength false address := Nat.le_of_not_le short
    rw [Nat.min_eq_right long, List.drop_length, List.drop_eq_nil_of_le long]

theorem portPart_eq_nil_or_cons (address : List Char) :
    portPart address = [] ∨ ∃ port, portPart address = ':' :: port := by
  rw [portPart_eq]
  exact drop_hostLength false address

/-- An address that is its host is extended by what extends its host. -/
theorem hostPart_append_of_nil (free : ':' ∉ padding) (fills : portPart address = []) :
    hostPart (address ++ padding) = address ++ padding := by
  rw [portPart_eq] at fills
  rw [hostPart, hostLength_append_of_nil free fills, List.take_length]

/-- An address with a port is extended by what extends its port. -/
theorem portPart_append_of_cons {port : List Char} (ends : portPart address = ':' :: port)
    (padding : List Char) : portPart (address ++ padding) = ':' :: (port ++ padding) := by
  rw [portPart_eq] at ends ⊢
  have short : hostLength false address ≤ address.length := by
    by_contra long
    rw [List.drop_eq_nil_of_le (Nat.le_of_not_le long)] at ends
    contradiction
  rw [hostLength_append_of_cons ends, List.drop_append_of_le_length short, ends, List.cons_append]

theorem addressPart_append (unsigned : '@' ∉ padding) (front : List Char) :
    addressPart (front ++ padding) = addressPart front ++ padding := by
  have all : ∀ c ∈ padding.reverse, decide (c ≠ '@') = true := by
    intro c member
    rw [List.mem_reverse] at member
    simpa using ne_of_mem_of_not_mem member unsigned
  rw [addressPart, List.reverse_append, List.takeWhile_append_of_pos all, List.reverse_append,
    List.reverse_reverse, addressPart]

theorem addressPart_subset (front : List Char) : addressPart front ⊆ front := by
  intro c member
  rw [addressPart, List.mem_reverse] at member
  exact List.mem_reverse.mp ((List.takeWhile_sublist _).subset member)

theorem mem_of_portPart {port : List Char} (shape : portPart address = ':' :: port) {c : Char}
    (member : c ∈ port) : c ∈ address := by
  rw [portPart_eq] at shape
  apply List.mem_of_mem_drop
  rw [shape]
  exact List.mem_cons_of_mem _ member

/-! ## What follows an authority -/

/-- What follows an authority has no part in its port. -/
theorem portBefore?_of_end {scheme : String} {address behind other rest : List Char}
    {number : Option Nat} (within : ∀ c ∈ address, endsAuthority true c = false)
    (ends : ∀ c ∈ behind.head?, endsAuthority true c = true)
    (otherEnds : ∀ c ∈ other.head?, endsAuthority true c = true)
    (read : portBefore? scheme (portPart address) behind = .ok (number, rest)) :
    portBefore? scheme (portPart address) other = .ok (number, other) := by
  rcases portPart_eq_nil_or_cons address with none | ⟨port, shape⟩
  · rw [none] at read ⊢
    simp only [portBefore?, Except.ok.injEq, Prod.mk.injEq] at read ⊢
    exact ⟨read.1, rfl⟩
  · have inPort : ∀ c ∈ port, endsAuthority true c = false := by
      intro c member
      exact within c (mem_of_portPart shape member)
    rw [shape] at read ⊢
    simp only [portBefore?] at read ⊢
    by_cases digits : ∀ c ∈ port, c.isDigit = true
    · rw [port?_of_digits digits ends] at read
      rw [port?_of_digits digits otherEnds]
      cases numbered : port? scheme port with
      | error reason => simp [numbered, Except.map] at read
      | ok found =>
          simp only [numbered, Except.map, Except.ok.injEq, Prod.mk.injEq] at read ⊢
          exact ⟨read.1, trivial⟩
    · rw [port?_of_not_digits inPort digits] at read
      contradiction

theorem drop_length_takeWhile (holds : Char → Bool) (text : List Char) :
    text.drop (text.takeWhile holds).length = text.dropWhile holds := by
  have split := List.takeWhile_append_dropWhile (p := holds) (l := text)
  calc
    text.drop (text.takeWhile holds).length
      = (text.takeWhile holds ++ text.dropWhile holds).drop (text.takeWhile holds).length := by
        rw [split]
    _ = text.dropWhile holds := List.drop_left

/-- What an authority leaves begins with the character that ends it. -/
theorem endsAuthority_of_mem_head? (text : List Char) :
    ∀ c ∈ (text.drop (text.takeWhile (!endsAuthority true ·)).length).head?,
      endsAuthority true c = true := by
  intro c head
  rw [drop_length_takeWhile, Option.mem_def] at head
  have stops := List.head?_dropWhile_not (!endsAuthority true ·) text
  rw [head] at stops
  simpa using stops

/-- An authority is the same whatever follows it. -/
theorem readAuthority_of_same_front {scheme : String}
    (special : (schemeKind scheme).isSpecial = true) {text other rest : List Char}
    {authority : Authority}
    (same : other.takeWhile (!endsAuthority true ·) = text.takeWhile (!endsAuthority true ·))
    (read : readAuthority scheme text = .ok (authority, rest)) :
    ∃ behind, readAuthority scheme other = .ok (authority, behind) := by
  obtain ⟨hosted, credited, named, numbered⟩ := (readAuthority_eq_ok_iff special).mp read
  apply Exists.intro
  apply (readAuthority_eq_ok_iff special).mpr
  rw [same]
  have within : ∀ c ∈ addressPart (text.takeWhile (!endsAuthority true ·)),
      endsAuthority true c = false := by
    intro c member
    simpa using List.mem_takeWhile_imp (addressPart_subset _ member)
  have ends := endsAuthority_of_mem_head? text
  have otherEnds := endsAuthority_of_mem_head? other
  rw [same] at otherEnds
  exact ⟨hosted, credited, named, portBefore?_of_end within ends otherEnds numbered⟩

/-- Padding is nothing that divides an authority or ends it. -/
theorem not_of_padding {c : Char} (padding : IsPadding c) :
    endsAuthority true c = false ∧ c ≠ ':' ∧ c ≠ '@' ∧ c.isDigit = false := by
  obtain ⟨code, member, rfl⟩ := padding.exists_code
  clear padding
  revert code
  decide

/-- An authority cannot end in padding. -/
theorem readAuthority_of_padding {scheme : String}
    (special : (schemeKind scheme).isSpecial = true) {text padding behind : List Char}
    (within : ∀ c ∈ text, endsAuthority true c = false) (present : padding ≠ [])
    (padded : ∀ c ∈ padding, IsPadding c) :
    ∃ reason, readAuthority scheme (text ++ padding ++ '/' :: behind) = .error reason := by
  have inside : ∀ c ∈ text ++ padding, endsAuthority true c = false := by
    intro c member
    rcases List.mem_append.mp member with inText | inPadding
    · exact within c inText
    · exact (not_of_padding (padded c inPadding)).1
  have whole : (text ++ padding ++ '/' :: behind).takeWhile (!endsAuthority true ·) =
      text ++ padding := by
    rw [List.takeWhile_append_of_pos (by simpa using inside)]
    simp [endsAuthority, isSlash]
  have unsigned : '@' ∉ padding := fun member => (not_of_padding (padded _ member)).2.2.1 rfl
  have free : ':' ∉ padding := fun member => (not_of_padding (padded _ member)).2.1 rfl
  obtain ⟨c, last⟩ := Option.ne_none_iff_exists'.mp (mt List.getLast?_eq_none_iff.mp present)
  have isPadding : IsPadding c := padded c (List.mem_of_getLast? last)
  cases outcome : readAuthority scheme (text ++ padding ++ '/' :: behind) with
  | error reason => exact ⟨reason, rfl⟩
  | ok found =>
      rcases found with ⟨authority, rest⟩
      obtain ⟨-, -, named, numbered⟩ := (readAuthority_eq_ok_iff special).mp outcome
      rw [whole, addressPart_append unsigned] at named numbered
      rcases portPart_eq_nil_or_cons (addressPart text) with none | ⟨port, shape⟩
      · -- The host goes on to the end, so the padding is part of it.
        rw [hostPart_append_of_nil free none] at named
        have lastOfHost : (addressPart text ++ padding).getLast? = some c := by
          rw [List.getLast?_append, last, Option.some_or]
        obtain ⟨reason, refused⟩ := domainHost_of_padding lastOfHost isPadding
        rw [refused] at named
        contradiction
      · -- The port goes on to the end, and padding is no digit.
        have inPort : ∀ d ∈ port ++ padding, endsAuthority true d = false := by
          intro d member
          rcases List.mem_append.mp member with inPort | inPadding
          · exact within d (addressPart_subset text (mem_of_portPart shape inPort))
          · exact (not_of_padding (padded d inPadding)).1
        have noDigits : ¬∀ d ∈ port ++ padding, d.isDigit = true := by
          intro digits
          have digit := digits c (List.mem_append_right _ (List.mem_of_getLast? last))
          rw [(not_of_padding isPadding).2.2.2] at digit
          contradiction
        rw [portPart_append_of_cons shape, portBefore?, port?_of_not_digits inPort noDigits]
          at numbered
        contradiction

end PubSubProvisioning.Url
