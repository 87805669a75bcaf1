import PubSubProvisioning.Proofs.HttpUrl
import PubSubProvisioning.Proofs.PlainNames
import PubSubProvisioning.Settings

/-!
# Endpoints of local services

The host of a local service may be given as a URL over HTTP.  Where its scheme is noticed, the
endpoint is that URL but for the slashes at its end, and leads to the same service.

The scheme is noticed only at the very front, in lower case, and with two slashes behind it.  Any
other URL gets another scheme in front, behind which its own one is taken for a host, or for the
name of who asks.
-/

namespace PubSubProvisioning

open PubSubProvisioning.Text (dropTrailing trailing trimBy)

namespace Url

/-- Two URLs lead to the same service if they have the scheme, the host and the port in common. -/
structure Agrees (url other : Url) : Prop where
  scheme : url.scheme = other.scheme
  host : url.authority.map (·.host) = other.authority.map (·.host)
  port : url.authority.map (·.port) = other.authority.map (·.port)

/-! ## Authorities at the front of a text -/

/-- A text begins with an authority, whatever follows. -/
def BeginsWith (scheme : String) (text : List Char) (authority : Authority) : Prop :=
  ∃ rest, readAuthority scheme text = .ok (authority, rest)

section Begins

variable {scheme : String} {text other : List Char} {authority : Authority}

theorem BeginsWith.of_same_front (special : (schemeKind scheme).isSpecial = true)
    (same : other.takeWhile (!endsAuthority true ·) = text.takeWhile (!endsAuthority true ·))
    (begins : BeginsWith scheme text authority) : BeginsWith scheme other authority := by
  obtain ⟨rest, read⟩ := begins
  exact readAuthority_of_same_front special same read

/-- What a text begins with depends on the part before the first slash or mark. -/
theorem beginsWith_iff (special : (schemeKind scheme).isSpecial = true) :
    let front := text.takeWhile (!endsAuthority true ·)
    let address := addressPart front
    BeginsWith scheme text authority ↔
      hostPart address ≠ [] ∧
        credentials (credentialsPart front) = (authority.username, authority.password) ∧
        domainHost (hostPart address) = .ok authority.host ∧
        portBefore? scheme (portPart address) [] = .ok (authority.port, []) := by
  intro front address
  have within : ∀ c ∈ address, endsAuthority true c = false := by
    intro c member
    simpa using List.mem_takeWhile_imp (addressPart_subset _ member)
  have ends := endsAuthority_of_mem_head? text
  have endsNone : ∀ c ∈ ([] : List Char).head?, endsAuthority true c = true := by simp
  constructor
  · rintro ⟨rest, read⟩
    obtain ⟨hosted, credited, named, numbered⟩ := (readAuthority_eq_ok_iff special).mp read
    exact ⟨hosted, credited, named, portBefore?_of_end within ends endsNone numbered⟩
  · rintro ⟨hosted, credited, named, numbered⟩
    have numberedHere := portBefore?_of_end within endsNone ends numbered
    exact ⟨_, (readAuthority_eq_ok_iff special).mpr ⟨hosted, credited, named, numberedHere⟩⟩

/-- A text does not begin with an authority that would end in padding. -/
theorem not_beginsWith_of_padding (special : (schemeKind scheme).isSpecial = true) {c : Char}
    (last : (text.takeWhile (!endsAuthority true ·)).getLast? = some c) (padding : IsPadding c) :
    ¬BeginsWith scheme text authority := by
  intro begins
  obtain ⟨front, shape⟩ := List.getLast?_eq_some_iff.mp last
  have within : ∀ d ∈ front, endsAuthority true d = false := by
    intro d member
    have inFront : d ∈ text.takeWhile (!endsAuthority true ·) := by simp [shape, member]
    simpa using List.mem_takeWhile_imp inFront
  have padded : ∀ d ∈ [c], IsPadding d := by simpa using padding
  have whole : (front ++ [c] ++ '/' :: []).takeWhile (!endsAuthority true ·) =
      text.takeWhile (!endsAuthority true ·) := by
    have inside : ∀ d ∈ front ++ [c], (!endsAuthority true d) = true := by
      rw [← shape]
      exact fun d => List.mem_takeWhile_imp
    rw [List.takeWhile_append_of_pos inside, shape]
    exact List.append_nil _
  obtain ⟨rest, read⟩ := begins.of_same_front special whole
  have refused : ∃ reason, readAuthority scheme (front ++ [c] ++ '/' :: []) = .error reason :=
    readAuthority_of_padding special within (List.cons_ne_nil c []) padded
  obtain ⟨reason, refused⟩ := refused
  rw [refused] at read
  contradiction

/-- Slashes alone, with or without padding in front of them, are no authority. -/
theorem not_beginsWith_of_slashes (special : (schemeKind scheme).isSpecial = true)
    (absent : authorityText (unpadded text) = []) {path : List Char} (all : ∀ c ∈ path, c = '/') :
    ¬BeginsWith scheme (authorityText (text ++ '/' :: path)) authority := by
  have slash : visible ('/' :: path) = '/' :: visible path := rfl
  have there : (visible (unpadded text)).dropWhile (isSlash true) = [] := absent
  have shape : authorityText (text ++ '/' :: path) =
      (endPadding text ++ '/' :: visible path).dropWhile (isSlash true) := by
    have parts : text = unpadded text ++ trailing (·.toNat ≤ 0x20) text :=
      (Text.dropTrailing_append_trailing _ text).symm
    conv =>
      lhs
      rw [parts]
    rw [authorityText, List.append_assoc, visible_append, visible_append, slash,
      List.dropWhile_append, if_pos (List.isEmpty_iff.mpr there)]
    rfl
  rw [shape]
  cases padded : endPadding text with
  | nil =>
      have nothing : ('/' :: visible path).dropWhile (isSlash true) = [] := by
        rw [List.dropWhile_eq_nil_iff, ← slash]
        intro c member
        have inPath : c ∈ '/' :: path := (List.mem_filter.mp member).1
        obtain rfl : c = '/' := (List.mem_cons.mp inPath).elim id (all c)
        rfl
      rintro ⟨rest, read⟩
      exact authorityText_ne_nil special read nothing
  | cons c more =>
      have padding : ∀ d ∈ c :: more, IsPadding d := by
        rw [← padded]
        exact fun d => isPadding_of_mem_endPadding
      have inside : ∀ d ∈ c :: more, (!endsAuthority true d) = true := by
        intro d member
        rw [(not_of_padding (padding d member)).1]
        rfl
      have noSlash : isSlash true c = false := by
        have stays := inside c List.mem_cons_self
        simp only [endsAuthority, Bool.not_or, Bool.and_eq_true, Bool.not_eq_true'] at stays
        exact stays.1
      have whole : (c :: more ++ '/' :: visible path).takeWhile (!endsAuthority true ·) =
          c :: more := by
        rw [List.takeWhile_append_of_pos inside]
        exact List.append_nil _
      obtain ⟨d, last⟩ : ∃ d, (c :: more).getLast? = some d :=
        Option.ne_none_iff_exists'.mp (by simp)
      rw [List.cons_append, List.dropWhile_cons_of_neg (by simp [noSlash]), ← List.cons_append]
      have lastPadding : IsPadding d := padding d (List.mem_of_getLast? last)
      exact not_beginsWith_of_padding special (by rwa [whole]) lastPadding

/-- Slashes at the end of a text have no part in the authority that it begins with. -/
theorem BeginsWith.of_append_slashes (special : (schemeKind scheme).isSpecial = true)
    {slashes : List Char} (all : ∀ c ∈ slashes, c = '/')
    (begins : BeginsWith scheme (authorityText (unpadded (text ++ slashes))) authority) :
    BeginsWith scheme (authorityText (unpadded text)) authority := by
  cases slashes with
  | nil => rwa [List.append_nil] at begins
  | cons c rest =>
      obtain rfl : c = '/' := all c List.mem_cons_self
      have kept : unpadded (text ++ '/' :: rest) = text ++ '/' :: unpadded rest :=
        Text.dropTrailing_append_cons rfl text rest
      rw [kept] at begins
      by_cases present : authorityText (unpadded text) = []
      · have slashes : ∀ c ∈ unpadded rest, c = '/' := fun c member =>
          all c (List.mem_cons_of_mem _ (Text.dropTrailing_subset _ rest member))
        exact absurd begins (not_beginsWith_of_slashes special present slashes)
      · cases padded : endsInPadding text with
        | true =>
            obtain ⟨reason, refused⟩ :=
              readAuthority_of_endsInPadding special present padded (unpadded rest)
            obtain ⟨behind, read⟩ := begins
            rw [refused] at read
            contradiction
        | false =>
            exact begins.of_same_front special
              (takeWhile_authorityText_append_path present padded _).symm

end Begins

/-! ## Addresses -/

section Addresses

variable {front back port : List Char}

/-- What stands before an at sign has no part in an address. -/
theorem addressPart_append_of_mem (signed : '@' ∈ back) (front : List Char) :
    addressPart (front ++ back) = addressPart back := by
  have stops : back.reverse.all (fun c => decide (c ≠ '@')) = false := by
    rw [List.all_eq_false]
    exact ⟨'@', List.mem_reverse.mpr signed, by simp⟩
  rw [addressPart, List.reverse_append, takeWhile_append_of_not_all stops, addressPart]

theorem addressPart_of_not_mem (unsigned : '@' ∉ front) : addressPart front = front :=
  addressPart_append unsigned []

/-- A host without brackets ends at the first colon. -/
theorem hostLength_append_colon (free : ∀ c ∈ front, c ≠ ':' ∧ c ≠ '[') (port : List Char) :
    hostLength false (front ++ ':' :: port) = front.length := by
  induction front with
  | nil => rfl
  | cons c rest inductionHypothesis =>
      obtain ⟨noColon, noBracket⟩ := free c List.mem_cons_self
      have later := inductionHypothesis fun d member => free d (List.mem_cons_of_mem _ member)
      simp [hostLength, noColon, noBracket, later]

theorem parts_append_colon (free : ∀ c ∈ front, c ≠ ':' ∧ c ≠ '[') (port : List Char) :
    hostPart (front ++ ':' :: port) = front ∧ portPart (front ++ ':' :: port) = ':' :: port := by
  rw [portPart_eq, hostPart, hostLength_append_colon free]
  exact ⟨List.take_left, List.drop_left⟩

theorem hostPart_of_not_mem (free : ':' ∉ front) : hostPart front = front := by
  rw [hostPart, hostLength_of_not_mem free, List.take_length]

/-- A port that can be read is a numeral. -/
theorem isDigit_of_portBefore? {scheme : String} {number : Option Nat}
    (within : ∀ c ∈ port, endsAuthority true c = false)
    (read : portBefore? scheme (':' :: port) [] = .ok (number, [])) :
    ∀ c ∈ port, c.isDigit = true := by
  by_contra noDigits
  rw [portBefore?, port?_of_not_digits within noDigits] at read
  contradiction

end Addresses

/-! ## Schemes as words -/

/-- Letters and digits neither divide an authority nor end it. -/
theorem not_of_isAlphanum {c : Char} (plain : c.isAlphanum = true) :
    endsAuthority true c = false ∧ c ≠ ':' ∧ c ≠ '@' ∧ ¬IsPadding c := by
  obtain ⟨code, member, rfl⟩ := exists_code_of_ascii (ascii_of_isAlphanum plain)
  unfold IsPadding
  revert code
  decide +kernel

/-- A scheme of HTTP in front of a colon is a word, and the name of a host. -/
theorem exists_word_of_splitScheme? {scheme : String} {text rest : List Char} (http : IsHttp scheme)
    (found : splitScheme? text = some (scheme, rest)) :
    ∃ word, text = word ++ ':' :: rest ∧ word ≠ [] ∧ (∀ c ∈ word, c.isAlphanum = true) ∧
      domainHost word = .ok (.name scheme) := by
  obtain ⟨word, shape, letters, begins, lower⟩ := splitScheme?_eq_some_iff.mp found
  have present : word ≠ [] := by
    rintro rfl
    simp at begins
  have folded : word.map Char.toLower = scheme.toList := by
    rw [← lower, String.toList_ofList]
  have marks : ∀ c ∈ scheme.toList, c ≠ '+' ∧ c ≠ '-' ∧ c ≠ '.' := by
    rcases http with rfl | rfl
    · simp
    · simp
  have plain : ∀ c ∈ word, c.isAlphanum = true := by
    intro c member
    have inScheme : c.toLower ∈ scheme.toList := by
      rw [← folded]
      exact List.mem_map_of_mem member
    obtain ⟨noPlus, noHyphen, noStop⟩ := marks _ inScheme
    have letter := letters c member
    simp only [isSchemeLetter, Bool.or_eq_true, decide_eq_true_eq] at letter
    rcases letter with ((plain | rfl) | rfl) | rfl
    · exact plain
    · exact absurd rfl noPlus
    · exact absurd rfl noHyphen
    · exact absurd rfl noStop
  have named : endsInNumber scheme.toList = false := by
    rcases http with rfl | rfl <;> decide
  refine ⟨word, shape, present, plain, ?_⟩
  rw [domainHost_of_isAlphanum plain present, folded, if_neg (by simp [named]),
    String.ofList_toList]

/-! ## URLs behind another scheme -/

/-- The padding in front of a text, as far as it belongs to a URL. -/
def frontPadding (text : List Char) : List Char :=
  visible (text.takeWhile (·.toNat ≤ 0x20))

/-- What follows the first colon of a URL, up to where an authority would end: nothing if that is a
slash. -/
def behindColon (text : List Char) : List Char :=
  ((seen text).dropWhile (· ≠ ':')).tail.takeWhile (!endsAuthority true ·)

theorem isPadding_of_mem_frontPadding {text : List Char} {c : Char}
    (member : c ∈ frontPadding text) : IsPadding c := by
  have low := List.mem_takeWhile_imp (List.mem_filter.mp member).1
  simpa [IsPadding] using low

/-- Without the padding at its end, a text is what can be seen of it behind the padding in front. -/
theorem visible_unpadded {text : List Char} (present : seen text ≠ []) :
    visible (unpadded text) = frontPadding text ++ seen text := by
  have left : dropTrailing (·.toNat ≤ 0x20) (text.dropWhile (·.toNat ≤ 0x20)) ≠ [] := by
    intro none
    rw [seen, trimBy, none] at present
    exact present rfl
  have parts : text = text.takeWhile (·.toNat ≤ 0x20) ++ text.dropWhile (·.toNat ≤ 0x20) :=
    List.takeWhile_append_dropWhile.symm
  conv =>
    lhs
    rw [parts]
  rw [unpadded, Text.dropTrailing_append_of_ne_nil left, visible_append]
  rfl

section Behind

variable {scheme : String} {text word rest : List Char}

theorem behindColon_eq (shape : seen text = word ++ ':' :: rest)
    (plain : ∀ c ∈ word, c.isAlphanum = true) :
    behindColon text = rest.takeWhile (!endsAuthority true ·) := by
  have before : ∀ c ∈ word, decide (c ≠ ':') = true := fun c member => by
    simpa using (not_of_isAlphanum (plain c member)).2.1
  rw [behindColon, shape, List.dropWhile_append_of_pos before,
    List.dropWhile_cons_of_neg (by simp), List.tail_cons]

/-- Behind another scheme, a URL begins with its own scheme and a colon. -/
theorem takeWhile_authorityText_unpadded (shape : seen text = word ++ ':' :: rest)
    (present : word ≠ []) (plain : ∀ c ∈ word, c.isAlphanum = true) :
    (authorityText (unpadded text)).takeWhile (!endsAuthority true ·) =
      frontPadding text ++ word ++ ':' :: behindColon text := by
  have colon : endsAuthority true ':' = false := rfl
  have inside : ∀ c ∈ frontPadding text ++ word, endsAuthority true c = false := by
    intro c member
    rcases List.mem_append.mp member with padding | letter
    · exact (not_of_padding (isPadding_of_mem_frontPadding padding)).1
    · exact (not_of_isAlphanum (plain c letter)).1
  have whole : authorityText (unpadded text) = frontPadding text ++ word ++ ':' :: rest := by
    rw [authorityText, visible_unpadded (by simp [shape]), shape, ← List.append_assoc]
    cases front : frontPadding text ++ word with
    | nil => exact absurd (List.append_eq_nil_iff.mp front).2 present
    | cons c more =>
        have stays := inside c (by simp [front])
        rw [endsAuthority, Bool.or_eq_false_iff] at stays
        rw [List.cons_append, List.dropWhile_cons_of_neg (by simp [stays.1])]
  rw [whole, List.takeWhile_append_of_pos (by simpa using inside),
    List.takeWhile_cons_of_pos (by simp [colon]), behindColon_eq shape plain]

theorem colon_mem_of_seen (shape : seen text = word ++ ':' :: rest) : ':' ∈ text := by
  have inSeen : ':' ∈ seen text := by simp [shape]
  have inTrimmed := (List.mem_filter.mp inSeen).1
  exact (List.dropWhile_sublist _).subset (Text.dropTrailing_subset _ _ inTrimmed)

/-- A text that does not begin with a slash has none to lose. -/
theorem dropWhile_isSlash_of_front (front : rest.takeWhile (!endsAuthority true ·) ≠ []) :
    rest.dropWhile (isSlash true) = rest := by
  cases rest with
  | nil => rfl
  | cons c more =>
      have stays : endsAuthority true c = false := by
        by_contra ends
        exact front (List.takeWhile_cons_of_neg (by simpa using ends))
      rw [endsAuthority, Bool.or_eq_false_iff] at stays
      exact List.dropWhile_cons_of_neg (by simp [stays.1])

/-- A colon in front of slashes is left when they and the padding before them are cut off. -/
theorem authorityText_ne_nil_of_colon {slashes : List Char} (all : ∀ c ∈ slashes, c = '/')
    (colon : ':' ∈ text ++ slashes) : authorityText (unpadded text) ≠ [] := by
  have inText : ':' ∈ text :=
    (List.mem_append.mp colon).elim id fun member => absurd (all ':' member) (by decide)
  rw [← Text.dropTrailing_append_trailing (·.toNat ≤ 0x20) text] at inText
  have left : ':' ∈ unpadded text := by
    apply (List.mem_append.mp inText).elim id
    intro member
    have padding : ':' ∈ endPadding text := List.mem_filter.mpr ⟨member, by decide⟩
    exact absurd rfl (not_of_padding (isPadding_of_mem_endPadding padding)).2.1
  intro none
  have seen : ':' ∈ visible (unpadded text) := List.mem_filter.mpr ⟨left, by decide⟩
  have slash := List.dropWhile_eq_nil_iff.mp none ':' seen
  contradiction

/-- Padding right behind an authority becomes the end of it in front of a path. -/
theorem exists_padding_of_endsInPadding (left : authorityText (unpadded text) ≠ [])
    (ends : endsInPadding text = true) (path : List Char) :
    ∃ c, IsPadding c ∧
      ((authorityText (text ++ '/' :: path)).takeWhile (!endsAuthority true ·)).getLast? =
        some c := by
  have slash : visible ('/' :: path) = '/' :: visible path := rfl
  have shape := authorityText_eq_append_endPadding left
  rw [endsInPadding, Bool.and_eq_true, List.all_eq_true] at ends
  obtain ⟨padded, within⟩ := ends
  obtain ⟨c, last⟩ : ∃ c, (endPadding text).getLast? = some c :=
    Option.ne_none_iff_exists'.mp (by simpa using padded)
  refine ⟨c, isPadding_of_mem_endPadding (List.mem_of_getLast? last), ?_⟩
  rw [authorityText_append left, slash, ← List.append_assoc, ← shape,
    List.takeWhile_append_of_pos within, List.takeWhile_cons_of_neg (by decide), List.append_nil,
    shape, List.getLast?_append, last, Option.some_or]

/-- The text behind a colon does not begin with an authority if padding is the last before a slash.
-/
theorem not_beginsWith_of_padding_behind {authority : Authority} {front : List Char} {c : Char}
    (special : (schemeKind scheme).isSpecial = true) (padding : IsPadding c)
    (last : (front ++ ':' :: rest.takeWhile (!endsAuthority true ·)).getLast? = some c) :
    ¬BeginsWith scheme (rest.dropWhile (isSlash true)) authority := by
  cases shape : rest.takeWhile (!endsAuthority true ·) with
  | nil =>
      rw [shape, List.getLast?_concat] at last
      cases last
      exact absurd rfl (not_of_padding padding).2.1
  | cons d more =>
      have behind : (rest.takeWhile (!endsAuthority true ·)).getLast? = some c := by
        rw [shape] at last ⊢
        simpa using last
      rw [dropWhile_isSlash_of_front (by simp [shape])]
      exact not_beginsWith_of_padding special behind padding

/-- Where the text behind a scheme begins with an authority, slashes at the end have no part in what
the whole begins with behind another scheme. -/
theorem takeWhile_authorityText_without_slashes {authority : Authority}
    (special : (schemeKind scheme).isSpecial = true) (shape : seen text = word ++ ':' :: rest)
    (present : word ≠ []) (plain : ∀ c ∈ word, c.isAlphanum = true)
    (begins : BeginsWith scheme (rest.dropWhile (isSlash true)) authority) :
    (authorityText (unpadded (dropTrailing (· = '/') text))).takeWhile (!endsAuthority true ·) =
      frontPadding text ++ word ++ ':' :: behindColon text := by
  have whole := takeWhile_authorityText_unpadded shape present plain
  have parts := Text.dropTrailing_append_trailing (· = '/') text
  have slashes : ∀ c ∈ trailing (· = '/') text, c = '/' := fun _ => Text.eq_of_mem_trailing
  generalize dropTrailing (· = '/') text = bare at parts ⊢
  generalize trailing (· = '/') text = cut at parts slashes
  have left := authorityText_ne_nil_of_colon slashes (by rw [parts]; exact colon_mem_of_seen shape)
  cases cut with
  | nil =>
      rw [List.append_nil] at parts
      rw [parts, whole]
  | cons c more =>
      obtain rfl : c = '/' := slashes c List.mem_cons_self
      have kept : unpadded text = bare ++ '/' :: unpadded more := by
        rw [← parts]
        exact Text.dropTrailing_append_cons rfl bare more
      rw [kept] at whole
      cases padded : endsInPadding bare with
      | false => rw [← takeWhile_authorityText_append_path left padded, whole]
      | true =>
          obtain ⟨d, padding, last⟩ :=
            exists_padding_of_endsInPadding left padded (unpadded more)
          rw [whole, behindColon_eq shape plain] at last
          exact absurd begins (not_beginsWith_of_padding_behind special padding last)

/-- With an at sign behind its own scheme, a URL keeps its address behind the same scheme. -/
theorem exists_beginsWith_of_signed {front : List Char} {own : Authority}
    (special : (schemeKind scheme).isSpecial = true)
    (signed : '@' ∈ rest.takeWhile (!endsAuthority true ·))
    (shape : text.takeWhile (!endsAuthority true ·) =
      front ++ ':' :: rest.takeWhile (!endsAuthority true ·))
    (begins : BeginsWith scheme (rest.dropWhile (isSlash true)) own) :
    ∃ authority, BeginsWith scheme text authority ∧ authority.host = own.host ∧
      authority.port = own.port := by
  rw [dropWhile_isSlash_of_front (List.ne_nil_of_mem signed)] at begins
  obtain ⟨hosted, -, named, numbered⟩ := (beginsWith_iff special).mp begins
  have address : addressPart (text.takeWhile (!endsAuthority true ·)) =
      addressPart (rest.takeWhile (!endsAuthority true ·)) := by
    rw [shape, List.append_cons, addressPart_append_of_mem signed]
  rw [← address] at hosted named numbered
  exact ⟨⟨_, _, own.host, own.port⟩,
    (beginsWith_iff special).mpr ⟨hosted, rfl, named, numbered⟩, rfl, rfl⟩

/-- Without an at sign behind it, a scheme of HTTP is read as a host and must be at the very front,
and what follows it as a port. -/
theorem beginsWith_iff_of_unsigned {front port : List Char} {authority : Authority}
    (named : domainHost word = .ok (.name scheme)) (present : word ≠ [])
    (plain : ∀ c ∈ word, c.isAlphanum = true) (padded : ∀ c ∈ front, IsPadding c)
    (unsigned : '@' ∉ port)
    (shape : text.takeWhile (!endsAuthority true ·) = front ++ word ++ ':' :: port) :
    BeginsWith "http" text authority ↔
      front = [] ∧ authority.username = "" ∧ authority.password = none ∧
        authority.host = .name scheme ∧
        portBefore? "http" (':' :: port) [] = .ok (authority.port, []) := by
  have special : (schemeKind "http").isSpecial = true := rfl
  have divides : ∀ c ∈ front ++ word, (c ≠ ':' ∧ c ≠ '[') ∧ c ≠ '@' := by
    intro c member
    rcases List.mem_append.mp member with padding | letter
    · have low := padded c padding
      have noBracket : c ≠ '[' := by
        rintro rfl
        simp [IsPadding] at low
      exact ⟨⟨(not_of_padding low).2.1, noBracket⟩, (not_of_padding low).2.2.1⟩
    · have divides := not_of_isAlphanum (plain c letter)
      exact ⟨⟨divides.2.1, (plain_of_isAlphanum (plain c letter)).2.1⟩, divides.2.2.1⟩
  have noSign : '@' ∉ front ++ word ++ ':' :: port := by
    rw [List.mem_append, List.mem_cons, not_or, not_or]
    exact ⟨fun member => (divides '@' member).2 rfl, by decide, unsigned⟩
  obtain ⟨host, number⟩ := parts_append_colon (fun c member => (divides c member).1) port
  have nobody : credentials (credentialsPart (front ++ word ++ ':' :: port)) = ("", none) := by
    rw [credentialsPart, addressPart_of_not_mem noSign, Nat.sub_self]
    rfl
  have read : BeginsWith "http" text authority ↔ _ := beginsWith_iff special
  rw [shape, addressPart_of_not_mem noSign, host, number, nobody] at read
  rw [read]
  constructor
  · rintro ⟨-, credited, hosted, numbered⟩
    obtain ⟨username, password⟩ := Prod.mk.inj credited
    have clean : front = [] := by
      by_contra padding
      obtain ⟨c, more, begin⟩ := List.exists_cons_of_ne_nil padding
      have member : c ∈ front ++ word := by simp [begin]
      have unbracketed : (front ++ word).head? ≠ some '[' := by
        simpa [begin] using (divides c member).1.2
      rw [domainHost_of_mem_padding unbracketed member (padded c (by simp [begin]))] at hosted
      contradiction
    rw [clean, List.nil_append, named] at hosted
    exact ⟨clean, username.symm, password.symm, (Except.ok.inj hosted).symm, numbered⟩
  · rintro ⟨rfl, username, password, hosted, numbered⟩
    rw [username, password, hosted, List.nil_append]
    exact ⟨present, rfl, named, numbered⟩

/-- Behind the scheme `http` and its own one, a URL begins with the host and port that it has only
if its scheme is `http` too, and then if the scheme is taken for a name that asks, or for the host
where that is the host of the URL. -/
theorem exists_same_address_iff {front : List Char} {own : Authority} (http : IsHttp scheme)
    (named : domainHost word = .ok (.name scheme)) (present : word ≠ [])
    (plain : ∀ c ∈ word, c.isAlphanum = true) (padded : ∀ c ∈ front, IsPadding c)
    (shape : text.takeWhile (!endsAuthority true ·) =
      front ++ word ++ ':' :: rest.takeWhile (!endsAuthority true ·))
    (begins : BeginsWith scheme (rest.dropWhile (isSlash true)) own) :
    (∃ authority, BeginsWith "http" text authority ∧ "http" = scheme ∧ authority.host = own.host ∧
        authority.port = own.port) ↔
      scheme = "http" ∧
        ('@' ∈ rest.takeWhile (!endsAuthority true ·) ∨
          rest.takeWhile (!endsAuthority true ·) = [] ∧ front = [] ∧ own.host = .name "http" ∧
            own.port = none) := by
  have special := isSpecial_of_isHttp http
  have within : ∀ c ∈ rest.takeWhile (!endsAuthority true ·), endsAuthority true c = false := by
    intro c member
    simpa using List.mem_takeWhile_imp member
  by_cases signed : '@' ∈ rest.takeWhile (!endsAuthority true ·)
  · constructor
    · rintro ⟨authority, -, rfl, -, -⟩
      exact ⟨rfl, .inl signed⟩
    · rintro ⟨rfl, -⟩
      obtain ⟨authority, found, host, port⟩ :=
        exists_beginsWith_of_signed special signed shape begins
      exact ⟨authority, found, rfl, host, port⟩
  · have read (authority : Authority) : BeginsWith "http" text authority ↔ _ :=
      beginsWith_iff_of_unsigned named present plain padded signed shape
    constructor
    · rintro ⟨authority, found, rfl, host, port⟩
      obtain ⟨front, -, -, name, numbered⟩ := (read authority).mp found
      have digits := isDigit_of_portBefore? within numbered
      have nothing : rest.takeWhile (!endsAuthority true ·) = [] := by
        by_contra number
        rw [dropWhile_isSlash_of_front number] at begins
        obtain ⟨-, -, ownHost, -⟩ := (beginsWith_iff special).mp begins
        have colon : ':' ∉ rest.takeWhile (!endsAuthority true ·) := fun member =>
          absurd (digits ':' member) (by decide)
        rw [addressPart_of_not_mem signed, hostPart_of_not_mem colon, ← host, name] at ownHost
        exact domainHost_ne_name_of_isDigit digits number _ ownHost
      rw [nothing] at numbered
      have noPort : none = authority.port := (Prod.mk.inj (Except.ok.inj numbered)).1
      exact ⟨rfl, .inr ⟨nothing, front, host ▸ name, by rw [← port, ← noPort]⟩⟩
    · rintro ⟨rfl, signedOrNot⟩
      obtain ⟨nothing, front, host, port⟩ := signedOrNot.resolve_left signed
      have numbered : portBefore? "http" (':' :: rest.takeWhile (!endsAuthority true ·)) [] =
          .ok (none, []) := by
        rw [nothing]
        rfl
      have found := (read ⟨"", none, .name "http", none⟩).mpr ⟨front, rfl, rfl, rfl, numbered⟩
      exact ⟨_, found, rfl, host.symm, port.symm⟩

end Behind

/-! ## URLs that agree -/

section Agreement

variable {own : Url} {authority : Authority}

/-- What a URL over HTTP is made of: a word, a colon, and an authority behind slashes. -/
theorem exists_word_of_parse {text : String} (read : parse text = .ok own)
    (http : IsHttp own.scheme) :
    ∃ word rest authority, seen text.toList = word ++ ':' :: rest ∧ word ≠ [] ∧
      (∀ c ∈ word, c.isAlphanum = true) ∧ domainHost word = .ok (.name own.scheme) ∧
      BeginsWith own.scheme (rest.dropWhile (isSlash true)) authority ∧
      own.authority = some authority := by
  obtain ⟨rest, authority, tail, found, front, same⟩ := exists_authority_of_parse read http
  obtain ⟨word, shape, present, plain, named⟩ := exists_word_of_splitScheme? http found
  exact ⟨word, rest, authority, shape, present, plain, named, ⟨tail, front⟩, by rw [same]; rfl⟩

/-- Behind a scheme and two slashes, a text agrees with a URL exactly if its scheme and its address
are those of the URL. -/
theorem exists_agrees_iff {scheme : String} (http : IsHttp scheme) (text : List Char)
    (isOwn : own.authority = some authority) :
    (∃ url, parse (scheme ++ "://" ++ String.ofList text) = .ok url ∧ url.Agrees own) ↔
      ∃ other, BeginsWith scheme (authorityText (unpadded text)) other ∧ scheme = own.scheme ∧
        other.host = authority.host ∧ other.port = authority.port := by
  constructor
  · rintro ⟨url, read, agrees⟩
    obtain ⟨other, rest, front, rfl⟩ := (parse_behind_scheme_eq_ok_iff http).mp read
    have host := agrees.host
    have port := agrees.port
    rw [isOwn] at host port
    exact ⟨other, ⟨rest, front⟩, agrees.scheme, Option.some.inj host, Option.some.inj port⟩
  · rintro ⟨other, ⟨rest, front⟩, same, host, port⟩
    apply Exists.intro (specialUrl scheme other rest)
    constructor
    · exact (parse_behind_scheme_eq_ok_iff http).mpr ⟨other, rest, front, rfl⟩
    · exact ⟨same, isOwn ▸ congrArg some host, isOwn ▸ congrArg some port⟩

end Agreement

/-- A URL behind another scheme agrees with itself by chance: where its own scheme is taken for a
name that asks, or for a host and the URL leads to a host of that name. -/
structure AgreesByChance (text : String) (own : Url) : Prop where
  scheme : own.scheme = "http"
  address : '@' ∈ behindColon text.toList ∨
    behindColon text.toList = [] ∧ frontPadding text.toList = [] ∧
      own.authority.map (·.host) = some (.name "http") ∧ own.authority.map (·.port) = some none

end Url

namespace ServiceSettings

open PubSubProvisioning.Url (AgreesByChance BeginsWith IsHttp authorityText unpadded)

theorem exists_of_statesScheme {value : String} (stated : statesScheme value = true) :
    ∃ scheme text, IsHttp scheme ∧ value = scheme ++ "://" ++ String.ofList text := by
  rw [statesScheme, Bool.or_eq_true, List.isPrefixOf_iff_prefix,
    List.isPrefixOf_iff_prefix] at stated
  rcases stated with ⟨text, same⟩ | ⟨text, same⟩
  · refine ⟨"http", text, .inl rfl, ?_⟩
    rw [← String.toList_inj, ← same]
    simp
  · refine ⟨"https", text, .inr rfl, ?_⟩
    rw [← String.toList_inj, ← same]
    simp

/-- Slashes at the end of a URL are cut off behind its authority. -/
theorem localEndpoint_of_statesScheme {scheme : String} {text : List Char}
    (stated : statesScheme (scheme ++ "://" ++ String.ofList text) = true)
    (left : dropTrailing (· = '/') text ≠ []) :
    localEndpoint (scheme ++ "://" ++ String.ofList text) =
      scheme ++ "://" ++ String.ofList (dropTrailing (· = '/') text) := by
  rw [localEndpoint, if_pos stated, String.toList_append, String.toList_ofList,
    Text.dropTrailing_append_of_ne_nil left, String.ofList_append, String.ofList_toList]

/-- The endpoint of a URL whose scheme is noticed leads to the same service. -/
theorem localEndpoint_agrees_of_statesScheme {value : String} {own : Url}
    (stated : statesScheme value = true) (accepted : Url.parse value = .ok own) :
    ∃ url, Url.parse (localEndpoint value) = .ok url ∧ url.Agrees own := by
  obtain ⟨scheme, text, http, rfl⟩ := exists_of_statesScheme stated
  have special := Url.isSpecial_of_isHttp http
  obtain ⟨authority, rest, front, rfl⟩ := (Url.parse_behind_scheme_eq_ok_iff http).mp accepted
  have left : dropTrailing (· = '/') text ≠ [] := by
    intro none
    rw [Text.dropTrailing_eq_nil] at none
    apply Url.authorityText_ne_nil special front
    rw [authorityText, List.dropWhile_eq_nil_iff]
    intro c member
    have inText := Text.dropTrailing_subset _ text (List.mem_filter.mp member).1
    obtain rfl : c = '/' := by simpa using none c inText
    rfl
  have begins : BeginsWith scheme (authorityText (unpadded
      (dropTrailing (· = '/') text ++ trailing (· = '/') text))) authority := by
    rw [Text.dropTrailing_append_trailing]
    exact ⟨rest, front⟩
  have bare := begins.of_append_slashes special fun _ => Text.eq_of_mem_trailing
  rw [localEndpoint_of_statesScheme stated left]
  exact (Url.exists_agrees_iff http _ rfl).mpr ⟨authority, bare, rfl, rfl, rfl⟩

/-- The endpoint of a URL whose scheme is not noticed leads to the same service only by chance. -/
theorem localEndpoint_agrees_iff_of_unstated {value : String} {own : Url}
    (unstated : statesScheme value = false) (accepted : Url.parse value = .ok own)
    (http : IsHttp own.scheme) :
    (∃ url, Url.parse (localEndpoint value) = .ok url ∧ url.Agrees own) ↔
      AgreesByChance value own := by
  obtain ⟨word, rest, authority, shape, present, plain, named, begins, isOwn⟩ :=
    Url.exists_word_of_parse accepted http
  have behind : localEndpoint value =
      "http" ++ "://" ++ String.ofList (dropTrailing (· = '/') value.toList) := by
    rw [localEndpoint, if_neg (by simp [unstated])]
    rfl
  have front := Url.takeWhile_authorityText_without_slashes (Url.isSpecial_of_isHttp http) shape
    present plain begins
  have colon := Url.behindColon_eq shape plain
  rw [colon] at front
  rw [behind, Url.exists_agrees_iff (.inl rfl) _ isOwn,
    Url.exists_same_address_iff http named present plain
      (fun _ => Url.isPadding_of_mem_frontPadding) front begins, ← colon]
  constructor
  · rintro ⟨scheme, address⟩
    exact ⟨scheme, by simpa [isOwn] using address⟩
  · rintro ⟨scheme, address⟩
    exact ⟨scheme, by simpa [isOwn] using address⟩

/-- A local service that is given as a URL over HTTP is reached by the scheme, host and port of that
URL exactly if the scheme is noticed, but for some URLs that agree by chance. -/
theorem ofEnvironment_agrees_iff {environment : Environment} {value : String} {own : Url}
    (given : environment.get? "PUBSUB_EMULATOR_HOST" = some value)
    (accepted : Url.parse value = .ok own) (http : IsHttp own.scheme) :
    (∃ url, Url.parse (ofEnvironment environment).endpoint = .ok url ∧ url.Agrees own) ↔
      statesScheme value = true ∨ AgreesByChance value own := by
  have filled : Text.allBlank value = false := by
    obtain ⟨word, rest, authority, shape, -⟩ := Url.exists_word_of_parse accepted http
    rw [Text.allBlank, List.all_eq_false]
    exact ⟨':', Url.colon_mem_of_seen shape, by decide⟩
  have endpoint : (ofEnvironment environment).endpoint = localEndpoint value := by
    have kept : filled? environment "PUBSUB_EMULATOR_HOST" = some value := by
      simp [filled?, given, Option.filter, filled]
    simp only [ofEnvironment, kept]
  rw [endpoint]
  cases stated : statesScheme value with
  | true =>
      constructor
      · exact fun _ => .inl rfl
      · exact fun _ => localEndpoint_agrees_of_statesScheme stated accepted
  | false =>
      rw [localEndpoint_agrees_iff_of_unstated stated accepted http]
      simp

/-- The slash at the end of a service over HTTPS is not part of its host. -/
theorem ofEnvironment_agrees_slash :
    let environment : Environment := ⟨[("PUBSUB_EMULATOR_HOST", "https://pubsub.internal/")]⟩
    let own : Url :=
      ⟨"https", some { host := .name "pubsub.internal" }, false, .segments [""], none, none⟩
    environment.get? "PUBSUB_EMULATOR_HOST" = some "https://pubsub.internal/" ∧
      Url.parse "https://pubsub.internal/" = .ok own ∧ IsHttp own.scheme ∧
      ∃ url, Url.parse (ofEnvironment environment).endpoint = .ok url ∧ url.Agrees own := by
  intro environment own
  have given : environment.get? "PUBSUB_EMULATOR_HOST" = some "https://pubsub.internal/" := rfl
  have accepted : Url.parse "https://pubsub.internal/" = .ok own := by decide +kernel
  have agrees := (ofEnvironment_agrees_iff given accepted (.inr rfl)).mpr (.inl (by decide))
  exact ⟨given, accepted, .inr rfl, agrees⟩

/-- A scheme in capitals becomes the host that is asked. -/
theorem ofEnvironment_asks_scheme :
    let environment : Environment := ⟨[("PUBSUB_EMULATOR_HOST", "HTTP://localhost:8085")]⟩
    let own : Url :=
      ⟨"http", some { host := .name "localhost", port := some 8085 }, false, .segments [""], none,
        none⟩
    let asked : Url :=
      ⟨"http", some { host := .name "http" }, false, .segments ["", "localhost:8085"], none, none⟩
    environment.get? "PUBSUB_EMULATOR_HOST" = some "HTTP://localhost:8085" ∧
      Url.parse "HTTP://localhost:8085" = .ok own ∧ IsHttp own.scheme ∧
      (ofEnvironment environment).endpoint = "http://HTTP://localhost:8085" ∧
      Url.parse (ofEnvironment environment).endpoint = .ok asked ∧ ¬asked.Agrees own := by
  intro environment own asked
  have accepted : Url.parse "HTTP://localhost:8085" = .ok own := by decide +kernel
  have endpoint : (ofEnvironment environment).endpoint = "http://HTTP://localhost:8085" := by
    decide +kernel
  have read : Url.parse "http://HTTP://localhost:8085" = .ok asked := by decide +kernel
  have elsewhere : ¬asked.Agrees own := fun agrees => absurd agrees.host (by decide)
  exact ⟨rfl, accepted, .inl rfl, endpoint, endpoint ▸ read, elsewhere⟩

end ServiceSettings

end PubSubProvisioning
