import PubSubProvisioning.Proofs.HttpUrl
import PubSubProvisioning.Proofs.ResourceUrl

/-!
# Where the URLs of resources lie

Whatever the IDs of a project and of a resource hold, the URL of the resource is that of the service
with more behind its path.  An ID may take back one segment at most, and only one that was added for
it: that of its collection, or that of all projects.  The version stays, and so does all that comes
before it.

A slash at the end of the path of a service makes no difference, since what is added takes the place
of an empty last segment.
-/

namespace PubSubProvisioning

open PubSubProvisioning.Text (dropTrailing fields trimBy upperHexDigit)

namespace Url

/-! ## Segments without slashes -/

theorem slash_not_mem_escapeOctet (octet : UInt8) : '/' ∉ escapeOctet octet := by
  have digits : ∀ digit ∈ List.range 16, upperHexDigit digit ≠ '/' := by decide
  have bound := octet.toNat_lt
  have high := digits (octet.toNat / 16) (List.mem_range.mpr (by omega))
  have low := digits (octet.toNat % 16) (List.mem_range.mpr (Nat.mod_lt _ (by decide)))
  simp [escapeOctet, high.symm, low.symm]

/-- Escapes are written without slashes. -/
theorem slash_not_mem_percentEncode {escaped : Char → Bool} {text : List Char}
    (free : '/' ∉ text) : '/' ∉ percentEncode escaped text := by
  intro member
  obtain ⟨c, inside, member⟩ := List.mem_flatMap.mp member
  split at member
  · obtain ⟨octet, -, member⟩ := List.mem_flatMap.mp member
    exact slash_not_mem_escapeOctet octet member
  · obtain rfl := List.mem_singleton.mp member
    exact free inside

/-- No segment of a trail holds a slash. -/
def Trail.IsSlashFree (trail : Trail) : Prop :=
  ∀ segment ∈ trail.behind, '/' ∉ segment.toList

namespace Trail

variable {trail : Trail} {segment : List Char}

theorem IsSlashFree.push (free : trail.IsSlashFree) (plain : '/' ∉ segment) :
    (trail.push segment).IsSlashFree := by
  intro other member
  rcases List.mem_cons.mp member with rfl | member
  · simpa using plain
  · exact free other member

theorem IsSlashFree.pop (free : trail.IsSlashFree) : trail.pop.IsSlashFree := by
  rw [Trail.pop]
  split
  · exact free
  · exact fun other member => free other (List.mem_of_mem_tail member)

/-- How a path grows where it has no place on the local machine. -/
theorem add_special (escaped : Char → Bool) (last : Bool) (trail : Trail) (segment : List Char) :
    trail.add .special escaped last segment =
      match segmentKind (percentEncode escaped (visible segment)) with
      | .parent => if last then trail.pop.push [] else trail.pop
      | .here => if last then trail.push [] else trail
      | .plain => trail.push (percentEncode escaped (visible segment)) := by
  have elsewhere : SchemeKind.special ≠ .file := by simp
  cases kind : segmentKind (percentEncode escaped (visible segment)) with
  | here => simp [Trail.add, elsewhere, kind]
  | parent => simp [Trail.add, elsewhere, kind]
  | plain => simp [Trail.add, elsewhere, kind]

theorem IsSlashFree.add (free : trail.IsSlashFree) (escaped : Char → Bool) (last : Bool)
    (plain : '/' ∉ segment) : (trail.add .special escaped last segment).IsSlashFree := by
  have seen : '/' ∉ visible segment := fun member => plain (List.mem_filter.mp member).1
  rw [add_special]
  split
  · split
    · exact free.pop.push (by simp)
    · exact free.pop
  · split
    · exact free.push (by simp)
    · exact free
  · exact free.push (slash_not_mem_percentEncode seen)

theorem IsSlashFree.addAll {pieces : List (List Char)} (free : trail.IsSlashFree)
    (plain : ∀ piece ∈ pieces, '/' ∉ piece) : (trail.addAll .special pieces).IsSlashFree := by
  fun_induction Trail.addAll .special trail pieces with
  | case1 trail => exact free
  | case2 trail last => exact free.add _ _ (plain last (by simp))
  | case3 trail segment next rest inductionHypothesis =>
      exact inductionHypothesis (free.add _ _ (plain segment (by simp)))
        fun piece member => plain piece (List.mem_cons_of_mem _ member)

/-- What is read as a path is cut at all of its slashes. -/
theorem isSlashFree_read (text : List Char) : (Trail.read .special text).IsSlashFree :=
  IsSlashFree.addAll (by simp [IsSlashFree]) fun _ => Text.separator_not_mem_of_mem_fields

end Trail

/-- The segments of a URL over HTTP hold no slashes. -/
theorem exists_slashFree_of_parse {text : String} {url : Url} (read : parse text = .ok url)
    (http : IsHttp url.scheme) :
    ∃ list, url.path = .segments list ∧ ∀ segment ∈ list, '/' ∉ segment.toList := by
  obtain ⟨rest, authority, tail, -, -, same⟩ := exists_authority_of_parse read http
  rw [same]
  refine ⟨_, rfl, ?_⟩
  intro segment member
  exact Trail.isSlashFree_read _ segment (List.mem_reverse.mp member)

/-! ## Slashes at the end of a path -/

/-- Whether the text of a path ends in a slash. -/
def Path.isClosed (path : Path) : Bool :=
  path.text.toList.getLast? = some '/'

/-- The text of a path without the slash at its end, if there is one. -/
def Path.unclosed (path : Path) : String :=
  if path.isClosed then String.ofList path.text.toList.dropLast else path.text

/-- The URL with a slash behind its path. -/
def withEmptyEnd (url : Url) : Url :=
  match url.path with
  | .segments list => { url with path := .segments (list ++ [""]) }
  | .rootless _ => url

section Closed

variable {list front : List String}

@[simp]
theorem Path.text_nil : (Path.segments []).text = "" :=
  rfl

theorem Path.text_cons (segment : String) (list : List String) :
    (Path.segments (segment :: list)).text = "/" ++ segment ++ (Path.segments list).text := by
  simp [Path.text]

theorem Path.text_append (first second : List String) :
    (Path.segments (first ++ second)).text =
      (Path.segments first).text ++ (Path.segments second).text := by
  simp [Path.text]

@[simp]
theorem Path.text_append_empty (list : List String) :
    (Path.segments (list ++ [""])).text = (Path.segments list).text ++ "/" := by
  simp [Path.text_append, Path.text_cons]

theorem Path.isClosed_append_empty (list : List String) :
    (Path.segments (list ++ [""])).isClosed = true := by
  simp [Path.isClosed]

/-- Without slashes in its segments, a path ends in a slash exactly if the last one is empty. -/
theorem Path.isClosed_iff (free : ∀ segment ∈ list, '/' ∉ segment.toList) :
    (Path.segments list).isClosed = true ↔ list.getLast? = some "" := by
  constructor
  · intro closed
    rcases List.eq_nil_or_concat list with rfl | ⟨front, last, rfl⟩
    · simp [Path.isClosed] at closed
    · rw [List.concat_eq_append, List.getLast?_concat]
      by_contra present
      have plain : '/' ∉ last.toList := free last (by simp)
      rcases List.eq_nil_or_concat last.toList with none | ⟨letters, c, shape⟩
      · exact present (by rw [String.toList_eq_nil_iff.mp none])
      · have final : (Path.segments (front.concat last)).text.toList.getLast? = some c := by
          rw [List.concat_eq_append, Path.text_append, Path.text_cons, Path.text_nil]
          simp only [String.toList_append, shape, List.concat_eq_append, String.toList_empty,
            List.append_nil, ← List.append_assoc, List.getLast?_concat]
        rw [Path.isClosed, final] at closed
        obtain rfl : c = '/' := by simpa using closed
        exact plain (by simp [shape])
  · intro empty
    obtain ⟨front, rfl⟩ := List.getLast?_eq_some_iff.mp empty
    exact Path.isClosed_append_empty front

theorem Path.unclosed_append_empty (list : List String) :
    (Path.segments (list ++ [""])).unclosed = (Path.segments list).text := by
  rw [Path.unclosed, if_pos (Path.isClosed_append_empty list), Path.text_append_empty,
    String.toList_append]
  simp

theorem Path.unclosed_of_open {path : Path} (opened : path.isClosed = false) :
    path.unclosed = path.text := by
  rw [Path.unclosed, if_neg (by simp [opened])]

theorem withoutEmptyEnd_of_present (present : list.getLast? ≠ some "") :
    withoutEmptyEnd list = list := by
  rw [withoutEmptyEnd, if_neg (by simp [present])]

theorem withoutEmptyEnd_append_empty (present : front ≠ []) :
    withoutEmptyEnd (front ++ [""]) = front := by
  have long : 1 ≤ front.length := List.length_pos_iff.mpr present
  rw [withoutEmptyEnd, if_pos (by simpa using long), List.dropLast_concat]

end Closed

/-! ## One more slash behind a URL -/

/-- A separator at the end of a text has an empty piece behind it. -/
theorem fields_append_separator_end (separator : Char) (text : List Char) :
    fields separator (text ++ [separator]) = fields separator text ++ [[]] := by
  induction text with
  | nil => simp
  | cons c rest inductionHypothesis =>
      by_cases same : c = separator
      · subst same
        rw [List.cons_append, Text.fields_cons_self, Text.fields_cons_self, inductionHypothesis,
          List.cons_append]
      · obtain ⟨first, others, shape, cut⟩ := Text.fields_cons_of_ne same rest
        obtain ⟨firstMore, othersMore, shapeMore, cutMore⟩ :=
          Text.fields_cons_of_ne same (rest ++ [separator])
        rw [inductionHypothesis, shape, List.cons_append, List.cons.injEq] at shapeMore
        rw [List.cons_append, cutMore, cut, ← shapeMore.1, ← shapeMore.2, List.cons_append]

/-- A path that does not end in an empty segment gets one from an empty piece. -/
theorem Trail.addAll_append_empty {trail : Trail} {pieces : List (List Char)}
    (present : pieces ≠ []) (opened : (trail.addAll .special pieces).behind.head? ≠ some "") :
    trail.addAll .special (pieces ++ [[]]) = (trail.addAll .special pieces).push [] := by
  fun_induction Trail.addAll .special trail pieces with
  | case1 trail => contradiction
  | case2 trail last =>
      rw [List.singleton_append, Trail.addAll, Trail.addAll, add_special, add_special, add_special]
      rw [add_special] at opened
      cases kind : segmentKind (percentEncode escapedInPath (visible last)) with
      | here => simp [kind, Trail.push] at opened
      | parent => simp [kind, Trail.push] at opened
      | plain => rfl
  | case3 trail segment next rest inductionHypothesis =>
      rw [List.cons_append, List.cons_append, Trail.addAll]
      exact inductionHypothesis (by simp) opened

theorem Trail.read_append_slash {text : List Char}
    (opened : (Trail.read .special text).behind.head? ≠ some "") :
    Trail.read .special (text ++ ['/']) = (Trail.read .special text).push [] := by
  have slash : isSlash SchemeKind.special.isSpecial '/' = true := rfl
  rw [Trail.read, List.map_append, List.map_singleton, if_pos slash, fields_append_separator_end]
  exact Trail.addAll_append_empty (Text.fields_ne_nil _ _) opened

/-- Without a mark there is neither a query nor a fragment, and the other way round. -/
theorem eq_nil_of_queryAndFragment {special : Bool} {text : List Char}
    (none : queryAndFragment special text = (none, none)) : text = [] := by
  unfold queryAndFragment at none
  split at none
  · dsimp only at none
    split at none <;> simp at none
  · simp at none
  · rfl

theorem withoutSlash_cons {c : Char} (slash : isSlash true c = true) (rest : List Char) :
    withoutSlash (c :: rest) = rest := by
  have seen : isBreak c = false := by
    simp only [isSlash, Bool.true_and, Bool.or_eq_true, decide_eq_true_eq] at slash
    rcases slash with rfl | rfl <;> rfl
  have begins : (visible (c :: rest)).head?.any (isSlash true) = true := by
    simp [visible, seen, slash]
  rw [withoutSlash, if_pos begins]
  cases rest <;> simp [dropVisible, seen]

/-- Behind an authority, a slash at the end of a path is one more segment. -/
theorem specialUrl_append_slash {scheme : String} {authority : Authority} {text : List Char}
    {list : List String} (ends : ∀ c ∈ text.head?, endsAuthority true c = true)
    (query : (specialUrl scheme authority text).query = none)
    (fragment : (specialUrl scheme authority text).fragment = none)
    (segmented : (specialUrl scheme authority text).path = .segments list)
    (opened : list.getLast? ≠ some "") :
    specialUrl scheme authority (text ++ ['/']) =
      (specialUrl scheme authority text).withEmptyEnd := by
  have unmarked : queryAndFragment (schemeKind scheme).isSpecial
      (text.drop (text.takeWhile (!endsPath ·)).length) = (none, none) := Prod.ext query fragment
  have whole := eq_nil_of_queryAndFragment unmarked
  have plain : ∀ c ∈ text, endsPath c = false := by
    rw [drop_length_takeWhile, List.dropWhile_eq_nil_iff] at whole
    simpa using whole
  have path (more : List Char) (plain : ∀ c ∈ more, endsPath c = false) :
      specialUrl scheme authority more =
        ⟨scheme, some authority, false,
          .segments ((Trail.read .special (withoutSlash more)).segments .special), none, none⟩ := by
    have all : more.takeWhile (!endsPath ·) = more :=
      List.takeWhile_eq_self_iff.mpr (by simpa using plain)
    simp only [specialUrl, all, List.drop_length, withTail, queryAndFragment]
  rw [path text plain] at segmented ⊢
  obtain rfl := Path.segments.inj segmented
  have openedTrail : (Trail.read .special (withoutSlash text)).behind.head? ≠ some "" := by
    rw [← List.getLast?_reverse]
    exact opened
  rw [path (text ++ ['/']) (by simpa [or_imp, forall_and] using ⟨plain, rfl⟩), withEmptyEnd]
  cases text with
  | nil => exact absurd rfl openedTrail
  | cons c rest =>
      have slash : isSlash true c = true := by
        have first := ends c rfl
        rwa [endsAuthority, plain c List.mem_cons_self, Bool.or_false] at first
      rw [withoutSlash_cons slash] at openedTrail
      rw [List.cons_append, withoutSlash_cons slash, withoutSlash_cons slash,
        Trail.read_append_slash openedTrail]
      simp [Trail.segments, Trail.push]

/-- A slash behind a text that begins with an authority is left for the path. -/
theorem readAuthority_append_slash {scheme : String}
    (special : (schemeKind scheme).isSpecial = true) {text tail : List Char} {authority : Authority}
    (read : readAuthority scheme text = .ok (authority, tail)) :
    (∀ c ∈ tail.head?, endsAuthority true c = true) ∧
      readAuthority scheme (text ++ ['/']) = .ok (authority, tail ++ ['/']) := by
  obtain ⟨hosted, credited, named, numbered⟩ := (readAuthority_eq_ok_iff special).mp read
  have ends := endsAuthority_of_mem_head? text
  have within : ∀ c ∈ addressPart (text.takeWhile (!endsAuthority true ·)),
      endsAuthority true c = false := by
    intro c member
    simpa using List.mem_takeWhile_imp (addressPart_subset _ member)
  have slash : endsAuthority true '/' = true := rfl
  have front : (text ++ ['/']).takeWhile (!endsAuthority true ·) =
      text.takeWhile (!endsAuthority true ·) := by
    rw [List.takeWhile_append]
    split
    · rename_i all
      rw [(List.takeWhile_prefix _).eq_of_length all, List.takeWhile_cons_of_neg (by simp [slash]),
        List.append_nil]
    · rfl
  have behind : tail = text.drop (text.takeWhile (!endsAuthority true ·)).length := by
    have same := portBefore?_of_end within ends ends numbered
    rw [numbered] at same
    exact (Prod.mk.inj (Except.ok.inj same)).2
  have endsMore := endsAuthority_of_mem_head? (text ++ ['/'])
  have short : (text.takeWhile (!endsAuthority true ·)).length ≤ text.length :=
    (List.takeWhile_prefix _).length_le
  rw [front, List.drop_append_of_le_length short, ← behind] at endsMore
  constructor
  · exact behind ▸ ends
  · apply (readAuthority_eq_ok_iff special).mpr
    rw [front, List.drop_append_of_le_length short, ← behind]
    exact ⟨hosted, credited, named, portBefore?_of_end within ends endsMore numbered⟩

/-- Behind a text without padding at its end, a slash can be seen. -/
theorem seen_append_slash {text : List Char} (unpadded : ∀ c ∈ text.getLast?, ¬IsPadding c)
    (present : text ≠ []) : seen (text ++ ['/']) = seen text ++ ['/'] := by
  obtain ⟨front, c, rfl⟩ := (List.eq_nil_or_concat text).resolve_left present
  have stays : decide (c.toNat ≤ 0x20) = false := by
    have visible := unpadded c (by simp)
    simpa [IsPadding] using visible
  have trimmed (more : List Char) :
      trimBy (·.toNat ≤ 0x20) (front ++ c :: more) =
        front.dropWhile (·.toNat ≤ 0x20) ++ c :: dropTrailing (·.toNat ≤ 0x20) more := by
    have begins : (front ++ c :: more).dropWhile (·.toNat ≤ 0x20) =
        front.dropWhile (·.toNat ≤ 0x20) ++ c :: more := by
      rw [List.dropWhile_append]
      split
      · rename_i padding
        rw [List.isEmpty_iff.mp padding, List.dropWhile_cons_of_neg (by simp [stays])]
        rfl
      · rfl
    rw [trimBy, begins, Text.dropTrailing_append_cons stays]
  have slash : visible ['/'] = ['/'] := rfl
  rw [seen, seen, List.concat_eq_append, List.append_assoc, List.singleton_append, trimmed, trimmed,
    ← slash, ← visible_append, List.append_assoc]
  rfl

/-- A slash behind a URL without query and fragment is one more segment, unless its path ends in a
slash already. -/
theorem parse_append_slash {text : String} {url : Url} (read : parse text = .ok url)
    (http : IsHttp url.scheme) (query : url.query = none) (fragment : url.fragment = none)
    (opened : url.path.isClosed = false) (unpadded : ∀ c ∈ text.toList.getLast?, ¬IsPadding c) :
    parse (text ++ "/") = .ok url.withEmptyEnd := by
  obtain ⟨list, segmented, free⟩ := exists_slashFree_of_parse read http
  obtain ⟨rest, authority, tail, found, front, same⟩ := exists_authority_of_parse read http
  have special := isSpecial_of_isHttp http
  have openedList : list.getLast? ≠ some "" := by
    rw [segmented] at opened
    exact mt (Path.isClosed_iff free).mpr (by simp [opened])
  obtain ⟨word, shape, letters, begins, lower⟩ := splitScheme?_eq_some_iff.mp found
  have present : text.toList ≠ [] := by
    intro none
    rw [none] at shape
    cases word <;> contradiction
  have foundMore : splitScheme? (seen (text ++ "/").toList) = some (url.scheme, rest ++ ['/']) := by
    rw [String.toList_append, show "/".toList = ['/'] from rfl,
      seen_append_slash unpadded present, shape]
    exact splitScheme?_eq_some_iff.mpr
      ⟨word, by rw [List.append_assoc, List.cons_append], letters, begins, lower⟩
  have goesOn : (rest.dropWhile (isSlash true)).isEmpty = false := by
    simpa using authorityText_ne_nil special front
  have behind : (rest ++ ['/']).dropWhile (isSlash true) =
      rest.dropWhile (isSlash true) ++ ['/'] := by
    rw [List.dropWhile_append, if_neg (by simp [goesOn])]
  obtain ⟨ends, frontMore⟩ := readAuthority_append_slash special front
  rw [parse_of_splitScheme? http foundMore, behind, frontMore]
  generalize url.scheme = scheme at same
  subst same
  exact congrArg Except.ok (specialUrl_append_slash ends query fragment segmented openedList)

/-! ## What follows the root -/

section Root

variable {url : Url} {list : List String}

/-- The text of a root and a slash are the text of a path without the slash at its end, and at most
one slash more. -/
theorem exists_gap_of_root (segmented : url.path = .segments list)
    (free : ∀ segment ∈ list, '/' ∉ segment.toList) :
    ∃ gap, (gap = "" ∨ gap = "/") ∧
      (Path.segments url.root).text ++ "/" = url.path.unclosed ++ gap := by
  rw [root, segmented]
  by_cases closed : list.getLast? = some ""
  · obtain ⟨front, rfl⟩ := List.getLast?_eq_some_iff.mp closed
    rw [Path.unclosed_append_empty]
    by_cases alone : front = []
    · subst alone
      exact ⟨"/", .inr rfl, rfl⟩
    · dsimp only
      rw [withoutEmptyEnd_append_empty alone, stem]
      split
      · -- Of two empty segments neither is left, so that the first slash is where the last one was.
        rename_i empty
        subst empty
        exact ⟨"", .inl rfl, rfl⟩
      · exact ⟨"/", .inr rfl, rfl⟩
  · have opened : (Path.segments list).isClosed = false := by
      simpa using mt (Path.isClosed_iff free).mp closed
    have several : list ≠ [""] := by
      rintro rfl
      exact closed rfl
    dsimp only
    rw [Path.unclosed_of_open opened, withoutEmptyEnd_of_present closed, stem, if_neg several]
    exact ⟨"/", .inr rfl, rfl⟩

/-- A slash at the end of a path makes no difference to what follows. -/
theorem root_withEmptyEnd (segmented : url.path = .segments list)
    (opened : list.getLast? ≠ some "") : url.withEmptyEnd.root = url.root := by
  rw [withEmptyEnd, segmented]
  dsimp only
  rw [root, root, segmented]
  dsimp only
  by_cases none : list = []
  · subst none
    rfl
  · rw [withoutEmptyEnd_append_empty none, withoutEmptyEnd_of_present opened]

/-- Without a query and a fragment, a slash behind a path is one behind the whole URL. -/
theorem text_withEmptyEnd (segmented : url.path = .segments list) (query : url.query = none)
    (fragment : url.fragment = none) : url.withEmptyEnd.text = url.text ++ "/" := by
  rw [withEmptyEnd, segmented]
  simp [text, tail, origin, segmented, query, fragment, String.append_assoc]

end Root

/-- A text that is added behind a word takes back that word at most. -/
theorem exists_appendSegment (front : List String) {name : String} (named : name ≠ "")
    (noDrive : beginsWithDriveLetter name.toList = false) (text : String) :
    ∃ first more, appendSegment .special (front ++ [name]) text = front ++ first :: more := by
  cases faithful : isFaithful text with
  | true =>
      rw [appendSegment_of_faithful faithful, stem_append_singleton front named, List.append_assoc]
      exact ⟨name, _, rfl⟩
  | false =>
      rcases appendSegment_of_unfaithful front named noDrive faithful with
        ⟨out, -⟩ | ⟨other, becomes, -⟩ | ⟨away, -⟩
      · exact ⟨name, [], out⟩
      · exact ⟨name, [other], becomes⟩
      · exact ⟨"", [], away⟩

/-- A URL lies behind another one if it differs in the path only, and its path begins with that of
the other one, with or without a slash at the end, and the version. -/
structure LiesBehind (url base : Url) : Prop where
  elsewhere : url = { base with path := url.path }
  path : ∃ gap rest, (gap = "" ∨ gap = "/") ∧
    url.path.text = base.path.unclosed ++ gap ++ "v1/" ++ rest

end Url

namespace Rest.Session

/-- Behind the root of a service comes the version, whatever the IDs are. -/
theorem exists_resourceSegments (session : Session) (collection : Collection) (id : String) :
    ∃ first more, session.resourceSegments collection id =
      session.base.root ++ "v1" :: first :: more := by
  have named : collection.name ≠ "" := by cases collection <;> decide
  have noDrive : Url.beginsWithDriveLetter collection.name.toList = false := by
    cases collection <;> rfl
  have projects : "projects" ≠ "" := by decide
  obtain ⟨first, more, project⟩ :=
    Url.exists_appendSegment (session.base.root ++ ["v1"]) projects rfl session.project
  obtain ⟨next, later, resource⟩ :=
    Url.exists_appendSegment session.projectSegments named noDrive id
  refine ⟨first, more ++ next :: later, ?_⟩
  rw [resourceSegments, resource, projectSegments, root_append_projects, project]
  simp

/-- Over HTTP every resource has a URL, and the URL lies behind that of the service.  A slash behind
the path of the service makes no difference to it. -/
theorem resourceUrl_liesBehind {session : Session} {endpoint : String}
    (read : Url.parse endpoint = .ok session.base) (http : Url.IsHttp session.base.scheme)
    (collection : Collection) (id : String) :
    ∃ url, session.resourceUrl collection id = .ok url ∧ url.LiesBehind session.base ∧
      (session.base.query = none → session.base.fragment = none →
        session.base.path.isClosed = false →
        session.base.withEmptyEnd.text = session.base.text ++ "/" ∧
          { session with base := session.base.withEmptyEnd }.resourceUrl collection id = .ok url ∧
          ((∀ c ∈ endpoint.toList.getLast?, ¬IsPadding c) →
            Url.parse (endpoint ++ "/") = .ok session.base.withEmptyEnd)) := by
  obtain ⟨list, segmented, free⟩ := Url.exists_slashFree_of_parse read http
  have special := Url.schemeKind_of_isHttp http
  refine ⟨_, resourceUrl_eq segmented special collection id, ⟨rfl, ?_⟩, ?_⟩
  · obtain ⟨gap, narrow, begins⟩ := Url.exists_gap_of_root segmented free
    obtain ⟨first, more, segments⟩ := session.exists_resourceSegments collection id
    refine ⟨gap, first ++ (Url.Path.segments more).text, narrow, ?_⟩
    rw [← begins, segments, Url.Path.text_append, Url.Path.text_cons, Url.Path.text_cons,
      ← String.toList_inj]
    simp only [String.toList_append, List.append_assoc]
    rfl
  · intro query fragment opened
    have openedList : list.getLast? ≠ some "" := by
      rw [segmented] at opened
      exact mt (Url.Path.isClosed_iff free).mpr (by simp [opened])
    constructor
    · exact Url.text_withEmptyEnd segmented query fragment
    constructor
    · let other : Session := { session with base := session.base.withEmptyEnd }
      have closed : other.base.path = .segments (list ++ [""]) := by
        simp [other, Url.withEmptyEnd, segmented]
      have scheme : other.base.scheme = session.base.scheme := by
        simp [other, Url.withEmptyEnd, segmented]
      have root : other.base.root = session.base.root :=
        Url.root_withEmptyEnd segmented openedList
      have segments : other.resourceSegments collection id =
          session.resourceSegments collection id := by
        simp only [resourceSegments, projectSegments, root, other]
      rw [resourceUrl_eq closed (scheme ▸ special), segments]
      simp [other, Url.withEmptyEnd, segmented]
    · exact Url.parse_append_slash read http query fragment opened

/-- A topic that takes back its collection stays behind the path of the service, with or without a
slash at the end of that. -/
theorem resourceUrl_liesBehind_path :
    let base : Url :=
      ⟨"http", some { host := .name "localhost", port := some 8085 }, false, .segments ["a"], none,
        none⟩
    let session : Session := ⟨base, "p", none⟩
    Url.parse "http://localhost:8085/a" = .ok base ∧ Url.IsHttp base.scheme ∧
      base.path.isClosed = false ∧ (∀ c ∈ "http://localhost:8085/a".toList.getLast?, ¬IsPadding c) ∧
      ∃ url, session.resourceUrl .topics ".\t." = .ok url ∧ url.LiesBehind base ∧
        { session with base := base.withEmptyEnd }.resourceUrl .topics ".\t." = .ok url ∧
        Url.parse ("http://localhost:8085/a" ++ "/") = .ok base.withEmptyEnd := by
  intro base session
  have read : Url.parse "http://localhost:8085/a" = .ok session.base := by decide +kernel
  have opened : base.path.isClosed = false := by decide
  have unpadded : ∀ c ∈ "http://localhost:8085/a".toList.getLast?, ¬IsPadding c := by
    rintro c ⟨⟩
    exact Nat.not_le_of_lt (by decide)
  obtain ⟨url, found, behind, closed⟩ := resourceUrl_liesBehind read (.inl rfl) .topics ".\t."
  obtain ⟨-, same, readClosed⟩ := closed rfl rfl opened
  exact ⟨read, .inl rfl, opened, unpadded, url, found, behind, same, readClosed unpadded⟩

end Rest.Session

end PubSubProvisioning
