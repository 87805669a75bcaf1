import Mathlib.Control.Monad.Basic
import PubSubProvisioning.Proofs.Authority
import PubSubProvisioning.Validation

/-!
# URLs over HTTP

What is read of a URL over HTTP behind its scheme is an authority, whatever the number of slashes in
front of it, and then the rest.  Padding at the end of the text is cut off first, so a path that is
written behind the text may find padding in front of it that has not been read before.
-/

namespace PubSubProvisioning

/-! ## Ends of texts -/

namespace Text

/-- Nothing is cut off before a character that stays. -/
theorem dropTrailing_append_cons {drop : Char → Bool} {c : Char} (stays : drop c = false)
    (front text : List Char) :
    dropTrailing drop (front ++ c :: text) = front ++ c :: dropTrailing drop text := by
  have shape : (front ++ c :: text).reverse = text.reverse ++ c :: front.reverse := by simp
  rw [dropTrailing, dropTrailing, shape, List.dropWhile_append]
  split
  · rename_i nothing
    rw [List.isEmpty_iff.mp nothing]
    simp [stays]
  · simp

/-- What is cut off at the end of a text. -/
def trailing (drop : Char → Bool) (text : List Char) : List Char :=
  (text.reverse.takeWhile drop).reverse

theorem dropTrailing_append_trailing (drop : Char → Bool) (text : List Char) :
    dropTrailing drop text ++ trailing drop text = text := by
  rw [dropTrailing, trailing, ← List.reverse_append, List.takeWhile_append_dropWhile,
    List.reverse_reverse]

/-- Where something is left of a text, nothing is cut off in front of it. -/
theorem dropTrailing_append_of_ne_nil {drop : Char → Bool} {text : List Char}
    (left : dropTrailing drop text ≠ []) (front : List Char) :
    dropTrailing drop (front ++ text) = front ++ dropTrailing drop text := by
  have goesOn : ¬((text.reverse.dropWhile drop).isEmpty = true) := by
    simpa [dropTrailing] using left
  rw [dropTrailing, List.reverse_append, List.dropWhile_append, if_neg goesOn, List.reverse_append,
    List.reverse_reverse, dropTrailing]

theorem dropTrailing_subset (drop : Char → Bool) (text : List Char) :
    dropTrailing drop text ⊆ text := by
  intro c member
  rw [dropTrailing, List.mem_reverse] at member
  exact List.mem_reverse.mp ((List.dropWhile_sublist _).subset member)

theorem eq_of_mem_trailing {c d : Char} {text : List Char} (member : c ∈ trailing (· = d) text) :
    c = d := by
  rw [trailing, List.mem_reverse] at member
  simpa using List.mem_takeWhile_imp member

end Text

namespace Url

open PubSubProvisioning.Text (dropTrailing trailing trimBy)

theorem visible_append (first second : List Char) :
    visible (first ++ second) = visible first ++ visible second :=
  List.filter_append ..

/-! ## Schemes and paths -/

section Parts

variable {text : List Char} {url : Url}

theorem parts_of_fileUrl (read : fileUrl text = .ok url) :
    url.scheme = "file" ∧ ∃ list, url.path = .segments list := by
  rw [fileUrl] at read
  dsimp only at read
  split at read
  · cases read
    exact ⟨rfl, _, rfl⟩
  · split at read
    · cases read
      exact ⟨rfl, _, rfl⟩
    · obtain ⟨host, -, behindHost⟩ := bind_eq_ok_iff.mp read
      split at behindHost <;> cases behindHost <;> exact ⟨rfl, _, rfl⟩

theorem scheme_of_otherUrl {scheme : String} (read : otherUrl scheme text = .ok url) :
    url.scheme = scheme := by
  unfold otherUrl at read
  split at read
  · obtain ⟨parts, -, same⟩ := bind_eq_ok_iff.mp read
    cases same
    rfl
  · cases read
    rfl
  · cases read
    rfl

/-- A URL that is read has a path of segments, unless its scheme is one that the standard does not
know. -/
theorem exists_segments_of_parse {text : String} (read : parse text = .ok url)
    (known : schemeKind url.scheme ≠ .other) : ∃ list, url.path = .segments list := by
  rw [parse] at read
  dsimp only at read
  split at read
  · contradiction
  · rename_i scheme rest _
    split at read
    · exact (parts_of_fileUrl read).2
    · obtain ⟨parts, -, same⟩ := bind_eq_ok_iff.mp read
      cases same
      exact ⟨_, rfl⟩
    · rename_i kind
      rw [← scheme_of_otherUrl read] at kind
      contradiction

end Parts

/-- Characters that a scheme is written with. -/
def isSchemeLetter (c : Char) : Bool :=
  c.isAlphanum || c = '+' || c = '-' || c = '.'

/-- A scheme is found exactly if a word with a letter in front stands before a colon. -/
theorem splitScheme?_eq_some_iff {text rest : List Char} {scheme : String} :
    splitScheme? text = some (scheme, rest) ↔
      ∃ word, text = word ++ ':' :: rest ∧ (∀ c ∈ word, isSchemeLetter c = true) ∧
        word.head?.any Char.isAlpha = true ∧ String.ofList (word.map Char.toLower) = scheme := by
  constructor
  · intro found
    rw [splitScheme?, drop_length_takeWhile] at found
    split at found
    · rename_i behind shape
      obtain ⟨begins, same⟩ := Option.ite_none_right_eq_some.mp found
      obtain ⟨rfl, rfl⟩ := Prod.mk.inj (Option.some.inj same)
      have parts : text.takeWhile isSchemeLetter ++ text.dropWhile isSchemeLetter = text :=
        List.takeWhile_append_dropWhile
      have colon : text.dropWhile isSchemeLetter = ':' :: behind := shape
      rw [colon] at parts
      exact ⟨_, parts.symm, fun c => List.mem_takeWhile_imp, begins, rfl⟩
    · contradiction
  · rintro ⟨word, rfl, letters, begins, rfl⟩
    have plain : ∀ c ∈ word, (c.isAlphanum || c = '+' || c = '-' || c = '.') = true := letters
    have whole : (word ++ ':' :: rest).takeWhile
        (fun c => c.isAlphanum || c = '+' || c = '-' || c = '.') = word := by
      rw [List.takeWhile_append_of_pos plain, List.takeWhile_cons_of_neg (by decide),
        List.append_nil]
    rw [splitScheme?, whole, List.drop_left]
    simp [begins]

/-- The two schemes of HTTP. -/
def IsHttp (scheme : String) : Prop :=
  scheme = "http" ∨ scheme = "https"

theorem schemeKind_of_isHttp {scheme : String} (http : IsHttp scheme) :
    schemeKind scheme = .special := by
  rcases http with rfl | rfl <;> rfl

theorem isSpecial_of_isHttp {scheme : String} (http : IsHttp scheme) :
    (schemeKind scheme).isSpecial = true := by
  rw [schemeKind_of_isHttp http]
  rfl

/-- A text without the padding at its ends, as far as it belongs to a URL. -/
def seen (text : List Char) : List Char :=
  visible (trimBy (·.toNat ≤ 0x20) text)

/-- A text with a scheme of HTTP is read from what follows the scheme. -/
theorem parse_of_splitScheme? {text scheme : String} {rest : List Char} (http : IsHttp scheme)
    (found : splitScheme? (seen text.toList) = some (scheme, rest)) :
    parse text = (do
      let (authority, tail) ← readAuthority scheme (rest.dropWhile (isSlash true))
      pure (specialUrl scheme authority tail)) := by
  simp only [parse, seen] at found ⊢
  rw [found]
  simp only [schemeKind_of_isHttp http]

/-- What is read as a URL over HTTP has an authority behind its scheme. -/
theorem exists_authority_of_parse {text : String} {url : Url} (read : parse text = .ok url)
    (http : IsHttp url.scheme) :
    ∃ rest authority tail, splitScheme? (seen text.toList) = some (url.scheme, rest) ∧
      readAuthority url.scheme (rest.dropWhile (isSlash true)) = .ok (authority, tail) ∧
      url = specialUrl url.scheme authority tail := by
  rw [parse] at read
  dsimp only at read
  split at read
  · contradiction
  · rename_i scheme rest found
    split at read
    · rw [(parts_of_fileUrl read).1] at http
      simp [IsHttp] at http
    · obtain ⟨⟨authority, tail⟩, front, same⟩ := bind_eq_ok_iff.mp read
      cases same
      exact ⟨rest, authority, tail, found, front, rfl⟩
    · rename_i kind
      rw [← scheme_of_otherUrl read, schemeKind_of_isHttp http] at kind
      contradiction

/-! ## Authorities and paths behind them -/

/-- What follows the scheme and the slashes of a special URL. -/
def authorityText (text : List Char) : List Char :=
  (visible text).dropWhile (isSlash true)

/-- A text without the padding at its end. -/
def unpadded (text : List Char) : List Char :=
  dropTrailing (·.toNat ≤ 0x20) text

/-- The padding at the end of a text, as far as it belongs to a URL. -/
def endPadding (text : List Char) : List Char :=
  visible (trailing (·.toNat ≤ 0x20) text)

/-- What can be seen of a text with a scheme of HTTP and a colon in front. -/
theorem seen_behind_colon {scheme : String} (http : IsHttp scheme) (rest : List Char) :
    seen (scheme.toList ++ ':' :: rest) = scheme.toList ++ ':' :: visible (unpadded rest) := by
  rcases http with rfl | rfl
  · have cut : unpadded (['h', 't', 't', 'p'] ++ ':' :: rest) = _ :=
      Text.dropTrailing_append_cons rfl _ rest
    exact congrArg visible cut
  · have cut : unpadded (['h', 't', 't', 'p', 's'] ++ ':' :: rest) = _ :=
      Text.dropTrailing_append_cons rfl _ rest
    exact congrArg visible cut

/-- A text with a scheme of HTTP and a colon in front is read from what follows them, without the
padding at its end. -/
theorem parse_behind_colon {scheme text : String} {rest : List Char} (http : IsHttp scheme)
    (shape : text.toList = scheme.toList ++ ':' :: rest) :
    parse text = (do
      let (authority, tail) ← readAuthority scheme (authorityText (unpadded rest))
      pure (specialUrl scheme authority tail)) := by
  have found : splitScheme? (seen text.toList) = some (scheme, visible (unpadded rest)) := by
    rw [shape, seen_behind_colon http, splitScheme?_eq_some_iff]
    refine ⟨scheme.toList, rfl, ?_⟩
    rcases http with rfl | rfl
    · exact ⟨by simp [isSchemeLetter], rfl, rfl⟩
    · exact ⟨by simp [isSchemeLetter], rfl, rfl⟩
  rw [parse_of_splitScheme? http found]
  rfl

/-- Two slashes behind the colon have no part in what is read. -/
theorem parse_behind_scheme {scheme : String} (http : IsHttp scheme) (text : List Char) :
    parse (scheme ++ "://" ++ String.ofList text) = (do
      let (authority, rest) ← readAuthority scheme (authorityText (unpadded text))
      pure (specialUrl scheme authority rest)) := by
  have shape : (scheme ++ "://" ++ String.ofList text).toList =
      scheme.toList ++ ':' :: '/' :: '/' :: text := by simp
  have cut : unpadded (['/'] ++ '/' :: text) = ['/'] ++ '/' :: unpadded text :=
    Text.dropTrailing_append_cons rfl _ text
  have slashes : authorityText (unpadded ('/' :: '/' :: text)) =
      authorityText ('/' :: '/' :: unpadded text) :=
    congrArg authorityText cut
  rw [parse_behind_colon http shape, slashes]
  rfl

theorem parse_behind_scheme_eq_ok_iff {scheme : String} (http : IsHttp scheme) {text : List Char}
    {url : Url} :
    parse (scheme ++ "://" ++ String.ofList text) = .ok url ↔
      ∃ authority rest,
        readAuthority scheme (authorityText (unpadded text)) = .ok (authority, rest) ∧
          specialUrl scheme authority rest = url := by
  rw [parse_behind_scheme http, bind_eq_ok_iff]
  constructor
  · rintro ⟨⟨authority, rest⟩, front, same⟩
    exact ⟨authority, rest, front, Except.ok.inj same⟩
  · rintro ⟨authority, rest, front, rfl⟩
    exact ⟨(authority, rest), front, rfl⟩

/-- An endpoint is read from what follows its scheme, without the padding at its end. -/
theorem parse_http (text : List Char) :
    parse (PushEndpoint.scheme ++ String.ofList text) = (do
      let (authority, rest) ← readAuthority "http" (authorityText (unpadded text))
      pure (specialUrl "http" authority rest)) :=
  parse_behind_scheme (.inl rfl) text

theorem isPadding_of_mem_endPadding {text : List Char} {c : Char} (member : c ∈ endPadding text) :
    IsPadding c := by
  have cut := (List.mem_filter.mp member).1
  rw [trailing, List.mem_reverse] at cut
  have low := List.mem_takeWhile_imp cut
  simpa [IsPadding] using low

/-- What comes behind an authority text that is not empty is just added to it. -/
theorem authorityText_append {text : List Char} (present : authorityText (unpadded text) ≠ [])
    (more : List Char) :
    authorityText (text ++ more) =
      authorityText (unpadded text) ++ (endPadding text ++ visible more) := by
  have parts : text = unpadded text ++ trailing (·.toNat ≤ 0x20) text :=
    (Text.dropTrailing_append_trailing _ text).symm
  have there : ¬(((visible (unpadded text)).dropWhile (isSlash true)).isEmpty = true) := by
    simpa [authorityText] using present
  conv =>
    lhs
    rw [parts]
  rw [authorityText, List.append_assoc, visible_append, visible_append, List.dropWhile_append,
    if_neg there]
  rfl

theorem takeWhile_append_of_not_all {holds : Char → Bool} {text : List Char}
    (stops : text.all holds = false) (more : List Char) :
    (text ++ more).takeWhile holds = text.takeWhile holds := by
  rw [List.takeWhile_append, if_neg]
  intro whole
  have all := List.takeWhile_eq_self_iff.mp ((List.takeWhile_prefix holds).eq_of_length whole)
  rw [List.all_eq_true.mpr all] at stops
  contradiction

/-- Whether a text ends in padding right behind an authority. -/
def endsInPadding (text : List Char) : Bool :=
  !(endPadding text).isEmpty && (authorityText text).all (!endsAuthority true ·)

section Behind

variable {scheme : String} {text rest : List Char} {authority : Authority}

/-- Without an authority text there is no authority. -/
theorem authorityText_ne_nil (special : (schemeKind scheme).isSpecial = true)
    (read : readAuthority scheme text = .ok (authority, rest)) : text ≠ [] := by
  rintro rfl
  rw [readAuthority_of_hostless special rfl] at read
  contradiction

/-- What a path is written behind ends in the padding that is cut off where none is. -/
theorem authorityText_eq_append_endPadding (present : authorityText (unpadded text) ≠ []) :
    authorityText text = authorityText (unpadded text) ++ endPadding text := by
  have extended := authorityText_append present []
  rwa [List.append_nil, show visible [] = [] from rfl, List.append_nil] at extended

/-- A path behind a URL ends its authority where the URL does, unless it ends in padding there. -/
theorem takeWhile_authorityText_append_path (present : authorityText (unpadded text) ≠ [])
    (harmless : endsInPadding text = false) (path : List Char) :
    (authorityText (text ++ '/' :: path)).takeWhile (!endsAuthority true ·) =
      (authorityText (unpadded text)).takeWhile (!endsAuthority true ·) := by
  have slash : visible ('/' :: path) = '/' :: visible path := rfl
  rw [authorityText_append present, slash]
  by_cases within : (authorityText (unpadded text)).all (!endsAuthority true ·) = true
  · cases cut : endPadding text with
    | nil =>
        rw [List.nil_append, List.takeWhile_append_of_pos (List.all_eq_true.mp within),
          List.takeWhile_eq_self_iff.mpr (List.all_eq_true.mp within)]
        exact List.append_nil _
    | cons c more =>
        have padded : (c :: more).all (!endsAuthority true ·) = true := by
          rw [List.all_eq_true, ← cut]
          intro d member
          rw [(not_of_padding (isPadding_of_mem_endPadding member)).1]
          rfl
        rw [endsInPadding, authorityText_eq_append_endPadding present, List.all_append, within, cut,
          padded] at harmless
        contradiction
  · exact takeWhile_append_of_not_all (Bool.eq_false_iff.mpr within) _

/-- A path behind padding that is right behind an authority leaves none to be read. -/
theorem readAuthority_of_endsInPadding (special : (schemeKind scheme).isSpecial = true)
    (present : authorityText (unpadded text) ≠ []) (ends : endsInPadding text = true)
    (path : List Char) :
    ∃ reason, readAuthority scheme (authorityText (text ++ '/' :: path)) = .error reason := by
  have slash : visible ('/' :: path) = '/' :: visible path := rfl
  rw [endsInPadding, authorityText_eq_append_endPadding present, List.all_append, Bool.and_eq_true,
    Bool.and_eq_true, List.all_eq_true] at ends
  obtain ⟨padded, within, -⟩ := ends
  rw [authorityText_append present, slash, ← List.append_assoc]
  apply readAuthority_of_padding special (by simpa using within) (by simpa using padded)
  exact fun c => isPadding_of_mem_endPadding

end Behind

/-- A path behind a URL leaves its authority as it is, unless the URL ends in padding there. -/
theorem readAuthority_append_path {text rest : List Char} {authority : Authority}
    (read : readAuthority "http" (authorityText (unpadded text)) = .ok (authority, rest))
    (path : List Char) :
    (endsInPadding text = false →
      ∃ behind,
        readAuthority "http" (authorityText (text ++ '/' :: path)) = .ok (authority, behind)) ∧
    (endsInPadding text = true →
      ∃ reason, readAuthority "http" (authorityText (text ++ '/' :: path)) = .error reason) := by
  have special : (schemeKind "http").isSpecial = true := rfl
  have present := authorityText_ne_nil special read
  constructor
  · intro harmless
    exact readAuthority_of_same_front special
      (takeWhile_authorityText_append_path present harmless path) read
  · intro ends
    exact readAuthority_of_endsInPadding special present ends path

/-- A URL of an endpoint is accepted exactly if its authority can be read and names a host. -/
theorem checkUrl_http_eq_ok_iff {field : String} {text : List Char} :
    checkUrl field (PushEndpoint.scheme ++ String.ofList text) = .ok () ↔
      ∃ authority rest,
        readAuthority "http" (authorityText (unpadded text)) = .ok (authority, rest) ∧
          authority.host.text ≠ "" := by
  have present : PushEndpoint.scheme ++ String.ofList text ≠ "" := by
    intro empty
    have letters := congrArg String.toList empty
    simp [PushEndpoint.scheme] at letters
  rw [checkUrl, if_neg present, parse_http]
  cases read : readAuthority "http" (authorityText (unpadded text)) with
  | error reason => simp [bind, Except.bind]
  | ok found =>
      rcases found with ⟨authority, rest⟩
      have scheme : (specialUrl "http" authority rest).scheme = "http" := rfl
      have same : (specialUrl "http" authority rest).authority = some authority := rfl
      simp [bind, Except.bind, pure, Except.pure, scheme, same]

end Url

end PubSubProvisioning
