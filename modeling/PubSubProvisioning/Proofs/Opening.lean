import PubSubProvisioning.Proofs.LocalEndpoint
import PubSubProvisioning.Proofs.ResourceUrl

/-!
# Opening sessions

A session is opened on the endpoint that the settings name.  Whatever the environment says, a scheme
of HTTP and its colon stand in front of that endpoint: the slashes at the end of a host are cut off,
but never the colon, even where nothing is left behind it.  So the endpoint is a URL over HTTP, or
it is none because of its host or its port.  It is never a URL that takes no paths.

Other settings may name such a URL, but no session is opened on it.  So every resource of a session
has a URL.
-/

namespace PubSubProvisioning

namespace Url

/-! ## Addresses that cannot be read -/

/-- Whether a text is no URL because of its host or its port. -/
def ParseError.isOfAddress : ParseError → Bool
  | .emptyHost | .domainName | .ipv4Address | .ipv6Address | .port => true
  | .domainCharacter | .relative => false

section Refused

variable {scheme : String} {text part rest : List Char} {reason : ParseError}

theorem isOfAddress_of_domainHost (refused : domainHost text = .error reason) :
    reason.isOfAddress = true := by
  rw [domainHost] at refused
  split at refused
  · rw [bracketedHost] at refused
    split at refused
    · contradiction
    · cases refused
      rfl
  · split at refused
    · cases refused
      rfl
    · cases refused
      rfl
    · split at refused
      · split at refused
        · contradiction
        · cases refused
          rfl
      · contradiction

theorem isOfAddress_of_portBefore? (refused : portBefore? scheme part rest = .error reason) :
    reason.isOfAddress = true := by
  unfold portBefore? at refused
  split at refused
  · rw [port?] at refused
    split at refused
    · cases refused
      rfl
    · split at refused <;> contradiction
  · contradiction

/-- The name and the password of an authority are never at fault. -/
theorem isOfAddress_of_readAuthority (special : (schemeKind scheme).isSpecial = true)
    (refused : readAuthority scheme text = .error reason) : reason.isOfAddress = true := by
  by_cases hostless : hostPart (addressPart (text.takeWhile (!endsAuthority true ·))) = []
  · rw [readAuthority_of_hostless special hostless] at refused
    cases refused
    rfl
  · rw [readAuthority_of_hostful special text hostless] at refused
    rcases bind_eq_error_iff.mp refused with unnamed | ⟨host, -, behindHost⟩
    · exact isOfAddress_of_domainHost unnamed
    · rcases bind_eq_error_iff.mp behindHost with unnumbered | ⟨numbered, -, behindPort⟩
      · exact isOfAddress_of_portBefore? unnumbered
      · contradiction

end Refused

/-! ## Texts that name HTTP -/

/-- A scheme of HTTP and a colon stand in front of a text, whatever follows. -/
def NamesHttp (text : String) : Prop :=
  ∃ scheme rest, IsHttp scheme ∧ text.toList = scheme.toList ++ ':' :: rest

/-- A text that names HTTP is a URL over HTTP, or none because of its host or its port. -/
theorem NamesHttp.read {text : String} (names : NamesHttp text) :
    (∃ url, parse text = .ok url ∧ IsHttp url.scheme) ∨
      ∃ reason, parse text = .error reason ∧ reason.isOfAddress = true := by
  obtain ⟨scheme, rest, http, shape⟩ := names
  rw [parse_behind_colon http shape]
  cases front : readAuthority scheme (authorityText (unpadded rest)) with
  | error reason =>
      right
      have ofAddress := isOfAddress_of_readAuthority (isSpecial_of_isHttp http) front
      exact ⟨reason, rfl, ofAddress⟩
  | ok parts =>
      left
      exact ⟨specialUrl scheme parts.1 parts.2, rfl, http⟩

/-! ## URLs that take paths -/

theorem isBase_of_parse {text : String} {url : Url} (read : parse text = .ok url)
    (http : IsHttp url.scheme) : url.isBase = true := by
  have known : schemeKind url.scheme ≠ .other := by simp [schemeKind_of_isHttp http]
  exact isBase_iff.mpr (exists_segments_of_parse read known)

/-- Whatever is added, only the URL decides whether it can be. -/
theorem isSome_append? (url : Url) (added : List String) :
    (url.append? added).isSome = url.isBase := by
  rw [append?, isBase]
  cases url.path <;> rfl

/-- That nothing can be added to a URL is no reason for a text to be none. -/
theorem ParseError.message_ne_notBase (reason : ParseError) : reason.message ≠ "not a base URL" := by
  cases reason <;> decide

end Url

/-! ## Endpoints of the environment -/

namespace ServiceSettings

open PubSubProvisioning.Text (dropTrailing)

/-- Slashes are cut off behind the colon of a scheme that is noticed, and any other host gets a
scheme.
-/
theorem namesHttp_localEndpoint (host : String) : Url.NamesHttp (localEndpoint host) := by
  cases stated : statesScheme host with
  | true =>
      obtain ⟨scheme, text, http, rfl⟩ := exists_of_statesScheme stated
      have shape : (scheme ++ "://" ++ String.ofList text).toList =
          scheme.toList ++ ':' :: '/' :: '/' :: text := by simp
      refine ⟨scheme, dropTrailing (· = '/') ('/' :: '/' :: text), http, ?_⟩
      rw [localEndpoint, if_pos stated, String.toList_ofList, shape]
      exact Text.dropTrailing_append_cons rfl _ _
  | false =>
      refine ⟨"http", '/' :: '/' :: dropTrailing (· = '/') host.toList, .inl rfl, ?_⟩
      rw [localEndpoint, if_neg (by simp [stated])]
      simp

theorem namesHttp_ofEnvironment (environment : Environment) :
    Url.NamesHttp (ofEnvironment environment).endpoint := by
  have published : Url.NamesHttp publicEndpoint :=
    ⟨"https", "//pubsub.googleapis.com".toList, .inr rfl, by decide⟩
  rw [ofEnvironment]
  cases filled? environment "PUBSUB_EMULATOR_HOST" with
  | some host => exact namesHttp_localEndpoint host
  | none => exact published

end ServiceSettings

/-! ## Sessions -/

namespace Rest.Session

section Opened

variable {settings : ServiceSettings} {project : String} {session : Session}

/-- An endpoint that is no URL is reported with the reason why it is none. -/
theorem open?_of_unread {reason : Url.ParseError} (named : project ≠ "")
    (unread : Url.parse settings.endpoint = .error reason) :
    open? settings project = .error (.invalidEndpoint settings.endpoint reason.message) := by
  rw [open?, if_neg named, unread]

/-- Whatever the endpoint is, paths can be added to the base of a session. -/
theorem exists_append? (opened : open? settings project = .ok session) (added : List String) :
    ∃ url, session.base.append? added = some url := by
  obtain ⟨-, base, -, isBase, rfl⟩ := open?_eq_ok_iff.mp opened
  rw [← Option.isSome_iff_exists, Url.isSome_append?]
  exact isBase

theorem exists_resourceUrl (opened : open? settings project = .ok session)
    (collection : Collection) (id : String) :
    ∃ url, session.resourceUrl collection id = .ok url := by
  obtain ⟨url, extended⟩ :=
    exists_append? opened ["v1", "projects", session.project, collection.name, id]
  exact ⟨url, by rw [resourceUrl, extended]⟩

end Opened

/-- With the settings of any environment a session is opened on the URL that the endpoint is, which
is one over HTTP, or the endpoint is no URL because of its host or its port.  That it takes no paths
is never the reason.  And whatever settings a session is opened with, paths can be added to its
base, so that each of its resources has a URL. -/
theorem open?_fails_only_on_address (environment : Environment) {project : String}
    (named : project ≠ "") :
    let settings := ServiceSettings.ofEnvironment environment
    ((∃ base, Url.parse settings.endpoint = .ok base ∧ Url.IsHttp base.scheme ∧
        open? settings project = .ok ⟨base, project, settings.accessToken⟩) ∨
      ∃ reason, Url.parse settings.endpoint = .error reason ∧ reason.isOfAddress = true ∧
        open? settings project = .error (.invalidEndpoint settings.endpoint reason.message)) ∧
    (∀ endpoint, open? settings project ≠ .error (.invalidEndpoint endpoint "not a base URL")) ∧
    ∀ (any : ServiceSettings) (anyProject : String) (session : Session),
      open? any anyProject = .ok session →
        (∀ added, ∃ url, session.base.append? added = some url) ∧
        ∀ collection id, ∃ url, session.resourceUrl collection id = .ok url := by
  intro settings
  have names : Url.NamesHttp settings.endpoint := ServiceSettings.namesHttp_ofEnvironment environment
  refine and_assoc.mp ⟨?_, ?_⟩
  · rcases names.read with ⟨base, read, http⟩ | ⟨reason, unread, ofAddress⟩
    · have isBase := Url.isBase_of_parse read http
      have opened : open? settings project = .ok ⟨base, project, settings.accessToken⟩ :=
        open?_eq_ok_iff.mpr ⟨named, base, read, isBase, rfl⟩
      refine ⟨.inl ⟨base, read, http, opened⟩, ?_⟩
      intro endpoint refused
      rw [opened] at refused
      contradiction
    · have failed := open?_of_unread named unread
      refine ⟨.inr ⟨reason, unread, ofAddress, failed⟩, ?_⟩
      intro endpoint refused
      rw [failed] at refused
      injection refused with same
      injection same with _ message
      exact reason.message_ne_notBase message
  · intro any anyProject session opened
    exact ⟨exists_append? opened, exists_resourceUrl opened⟩

/-- Of a scheme with nothing but slashes behind it the scheme and its colon are left, which is no
URL for want of a host.  A session that other settings open on local files has a URL for every
topic, even for one that is named like a step back. -/
theorem open?_fails_on_bare_scheme :
    let settings := ServiceSettings.ofEnvironment ⟨[("PUBSUB_EMULATOR_HOST", "http://")]⟩
    let session : Session :=
      ⟨⟨"file", some { host := .name "" }, false, .segments ["srv"], none, none⟩, "p", none⟩
    "p" ≠ "" ∧ settings.endpoint = "http:" ∧
      open? settings "p" = .error (.invalidEndpoint "http:" "empty host") ∧
      (∀ endpoint, open? settings "p" ≠ .error (.invalidEndpoint endpoint "not a base URL")) ∧
      open? { endpoint := "file:///srv" } "p" = .ok session ∧
      ∃ url, session.resourceUrl .topics ".." = .ok url := by
  intro settings session
  have named : "p" ≠ "" := by decide
  have endpoint : settings.endpoint = "http:" := by decide +kernel
  have unread : Url.parse settings.endpoint = .error .emptyHost := by decide +kernel
  have opened : open? { endpoint := "file:///srv" } "p" = .ok session := by decide +kernel
  obtain ⟨ends, never, paths⟩ :=
    open?_fails_only_on_address ⟨[("PUBSUB_EMULATOR_HOST", "http://")]⟩ named
  have failed : open? settings "p" = .error (.invalidEndpoint "http:" "empty host") := by
    rcases ends with ⟨base, read, -⟩ | ⟨reason, same, -, failed⟩
    · rw [unread] at read
      contradiction
    · rw [unread] at same
      cases same
      rw [← endpoint]
      exact failed
  exact ⟨named, endpoint, failed, never, opened, (paths _ _ _ opened).2 .topics ".."⟩

/-- Without the scheme that it gets, a host with a port would be a URL that takes no paths. -/
example : open? { endpoint := "localhost:8085" } "p" =
    .error (.invalidEndpoint "localhost:8085" "not a base URL") := by
  decide +kernel

end Rest.Session

end PubSubProvisioning
