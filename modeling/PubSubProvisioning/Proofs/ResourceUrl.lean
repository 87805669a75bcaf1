import Mathlib.Control.Monad.Basic
import PubSubProvisioning.Proofs.AddedSegments
import PubSubProvisioning.Rest

/-!
# The URLs of resources

Five segments behind the path of the service should name a resource: the version, the projects, the
project, its collection, and the resource itself.  They do so exactly if the IDs of the project and
of the resource read back from a path.  An ID that does not shares its URL with another one.
-/

namespace PubSubProvisioning

open PubSubProvisioning.Unicode (Utf8.encode Utf8.encode_inj)
open PubSubProvisioning.Url (appendSegment isFaithful octets segmentOf stem)

/-- The segments of a URL that what is added follows. -/
def Url.root (url : Url) : List String :=
  match url.path with
  | .segments list => stem (withoutEmptyEnd list)
  | .rootless _ => []

theorem Url.isBase_iff {url : Url} : url.isBase = true ↔ ∃ list, url.path = .segments list := by
  rw [isBase]
  cases url.path <;> simp

namespace Rest

theorem Collection.name_inj {first second : Collection} :
    first.name = second.name ↔ first = second := by
  cases first <;> cases second <;> decide

namespace Session

/-- A URL addresses a resource if the last five segments of its path read back as the place of the
resource, and the ones before them are those of the service. -/
def Addresses (session : Session) (url : Url) (collection : Collection) (id : String) : Prop :=
  ∃ last : List String, url.path = .segments (session.base.root ++ last) ∧
    last.map octets = ["v1", "projects", session.project, collection.name, id].map
      fun text => Utf8.encode text.toList

/-! ## Segments of a session -/

/-- The segments of everything in the project of a session. -/
def projectSegments (session : Session) : List String :=
  appendSegment .special (session.base.root ++ ["v1", "projects"]) session.project

/-- The segments of a resource. -/
def resourceSegments (session : Session) (collection : Collection) (id : String) : List String :=
  appendSegment .special (session.projectSegments ++ [collection.name]) id

/-- The segment that a project is added behind. -/
theorem root_append_projects (session : Session) :
    session.base.root ++ ["v1", "projects"] = session.base.root ++ ["v1"] ++ ["projects"] := by
  simp

/-- A project that is not faithful is left out, becomes another segment, or takes the last one away.
-/
theorem projectSegments_of_unfaithful {session : Session}
    (unfaithful : isFaithful session.project = false) :
    session.projectSegments = session.base.root ++ ["v1", "projects"] ∨
      (∃ other, session.projectSegments = session.base.root ++ ["v1", "projects", other] ∧
        octets other ≠ Utf8.encode session.project.toList) ∨
      session.projectSegments = session.base.root ++ ["v1", ""] := by
  have named : "projects" ≠ "" := by decide
  have noDrive : Url.beginsWithDriveLetter "projects".toList = false := rfl
  rw [projectSegments, root_append_projects]
  rcases Url.appendSegment_of_unfaithful (session.base.root ++ ["v1"]) named noDrive unfaithful with
    ⟨out, -⟩ | ⟨other, becomes, differs⟩ | ⟨away, -⟩
  · left
    exact out
  · right
    left
    have shown : Url.appendSegment .special (session.base.root ++ ["v1"] ++ ["projects"])
        session.project = session.base.root ++ ["v1", "projects", other] := by
      rw [becomes, List.append_assoc]
      rfl
    exact ⟨other, shown, differs⟩
  · right
    right
    rw [away, List.append_assoc]
    rfl

theorem projectSegments_of_faithful {session : Session}
    (faithful : isFaithful session.project = true) :
    session.projectSegments =
      session.base.root ++ ["v1", "projects", segmentOf session.project.toList] := by
  rw [projectSegments, Url.appendSegment_of_faithful faithful, root_append_projects,
    Url.stem_append_singleton _ (by decide)]
  simp

/-- More than one segment always comes before those of resources. -/
theorem stem_projectSegments (session : Session) :
    stem session.projectSegments = session.projectSegments := by
  have long : session.projectSegments.length ≠ 1 := by
    cases faithful : isFaithful session.project with
    | true =>
        rw [projectSegments_of_faithful faithful]
        simp
    | false =>
        rcases projectSegments_of_unfaithful faithful with out | ⟨other, becomes, -⟩ | away
        · simp [out]
        · simp [becomes]
        · simp [away]
  rw [stem, if_neg]
  intro alone
  simp [alone] at long

/-- Where the service has a path of segments, each resource has a URL. -/
theorem resourceUrl_eq {session : Session} {list : List String}
    (segmented : session.base.path = .segments list)
    (special : Url.schemeKind session.base.scheme = .special) (collection : Collection)
    (id : String) :
    session.resourceUrl collection id =
      .ok { session.base with path := .segments (session.resourceSegments collection id) } := by
  have word (text : String) (faithful : isFaithful text = true)
      (same : segmentOf text.toList = text) (segments : List String) :
      appendSegment .special segments text = stem segments ++ [text] := by
    rw [Url.appendSegment_of_faithful faithful, same]
  have version := word "v1" (by decide) (by decide)
  have projects := word "projects" (by decide) (by decide)
  have collected := word collection.name (by cases collection <;> decide)
    (by cases collection <;> decide)
  have root : session.base.root = stem (Url.withoutEmptyEnd list) := by
    rw [Url.root, segmented]
  have numbered : "v1" ≠ "" := by decide
  have project : appendSegment .special
      (stem (stem (Url.withoutEmptyEnd list) ++ ["v1"]) ++ ["projects"]) session.project =
        session.projectSegments := by
    rw [Url.stem_append_singleton _ numbered, List.append_assoc, ← root]
    rfl
  simp only [resourceUrl, Url.append?, segmented, special, List.foldl_cons, List.foldl_nil,
    version, projects, collected, project, stem_projectSegments, resourceSegments]

/-- A resource with a faithful ID has a segment of its own behind that of its collection. -/
theorem resourceSegments_of_faithful {session : Session} {collection : Collection} {id : String}
    (faithful : isFaithful id = true) :
    session.resourceSegments collection id =
      session.projectSegments ++ [collection.name, segmentOf id.toList] := by
  have named : collection.name ≠ "" := by cases collection <;> decide
  rw [resourceSegments, Url.appendSegment_of_faithful faithful,
    Url.stem_append_singleton _ named, List.append_assoc]
  rfl

/-- The last segment of a resource without a faithful ID does not read back as the ID. -/
theorem octets_getLast?_of_unfaithful {session : Session} {collection : Collection} {id : String}
    (unfaithful : isFaithful id = false) {last : String}
    (isLast : (session.resourceSegments collection id).getLast? = some last) :
    octets last ≠ Utf8.encode id.toList := by
  have named : collection.name ≠ "" := by cases collection <;> decide
  have noDrive : Url.beginsWithDriveLetter collection.name.toList = false := by
    cases collection <;> rfl
  rw [resourceSegments] at isLast
  rcases Url.appendSegment_of_unfaithful session.projectSegments named noDrive unfaithful with
    ⟨out, dots⟩ | ⟨other, becomes, differs⟩ | ⟨away, nonempty⟩
  · rw [out, List.getLast?_concat] at isLast
    cases isLast
    rcases dots with rfl | rfl <;> cases collection <;> decide
  · rw [becomes, List.getLast?_append] at isLast
    cases isLast
    exact differs
  · rw [away, List.getLast?_concat] at isLast
    cases isLast
    intro same
    exact nonempty (String.toList_inj.mp (Utf8.encode_inj.mp same).symm)

/-- Segments that five follow on the path of the service hold the project of a session only if it is
faithful. -/
theorem projectSegments_of_places {session : Session} {first second third : String}
    (places : session.projectSegments = session.base.root ++ [first, second, third])
    (reads : octets third = Utf8.encode session.project.toList) :
    isFaithful session.project = true := by
  cases faithful : isFaithful session.project with
  | true => rfl
  | false =>
      rcases projectSegments_of_unfaithful faithful with out | ⟨other, becomes, differs⟩ | away
      · rw [out] at places
        have short := List.append_cancel_left places
        simp at short
      · rw [becomes] at places
        have same := List.append_cancel_left places
        obtain rfl : other = third := by simpa using (List.cons.inj (List.cons.inj same).2).2
        exact absurd reads differs
      · rw [away] at places
        have short := List.append_cancel_left places
        simp at short

/-! ## What URLs address -/

/-- The segments of a resource are its place exactly if both IDs are faithful. -/
theorem resourceSegments_places_iff {session : Session} {collection : Collection} {id : String} :
    (∃ last : List String,
      session.resourceSegments collection id = session.base.root ++ last ∧
        last.map octets = ["v1", "projects", session.project, collection.name, id].map
          fun text => Utf8.encode text.toList) ↔
      isFaithful session.project = true ∧ isFaithful id = true := by
  constructor
  · rintro ⟨last, places, reads⟩
    obtain ⟨first, second, third, fourth, fifth, rfl⟩ :
        ∃ first second third fourth fifth, last = [first, second, third, fourth, fifth] := by
      have five : last.length = 5 := by simpa using congrArg List.length reads
      match last, five with
      | [first, second, third, fourth, fifth], _ => exact ⟨_, _, _, _, _, rfl⟩
    simp only [List.map_cons, List.map_nil, List.cons.injEq, and_true] at reads
    obtain ⟨-, -, readsProject, -, readsId⟩ := reads
    have faithful : isFaithful id = true := by
      cases unfaithful : isFaithful id with
      | true => rfl
      | false =>
          have isLast : (session.resourceSegments collection id).getLast? = some fifth := by
            simp [places]
          exact absurd readsId (octets_getLast?_of_unfaithful unfaithful isLast)
    rw [resourceSegments_of_faithful faithful] at places
    have split : session.base.root ++ [first, second, third, fourth, fifth] =
        (session.base.root ++ [first, second, third]) ++ [fourth, fifth] := by simp
    rw [split] at places
    have front := (List.append_inj' places rfl).1
    exact ⟨projectSegments_of_places front readsProject, faithful⟩
  · rintro ⟨projectFaithful, faithful⟩
    apply Exists.intro ["v1", "projects", segmentOf session.project.toList, collection.name,
      segmentOf id.toList]
    constructor
    · rw [resourceSegments_of_faithful faithful, projectSegments_of_faithful projectFaithful]
      simp
    · have named : octets collection.name = Utf8.encode collection.name.toList := by
        cases collection <;> decide
      have version : octets "v1" = Utf8.encode "v1".toList := by decide
      have projects : octets "projects" = Utf8.encode "projects".toList := by decide
      simp only [List.map_cons, List.map_nil, Url.octets_segmentOf, named, version, projects]

/-- Resources with faithful IDs have different segments. -/
theorem resourceSegments_inj {session : Session} {collection other : Collection}
    {id otherId : String} (faithful : isFaithful id = true)
    (otherFaithful : isFaithful otherId = true)
    (same : session.resourceSegments other otherId = session.resourceSegments collection id) :
    other = collection ∧ otherId = id := by
  rw [resourceSegments_of_faithful faithful, resourceSegments_of_faithful otherFaithful] at same
  have places := List.append_cancel_left same
  simp only [List.cons.injEq, and_true] at places
  constructor
  · exact Collection.name_inj.mp places.1
  · have reads := congrArg octets places.2
    rw [Url.octets_segmentOf, Url.octets_segmentOf] at reads
    exact String.toList_inj.mp (Utf8.encode_inj.mp reads)

/-- A session is opened exactly if the project has an ID and the endpoint is a URL to which paths
can be added. -/
theorem open?_eq_ok_iff {settings : ServiceSettings} {project : String} {session : Session} :
    open? settings project = .ok session ↔
      project ≠ "" ∧ ∃ base, Url.parse settings.endpoint = .ok base ∧ base.isBase = true ∧
        session = ⟨base, project, settings.accessToken⟩ := by
  by_cases unnamed : project = ""
  · simp [open?, unnamed]
  · cases read : Url.parse settings.endpoint with
    | error reason => simp [open?, unnamed, read]
    | ok base =>
        cases isBase : base.isBase with
        | false => simp [open?, unnamed, read, isBase]
        | true =>
            rw [open?, if_neg unnamed, read]
            simp [isBase, unnamed, eq_comm (a := session)]

/-- A session is opened for a project, and on a service whose path can be added to. -/
theorem of_open? {settings : ServiceSettings} {project : String} {session : Session}
    (opened : open? settings project = .ok session) :
    session.project = project ∧ ∃ list, session.base.path = .segments list := by
  obtain ⟨-, base, -, isBase, rfl⟩ := open?_eq_ok_iff.mp opened
  exact ⟨rfl, Url.isBase_iff.mp isBase⟩

/-- Over HTTP every resource of a session has a URL, and the URL addresses it exactly if the IDs of
the project and of the resource are faithful.  Two resources with faithful IDs never share a URL,
while an ID that is not faithful shares its URL with another one. -/
theorem resourceUrl_addresses_iff {settings : ServiceSettings} {project : String}
    {session : Session} (opened : open? settings project = .ok session)
    (http : session.base.scheme = "http" ∨ session.base.scheme = "https")
    (collection : Collection) (id : String) :
    ∃ url, session.resourceUrl collection id = .ok url ∧
      (session.Addresses url collection id ↔ isFaithful project = true ∧ isFaithful id = true) ∧
      (isFaithful id = true → ∀ other otherId, isFaithful otherId = true →
        session.resourceUrl other otherId = .ok url → other = collection ∧ otherId = id) ∧
      (isFaithful id = false → ∃ otherId, otherId ≠ id ∧
        session.resourceUrl collection otherId = .ok url) := by
  obtain ⟨rfl, list, segmented⟩ := of_open? opened
  have special : Url.schemeKind session.base.scheme = .special := by
    rcases http with same | same <;> rw [same] <;> rfl
  have urls := resourceUrl_eq segmented special
  apply Exists.intro
  constructor
  · exact urls collection id
  constructor
  · simp only [Addresses, Url.Path.segments.injEq]
    exact resourceSegments_places_iff
  constructor
  · intro faithful other otherId otherFaithful same
    rw [urls other otherId] at same
    simp only [Except.ok.injEq, Url.mk.injEq, Url.Path.segments.injEq, true_and, and_true] at same
    exact resourceSegments_inj faithful otherFaithful same
  · intro unfaithful
    obtain ⟨otherId, different, same⟩ := Url.exists_same_of_unfaithful unfaithful
    apply Exists.intro otherId
    constructor
    · exact different
    · rw [urls collection otherId, resourceSegments, same]
      rfl

/-- Slashes and percent signs in an ID make no segments of their own. -/
theorem resourceUrl_addresses_slashes :
    let session : Session :=
      ⟨⟨"http", some { host := .name "localhost", port := some 8085 }, false, .segments [""], none,
        none⟩, "p", none⟩
    open? { endpoint := "http://localhost:8085" } "p" = .ok session ∧
      session.base.scheme = "http" ∧ isFaithful "p" = true ∧ isFaithful "a/b%2F" = true ∧
      ∃ url, session.resourceUrl .topics "a/b%2F" = .ok url ∧
        session.Addresses url .topics "a/b%2F" := by
  intro session
  have opened : open? { endpoint := "http://localhost:8085" } "p" = .ok session := by
    decide +kernel
  have projectFaithful : isFaithful "p" = true := by decide
  have faithful : isFaithful "a/b%2F" = true := by decide
  obtain ⟨url, found, addresses, -⟩ :=
    resourceUrl_addresses_iff opened (.inl rfl) .topics "a/b%2F"
  exact ⟨opened, rfl, projectFaithful, faithful, url, found,
    addresses.mpr ⟨projectFaithful, faithful⟩⟩

/-- A tab in an ID gets lost, so that two IDs share a URL. -/
theorem resourceUrl_shared_without_tab :
    let session : Session :=
      ⟨⟨"http", some { host := .name "localhost", port := some 8085 }, false, .segments [""], none,
        none⟩, "p", none⟩
    let url : Url :=
      { session.base with path := .segments ["v1", "projects", "p", "topics", "ab"] }
    open? { endpoint := "http://localhost:8085" } "p" = .ok session ∧
      session.resourceUrl .topics "a\tb" = .ok url ∧
      session.resourceUrl .topics "ab" = .ok url := by
  decide +kernel

end Session

end Rest

end PubSubProvisioning
