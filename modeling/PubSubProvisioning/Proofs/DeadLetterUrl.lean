import PubSubProvisioning.Proofs.HttpUrl
import PubSubProvisioning.Proofs.Review

/-!
# The URLs of dead letters

The URL for the dead letters of a subscription is the URL of its endpoint with a path written behind
it.  Only the latter is reviewed, and a review does not see padding at its end, which is cut off
when a URL is read.  In front of a path padding is not cut off: if it is right behind the host and
the port, it is taken for a part of them, and the URL for the dead letters is none.  Everywhere else
the path ends up in the path, the query or the fragment, and the URL keeps its host and port.
-/

namespace PubSubProvisioning

/-! ## Endpoints of accepted projects -/

/-- Whether the URL of an endpoint ends in padding right behind its host and port. -/
def PushEndpoint.endsInPadding (endpoint : PushEndpoint) : Bool :=
  Url.endsInPadding (endpoint.url.toList.drop PushEndpoint.scheme.length)

/-- The endpoint of a token is read from a part of it. -/
theorem SubscriptionPlan.exists_ofSegment {token : String} {plan : SubscriptionPlan}
    (read : ofToken token = .ok plan) {endpoint : PushEndpoint}
    (pushed : plan.delivery.endpoint? = some endpoint) :
    ∃ segment, endpoint = .ofSegment segment := by
  rw [ofToken, ofParts.eq_def] at read
  split at read
  · contradiction
  · split at read
    · contradiction
    · split at read
      · cases read
        contradiction
      · rw [endpointOf] at read
        split at read
        · contradiction
        · cases read
          exact ⟨_, (Option.some.inj pushed).symm⟩
      · split at read
        · rw [endpointOf] at read
          split at read
          · contradiction
          · cases read
            exact ⟨_, (Option.some.inj pushed).symm⟩
        · contradiction
      · contradiction

/-- What an endpoint writes behind its scheme is what its URL for dead letters writes there before
the path. -/
theorem PushEndpoint.urls_ofSegment (segment : String) :
    ∃ text, (ofSegment segment).url = scheme ++ String.ofList text ∧
      (ofSegment segment).endsInPadding = Url.endsInPadding text ∧
      (ofSegment segment).deadLetterUrl =
        scheme ++ String.ofList (text ++ '/' :: ['d', 'e', 'a', 'd']) := by
  apply Exists.intro (firstBarToColon segment.toList)
  constructor
  · rfl
  constructor
  · rw [endsInPadding, ofSegment, String.toList_append, ← String.length_toList, List.drop_left,
      String.toList_ofList]
  · rw [deadLetterUrl, ofSegment, String.ofList_append, String.append_assoc]

/-- Nothing is cut off from a URL for dead letters. -/
theorem Url.unpadded_append_dead (text : List Char) :
    unpadded (text ++ '/' :: ['d', 'e', 'a', 'd']) = text ++ '/' :: ['d', 'e', 'a', 'd'] := by
  have shape : text ++ '/' :: ['d', 'e', 'a', 'd'] =
      (text ++ ['/', 'd', 'e', 'a']) ++ 'd' :: [] := by simp
  rw [shape, unpadded, Text.dropTrailing_append_cons rfl]
  rfl

/-- Of an accepted project with a dead letter pair, the URL for the dead letters is accepted, with
the host and port of the endpoint, exactly if the endpoint does not end in padding behind them. -/
theorem ProjectSpec.deadLetterUrl_accepted_iff {spec : ProjectSpec}
    (accepted : spec.validate = .ok ()) {topic : TopicSpec} (listed : topic ∈ spec.topics)
    {token : String} (member : token ∈ topic.tokens) {id : String} {endpoint : PushEndpoint}
    (read : SubscriptionPlan.ofToken token = .ok ⟨id, .pushWithDeadLetter endpoint⟩)
    (field : String) :
    (checkUrl field endpoint.deadLetterUrl = .ok () ↔ endpoint.endsInPadding = false) ∧
      (endpoint.endsInPadding = false → ∃ primary dead authority,
        Url.parse endpoint.url = .ok primary ∧ primary.authority = some authority ∧
          Url.parse endpoint.deadLetterUrl = .ok dead ∧ dead.authority = some authority) := by
  obtain ⟨plan, readAgain, checked⟩ := validate_eq_ok_iff.mp accepted topic listed token member
  obtain rfl : _ = plan := Except.ok.inj (read.symm.trans readAgain)
  obtain ⟨segment, rfl⟩ := SubscriptionPlan.exists_ofSegment read rfl
  obtain ⟨text, url, ends, deadUrl⟩ := PushEndpoint.urls_ofSegment segment
  simp only [SubscriptionPlan.checkEndpoint, Delivery.endpoint?] at checked
  rw [url, Url.checkUrl_http_eq_ok_iff] at checked
  obtain ⟨authority, rest, readPrimary, named⟩ := checked
  obtain ⟨kept, refused⟩ := Url.readAuthority_append_path readPrimary ['d', 'e', 'a', 'd']
  rw [deadUrl, url, ends, Url.checkUrl_http_eq_ok_iff, Url.parse_http, Url.parse_http,
    Url.unpadded_append_dead]
  constructor
  · constructor
    · rintro ⟨other, behind, readDead, -⟩
      by_contra padded
      obtain ⟨reason, failed⟩ := refused (by simpa using padded)
      rw [failed] at readDead
      cases readDead
    · intro unpadded
      obtain ⟨behind, readDead⟩ := kept unpadded
      exact ⟨authority, behind, readDead, named⟩
  · intro unpadded
    obtain ⟨behind, readDead⟩ := kept unpadded
    rw [readPrimary, readDead]
    exact ⟨_, _, authority, rfl, rfl, rfl, rfl⟩

/-- The path of dead letters goes behind a port. -/
theorem ProjectSpec.deadLetterUrl_accepted_behind_port :
    let spec : ProjectSpec := ⟨"p", [⟨"t", ["s+host|8080+dlq"]⟩]⟩
    let endpoint : PushEndpoint := ⟨"http://host:8080"⟩
    spec.validate = .ok () ∧
      SubscriptionPlan.ofToken "s+host|8080+dlq" = .ok ⟨"s", .pushWithDeadLetter endpoint⟩ ∧
      endpoint.endsInPadding = false ∧
      checkUrl "dead letters" endpoint.deadLetterUrl = .ok () := by
  intro spec endpoint
  have accepted : spec.validate = .ok () := by decide +kernel
  have listed : ⟨"t", ["s+host|8080+dlq"]⟩ ∈ spec.topics := List.mem_singleton_self _
  have read : SubscriptionPlan.ofToken "s+host|8080+dlq" =
      .ok ⟨"s", .pushWithDeadLetter endpoint⟩ := by decide +kernel
  have unpadded : endpoint.endsInPadding = false := by decide +kernel
  have iff := (deadLetterUrl_accepted_iff accepted listed (List.mem_singleton_self _) read
    "dead letters").1
  exact ⟨accepted, read, unpadded, iff.mpr unpadded⟩

/-- A space behind a host passes the review, but not in front of the path of dead letters. -/
theorem ProjectSpec.deadLetterUrl_refused_behind_space :
    let spec : ProjectSpec := ⟨"p", [⟨"t", ["s+host +dlq"]⟩]⟩
    let endpoint : PushEndpoint := ⟨"http://host "⟩
    spec.validate = .ok () ∧
      SubscriptionPlan.ofToken "s+host +dlq" = .ok ⟨"s", .pushWithDeadLetter endpoint⟩ ∧
      checkUrl "dead letters" endpoint.deadLetterUrl =
        .error (.badUrl "dead letters" "http://host /dead" (.unreadable .domainName)) := by
  decide +kernel

end PubSubProvisioning
