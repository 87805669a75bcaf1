import PubSubProvisioning.Proofs.DeadLetterUrl
import PubSubProvisioning.Proofs.TokenGrammar

/-!
# What a review comes to

A review takes the tokens of a project in their order and stops at the first one that offends.  A
token offends if it cannot be read or, once it is read, its endpoint is no URL; that the URL has
another scheme or no host is never the reason, since the scheme of an endpoint is fixed.  Up to
there the review warns of each subscription that its topic has listed before.
-/

namespace PubSubProvisioning

open PubSubProvisioning.Text (quote)

/-! ## Endpoints -/

namespace Url

/-- The host of a special URL has a text. -/
theorem text_ne_empty_of_domainHost {text : List Char} {host : Host}
    (read : domainHost text = .ok host) : host.text ≠ "" := by
  cases host with
  | name name =>
      rintro rfl
      exact domainHost_ne_empty read rfl
  | ipv4 address =>
      have dotted : (Host.ipv4 address).text =
          toString (address / 0x1000000 % 256) ++ "." ++ toString (address / 0x10000 % 256) ++ "." ++
            toString (address / 0x100 % 256) ++ "." ++ toString (address % 256) := rfl
      intro empty
      rw [dotted] at empty
      simp at empty
  | ipv6 pieces =>
      intro empty
      have letters := congrArg String.toList empty
      simp [Host.text] at letters

/-- The URL of an endpoint passes if it can be read at all. -/
theorem checkUrl_http (field : String) (text : List Char) :
    checkUrl field (PushEndpoint.scheme ++ String.ofList text) =
      match parse (PushEndpoint.scheme ++ String.ofList text) with
      | .ok _ => .ok ()
      | .error reason =>
          .error (.badUrl field (PushEndpoint.scheme ++ String.ofList text)
            (.unreadable reason)) := by
  cases read : parse (PushEndpoint.scheme ++ String.ofList text) with
  | error reason =>
      have present : PushEndpoint.scheme ++ String.ofList text ≠ "" := by
        intro empty
        have letters := congrArg String.toList empty
        simp [PushEndpoint.scheme] at letters
      rw [checkUrl, if_neg present, read]
  | ok url =>
      rw [parse_http] at read
      obtain ⟨⟨authority, rest⟩, front, -⟩ := bind_eq_ok_iff.mp read
      obtain ⟨-, -, named, -⟩ := (readAuthority_eq_ok_iff rfl).mp front
      exact checkUrl_http_eq_ok_iff.mpr
        ⟨authority, rest, front, text_ne_empty_of_domainHost named⟩

end Url

/-! ## Offences -/

namespace SubscriptionPlan

/-- A token is acceptable if it can be read and its endpoint, if it has one, is a URL. -/
def IsAcceptable (token : String) : Prop :=
  ∃ plan, ofToken token = .ok plan ∧
    ∀ endpoint ∈ plan.delivery.endpoint?, ∃ url, Url.parse endpoint.url = .ok url

/-- What a token offends with: it cannot be read or, once it is read, its endpoint is no URL. -/
inductive Offends (token : String) : Malformed → Prop where
  | unread {reason : Malformed} (refused : ofToken token = .error reason) : Offends token reason
  | badEndpoint {plan : SubscriptionPlan} {endpoint : PushEndpoint} {reason : Url.ParseError}
      (read : ofToken token = .ok plan) (pushed : plan.delivery.endpoint? = some endpoint)
      (unreadable : Url.parse endpoint.url = .error reason) :
      Offends token
        (.badUrl s!"push endpoint of subscription {quote plan.id}" endpoint.url
          (.unreadable reason))

variable {token : String} {plan : SubscriptionPlan} {reason : Malformed}

/-- The endpoint of a token passes if it is a URL. -/
theorem checkEndpoint_of_read (read : ofToken token = .ok plan) {endpoint : PushEndpoint}
    (pushed : plan.delivery.endpoint? = some endpoint) :
    plan.checkEndpoint =
      match Url.parse endpoint.url with
      | .ok _ => .ok ()
      | .error reason =>
          .error (.badUrl s!"push endpoint of subscription {quote plan.id}" endpoint.url
            (.unreadable reason)) := by
  obtain ⟨segment, rfl⟩ := exists_ofSegment read pushed
  obtain ⟨text, url, -, -⟩ := PushEndpoint.urls_ofSegment segment
  rw [checkEndpoint, pushed]
  dsimp only
  rw [url]
  exact Url.checkUrl_http _ text

/-- A token is either acceptable or offends. -/
theorem ofCheckedToken_settled (token : String) :
    (∃ plan, ofCheckedToken token = .ok plan ∧ ofToken token = .ok plan ∧ IsAcceptable token) ∨
      ∃ reason, ofCheckedToken token = .error reason ∧ Offends token reason := by
  cases read : ofToken token with
  | error reason =>
      right
      refine ⟨reason, ?_, .unread read⟩
      rw [ofCheckedToken, read]
      rfl
  | ok plan =>
      cases pushed : plan.delivery.endpoint? with
      | none =>
          left
          refine ⟨plan, ?_, rfl, plan, read, by simp [pushed]⟩
          rw [ofCheckedToken_eq_ok_iff, checkEndpoint, pushed]
          exact ⟨read, rfl⟩
      | some endpoint =>
          have checked := checkEndpoint_of_read read pushed
          cases parsed : Url.parse endpoint.url with
          | ok url =>
              left
              rw [parsed] at checked
              refine ⟨plan, ofCheckedToken_eq_ok_iff.mpr ⟨read, checked⟩, rfl, plan, read, ?_⟩
              rintro other same
              obtain rfl := Option.some.inj (pushed.symm.trans same)
              exact ⟨url, parsed⟩
          | error reason =>
              right
              rw [parsed] at checked
              refine ⟨_, ?_, .badEndpoint read pushed parsed⟩
              rw [ofCheckedToken, read]
              simp [checked, bind, Except.bind]

/-- No token does both. -/
theorem Offends.not_acceptable (offends : Offends token reason) : ¬IsAcceptable token := by
  rintro ⟨plan, read, parses⟩
  cases offends with
  | unread refused =>
      rw [refused] at read
      contradiction
  | badEndpoint readAgain pushed unreadable =>
      obtain rfl := Except.ok.inj (read.symm.trans readAgain)
      obtain ⟨url, parsed⟩ := parses _ pushed
      rw [unreadable] at parsed
      contradiction

theorem isAcceptable_iff : IsAcceptable token ↔ ∃ plan, ofCheckedToken token = .ok plan := by
  rcases ofCheckedToken_settled token with
    ⟨plan, checked, -, acceptable⟩ | ⟨reason, refused, offends⟩
  · exact ⟨fun _ => ⟨plan, checked⟩, fun _ => acceptable⟩
  · simp [refused, offends.not_acceptable]

end SubscriptionPlan

/-! ## Tokens in their places -/

/-- A token in its place: the topic that lists it, and the tokens that the topic lists before it. -/
structure Listing where
  topic : String
  earlier : List String
  token : String
  deriving DecidableEq, Repr

/-- Tokens of a topic in their places, behind those listed `earlier`. -/
def Listing.behind (topic : String) (earlier : List String) : List String → List Listing
  | [] => []
  | token :: rest => ⟨topic, earlier, token⟩ :: behind topic (earlier ++ [token]) rest

/-- The tokens of a project in their places, topic by topic. -/
def ProjectSpec.listings (spec : ProjectSpec) : List Listing :=
  spec.topics.flatMap fun topic => Listing.behind topic.id [] topic.tokens

/-- The warning that a subscription is listed again on its topic. -/
def Listing.warning? (listing : Listing) : Option Event :=
  match SubscriptionPlan.ofToken listing.token with
  | .error _ => none
  | .ok plan =>
      if plan.id ∈ (SubscriptionPlan.ofTokens listing.earlier).map (·.id) then
        some (.subscriptionRepeated plan.id listing.topic)
      else none

/-! ## Outcomes -/

namespace Review

/-- The warnings of a review. -/
def warnings (review : Review) : List Event :=
  review.events.filter (·.level = .warn)

/-- How a review ends as it should: it accepts tokens that are all acceptable, or refuses them for
what the first one offends with that is not.  It warns of the tokens up to there. -/
inductive Settles : Review → List Listing → Prop where
  | accepts {review : Review} {listings : List Listing}
      (acceptable : ∀ listing ∈ listings, SubscriptionPlan.IsAcceptable listing.token)
      (warned : review.warnings = listings.filterMap Listing.warning?)
      (verdict : review.verdict = .ok ()) : Settles review listings
  | refuses {review : Review} {passed later : List Listing} {first : Listing} {reason : Malformed}
      (acceptable : ∀ listing ∈ passed, SubscriptionPlan.IsAcceptable listing.token)
      (warned : review.warnings = passed.filterMap Listing.warning?)
      (offends : SubscriptionPlan.Offends first.token reason)
      (verdict : review.verdict = .error reason) : Settles review (passed ++ first :: later)

variable {first second : Review} {listings others : List Listing}

theorem warnings_andThen (accepted : first.verdict = .ok ()) (second : Review) :
    (first.andThen second).warnings = first.warnings ++ second.warnings := by
  rw [warnings, andThen_events accepted, List.filter_append]
  rfl

/-- Two reviews in a row end as they should if each of them does. -/
theorem Settles.andThen (leading : Settles first listings) (following : Settles second others) :
    Settles (first.andThen second) (listings ++ others) := by
  cases leading with
  | refuses acceptable warned offends verdict =>
      rw [Review.andThen, verdict, List.append_assoc, List.cons_append]
      exact refuses acceptable warned offends rfl
  | accepts acceptable warned verdict =>
      have goesOn : (first.andThen second).verdict = second.verdict := by
        rw [Review.andThen, verdict]
      have both := warnings_andThen verdict second
      rw [warned] at both
      cases following with
      | accepts acceptableToo warnedToo verdictToo =>
          rw [warnedToo, ← List.filterMap_append] at both
          exact accepts (List.forall_mem_append.mpr ⟨acceptable, acceptableToo⟩) both
            (goesOn.trans verdictToo)
      | refuses acceptableToo warnedToo offends verdictToo =>
          rw [warnedToo, ← List.filterMap_append] at both
          rw [← List.append_assoc]
          exact refuses (List.forall_mem_append.mpr ⟨acceptable, acceptableToo⟩) both offends
            (goesOn.trans verdictToo)

end Review

/-! ## Whole projects -/

/-- The warnings on an acceptable token compare it with those listed before it. -/
theorem SubscriptionPlan.warnings_remarks {topic token : String} {plan : SubscriptionPlan}
    (read : ofToken token = .ok plan) {seen earlier : List String}
    (known : ∀ id, id ∈ seen ↔ id ∈ (ofTokens earlier).map (·.id)) :
    Review.warnings ⟨plan.remarks seen topic, .ok ()⟩ =
      [(⟨topic, earlier, token⟩ : Listing)].filterMap Listing.warning? := by
  obtain ⟨id, delivery⟩ := plan
  have warned : (⟨topic, earlier, token⟩ : Listing).warning? =
      if id ∈ seen then some (.subscriptionRepeated id topic) else none := by
    simp only [Listing.warning?, read, known]
  by_cases repeated : id ∈ seen <;> cases delivery <;>
    simp [Review.warnings, remarks, warned, repeated, Event.level]

/-- A review of tokens behind others ends as it should. -/
theorem settles_reviewTokens (topic : String) {seen earlier : List String} (tokens : List String)
    (known : ∀ id, id ∈ seen ↔ id ∈ (SubscriptionPlan.ofTokens earlier).map (·.id)) :
    Review.Settles (reviewTokens topic seen tokens) (Listing.behind topic earlier tokens) := by
  induction tokens generalizing seen earlier with
  | nil => exact .accepts (by simp [Listing.behind]) rfl rfl
  | cons token rest inductionHypothesis =>
      rw [reviewTokens, Listing.behind]
      rcases SubscriptionPlan.ofCheckedToken_settled token with
        ⟨plan, checked, read, acceptable⟩ | ⟨reason, refused, offends⟩
      · have knownNext : ∀ id, id ∈ plan.id :: seen ↔
            id ∈ (SubscriptionPlan.ofTokens (earlier ++ [token])).map (·.id) := by
          intro id
          simp [SubscriptionPlan.ofTokens, read, Except.toOption, known, or_comm]
        have own : Review.Settles ⟨plan.remarks seen topic, .ok ()⟩ [⟨topic, earlier, token⟩] :=
          .accepts (by simpa using acceptable) (plan.warnings_remarks read known) rfl
        rw [checked]
        exact own.andThen (inductionHypothesis knownNext)
      · rw [refused]
        have none : ∀ listing ∈ ([] : List Listing),
            SubscriptionPlan.IsAcceptable listing.token := by simp
        exact .refuses none rfl offends rfl

/-- So does a review of topics. -/
theorem settles_reviewTopics (topics : List TopicSpec) :
    Review.Settles (reviewTopics topics)
      (topics.flatMap fun topic => Listing.behind topic.id [] topic.tokens) := by
  induction topics with
  | nil => exact .accepts (by simp) rfl rfl
  | cons topic rest inductionHypothesis =>
      rw [reviewTopics, List.flatMap_cons]
      have known : ∀ id, id ∈ [] ↔ id ∈ (SubscriptionPlan.ofTokens []).map (·.id) := by
        simp [SubscriptionPlan.ofTokens]
      exact (settles_reviewTokens topic.id topic.tokens known).andThen inductionHypothesis

namespace SubscriptionPlan

/-- What a token cannot be read for is no fault of a URL. -/
theorem ofToken_ne_badUrl (token field url : String) (fault : UrlFault) :
    ofToken token ≠ .error (.badUrl field url fault) := by
  intro refused
  have defect := (isFirstDefect_of_ofToken refused).found
  cases defect

/-- The only fault that a token offends with by its URL is that the URL cannot be read. -/
theorem Offends.unreadable {token field url : String} {fault : UrlFault}
    (offends : Offends token (.badUrl field url fault)) : ∃ reason, fault = .unreadable reason := by
  cases offends with
  | unread refused => exact absurd refused (ofToken_ne_badUrl token field url fault)
  | badEndpoint => exact ⟨_, rfl⟩

end SubscriptionPlan

/-- A project is accepted exactly if all of its tokens can be read and all of its endpoints are
URLs.  Otherwise it is refused for what the first token offends with that is not acceptable, in the
order of topics and of the tokens on each; of the faults of a URL this can only be that it cannot be
read.  For each token up to there whose subscription its topic has listed before there is one
warning, in order, and no other. -/
theorem ProjectSpec.validate_ends_at_first_offence (spec : ProjectSpec) :
    (spec.validate = .ok () ↔
      ∀ topic ∈ spec.topics, ∀ token ∈ topic.tokens, SubscriptionPlan.IsAcceptable token) ∧
    (∃ passed rest, spec.listings = passed ++ rest ∧
      (∀ listing ∈ passed, SubscriptionPlan.IsAcceptable listing.token) ∧
      spec.review.warnings = passed.filterMap Listing.warning? ∧
      (rest = [] ∧ spec.validate = .ok () ∨
        ∃ first later reason, rest = first :: later ∧
          ¬SubscriptionPlan.IsAcceptable first.token ∧
          SubscriptionPlan.Offends first.token reason ∧ spec.validate = .error reason)) ∧
    ∀ field url fault, spec.validate = .error (.badUrl field url fault) →
      ∃ reason, fault = .unreadable reason := by
  have settles : Review.Settles spec.review spec.listings := settles_reviewTopics spec.topics
  constructor
  · simp only [validate, review, reviewTopics_verdict_eq_ok_iff, reviewTokens_verdict_eq_ok_iff,
      SubscriptionPlan.isAcceptable_iff]
  generalize spec.listings = listings at settles ⊢
  cases settles with
  | accepts acceptable warned verdict =>
      constructor
      · exact ⟨listings, [], by simp, acceptable, warned, .inl ⟨rfl, verdict⟩⟩
      · intro field url fault refused
        rw [validate, verdict] at refused
        contradiction
  | @refuses passed later first reason acceptable warned offends verdict =>
      constructor
      · exact ⟨passed, first :: later, rfl, acceptable, warned,
          .inr ⟨first, later, reason, rfl, offends.not_acceptable, offends, verdict⟩⟩
      · intro field url fault refused
        rw [validate, verdict] at refused
        obtain rfl := Except.error.inj refused
        exact offends.unreadable

end PubSubProvisioning
