import PubSubProvisioning.Proofs.PercentCode
import PubSubProvisioning.Proofs.Redirections
import PubSubProvisioning.Rest

/-!
# Requests that are put together and sent

A request to a URL over HTTP is put together from the URL without its user name and password.  Where
the server can be reached, it is sent once unless the reply sends the client on.  Of its header
values exactly those that begin with the word `Bearer` come from the token.
-/

namespace PubSubProvisioning

open PubSubProvisioning.Unicode (Utf8.encode Utf8.encode_append)

namespace Http

/-- The URL that a request for `url` is sent to. -/
def bare (url : Url) : Url :=
  match login? url with
  | some _ => withoutLogin url
  | none => url

/-- The request that has something stored: to the URL without its user name and password, which are
in the header, and behind them the token. -/
def storing (url : Url) (token : Option String) (body : String) : Request where
  method := .put
  url := bare url
  authorization :=
    (login? url).toList.map basicAuthorization ++ token.toList.map bearerAuthorization
  body

/-- Whether a header value hands over a token. -/
def isBearer (value : List UInt8) : Bool :=
  (Utf8.encode "Bearer ".toList).isPrefixOf value

theorem isBearer_bearerAuthorization (token : String) :
    isBearer (bearerAuthorization token) = true := by
  rw [isBearer, bearerAuthorization, String.toList_append, Utf8.encode_append]
  exact List.isPrefixOf_iff_prefix.mpr (List.prefix_append _ _)

theorem isBearer_basicAuthorization (login : List Char × Option (List Char)) :
    isBearer (basicAuthorization login) = false := by
  rw [isBearer, basicAuthorization, Utf8.encode_append]
  rfl

/-- Whether a token may stand in a header. -/
def isHeaderText (token : String) : Bool :=
  (Utf8.encode token.toList).all isHeaderOctet

theorem all_bearerAuthorization (token : String) :
    (bearerAuthorization token).all isHeaderOctet = isHeaderText token := by
  rw [bearerAuthorization, String.toList_append, Utf8.encode_append, List.all_append]
  rfl

/-- A request is put together in one of three ways, of which the token decides on the first. -/
theorem request_eq_ite (url : Url) (token : Option String) (body : String) :
    request url token body =
      if !token.all isHeaderText then .error (.building none)
      else if isTarget (bare url) then .ok (storing url token body)
      else .error (.building (some (bare url).text)) := by
  have legal : (token.toList.map bearerAuthorization).all (·.all isHeaderOctet) =
      token.all isHeaderText := by
    cases token with
    | none => rfl
    | some value => simp [all_bearerAuthorization]
  rw [request, storing, bare, ← legal]
  cases login? url <;> rfl

/-- The request that a client puts together, from a token that may stand in a header and a URL that
can be a target. -/
theorem request_eq {url : Url} {token : Option String}
    (legal : ∀ value ∈ token, (bearerAuthorization value).all isHeaderOctet)
    (target : isTarget (bare url)) (body : String) :
    request url token body = .ok (storing url token body) := by
  have allLegal : token.all isHeaderText := by
    rw [Option.all_eq_true]
    intro value given
    rw [← all_bearerAuthorization]
    exact legal value given
  simp [request_eq_ite, allLegal, target]

/-- There is only one request that a client can have put together. -/
theorem eq_of_request {url : Url} {token : Option String} {body : String} {built : Request}
    (isBuilt : request url token body = .ok built) : built = storing url token body := by
  rw [request_eq_ite] at isBuilt
  split at isBuilt
  · contradiction
  · split at isBuilt
    · exact (Except.ok.inj isBuilt).symm
    · contradiction

/-- What a request hands over as a token is the token. -/
theorem filter_isBearer_storing (url : Url) (token : Option String) (body : String) :
    (storing url token body).authorization.filter isBearer =
      token.toList.map bearerAuthorization := by
  rw [storing]
  cases login? url <;> cases token <;>
    simp [isBearer_basicAuthorization, isBearer_bearerAuthorization]

theorem scheme_bare (url : Url) : (bare url).scheme = url.scheme := by
  rw [bare]
  cases login? url <;> rfl

namespace Network

variable {network : Network} {request : Request}

/-- A server that can be reached gets a request that is handed over. -/
theorem hand_eq (reachable : network.reachable)
    (secure : request.url.scheme = "https" → network.secure) :
    network.hand request =
      (request.outcome (network.returns.headD plainReply), network.after request) := by
  have passes : (request.url.scheme = "https" && !network.secure) = false := by
    by_cases https : request.url.scheme = "https"
    · simp [secure https]
    · simp [https]
  simp only [hand, reachable, passes]
  rfl

/-- A server that can be reached gets the request once, if what comes back does not send the client
on. -/
theorem send_eq (reachable : network.reachable)
    (secure : request.url.scheme = "https" → network.secure)
    (stays : (network.returns.headD plainReply).redirection? = none) :
    network.send request =
      (request.outcome (network.returns.headD plainReply), network.after request) := by
  have handed := hand_eq reachable secure
  rw [← handed]
  apply send_of_stays
  rw [handed]
  cases back : network.returns.headD plainReply with
  | reply reply =>
      rw [back] at stays
      exact Request.redirection?_of_none stays request
  | dropped => rfl

end Network

end Http

/-! ## What is put -/

namespace Rest

open PubSubProvisioning.Http (Reply)

/-- What it means for a resource how sending the request for it has ended. -/
def judgeOutcome (resource : String) : Except TransportFault Reply → Except BackendError Unit
  | .error fault => .error (.transport fault)
  | .ok reply => (judge resource reply).1

/-- What is put fails without being sent, or it is sent and judged by what this ends in.  Which of
the two it is does not depend on the network. -/
theorem Session.put_cases (session : Session) (collection : Collection) (id body : String) :
    (∃ error, ∀ network, (session.put collection id body network).outcome = .error error ∧
      (session.put collection id body network).network = network) ∨
    ∃ url, session.resourceUrl collection id = .ok url ∧ ∀ network,
      let sent := network.send (Http.storing url session.accessToken body)
      (session.put collection id body network).outcome =
          judgeOutcome (session.resourceName collection id) sent.1 ∧
        (session.put collection id body network).network = sent.2 := by
  cases found : session.resourceUrl collection id with
  | error error =>
      refine .inl ⟨error, fun network => ?_⟩
      simp only [put, found, and_self]
  | ok url =>
      cases built : Http.request url session.accessToken body with
      | error fault =>
          refine .inl ⟨.transport fault, fun network => ?_⟩
          simp only [put, found, built, and_self]
      | ok request =>
          refine .inr ⟨url, rfl, fun network => ?_⟩
          rw [← Http.eq_of_request built]
          simp only [put, found, built]
          rcases network.send request with ⟨fault | reply, after⟩
          · exact ⟨rfl, rfl⟩
          · exact ⟨rfl, rfl⟩

end Rest

end PubSubProvisioning
