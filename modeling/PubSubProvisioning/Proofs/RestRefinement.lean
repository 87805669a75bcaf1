import Mathlib.Data.List.Forall2
import PubSubProvisioning.Proofs.HttpUrl
import PubSubProvisioning.Proofs.Requests
import PubSubProvisioning.Proofs.ResourceUrl
import PubSubProvisioning.Proofs.Stepwise

/-!
# A pass over HTTP refines one in memory

Over HTTP a call to create something becomes one request, and what comes back for it decides the
outcome of the call.  Seen from the pass this is a service that names what it grants as it was asked
to and takes its verdicts from a script; the requests are the calls, in their order, with nothing
before, between or after them.

The client is assumed to send what it is asked to once: the server can be reached, the URLs of the
resources are ones that the client sends requests to, and nothing that comes back sends it on.
-/

namespace PubSubProvisioning

open PubSubProvisioning.Http (Request Return isTarget plainReply bearerAuthorization isHeaderOctet)

/-! ## A service in memory that follows a script -/

/-- What a call yields in a session for `project` that names everything as it was asked to. -/
def Call.grantIn (project : String) : (call : Call) → call.Grant
  | .connect _ => ()
  | .createTopic id => ⟨project, id⟩
  | .createSubscription id _ => ⟨project, id⟩
  | .close => ()

/-- The project of the open session, and verdicts on the calls to come.  A call may be judged by
what it asks for.  After the last verdict everything is granted. -/
structure Echo where
  project : String := ""
  verdicts : List (Call → Except BackendError Unit) := []

namespace Echo

/-- The verdict on the next call. -/
def verdict (echo : Echo) (call : Call) : Except BackendError Unit :=
  echo.verdicts.headD (fun _ => .ok ()) call

/-- The service: sessions can be opened and closed, and what it creates it names as it was asked
to. -/
def backend : Backend Echo where
  answer echo
    | .connect project => ⟨.ok (), [], { echo with project }⟩
    | .close => ⟨.ok (), [], echo⟩
    | call =>
        ⟨(echo.verdict call).map fun _ => call.grantIn echo.project, [],
          { echo with verdicts := echo.verdicts.tail }⟩

theorem answer_of_creating (echo : Echo) {call : Call} (creating : call.resource?.isSome) :
    backend.answer echo call =
      ⟨(echo.verdict call).map fun _ => call.grantIn echo.project, [],
        { echo with verdicts := echo.verdicts.tail }⟩ := by
  cases call with
  | connect _ | close => contradiction
  | createTopic _ | createSubscription _ _ => rfl

theorem project_of_inSession {start echo : Echo} {project : String}
    (session : backend.InSession start project echo) : echo.project = project := by
  induction session with
  | opened => rfl
  | created _ creating inductionHypothesis =>
      rw [answer_of_creating _ creating]
      exact inductionHypothesis

theorem echoes (start : Echo) (project : String) : backend.Echoes start project := by
  intro echo session id handle granted
  rw [answer_of_creating echo rfl, project_of_inSession session] at granted
  cases verdict : echo.verdict (.createTopic id) with
  | error cause => simp [verdict, Except.map] at granted
  | ok _ =>
      rw [verdict] at granted
      exact (Except.ok.inj granted).symm

end Echo

namespace Rest

variable {session : Session} {state : State}

/-! ## Calls and requests -/

/-- Where something is stored for a call, and what. -/
def stored? : Call → Option (Collection × String × String)
  | .createTopic id => some (.topics, id, "\x7b\x7d")
  | .createSubscription id config => some (.subscriptions, id, subscriptionBody config)
  | .connect _ | .close => none

/-- A request asks for what a call does: to store it under the URL of the resource, and in the name
of the session. -/
structure Session.Puts (session : Session) (call : Call) (request : Request) : Prop where
  method : request.method = .put
  content : ∃ collection id url, stored? call = some (collection, id, request.body) ∧
    session.resourceUrl collection id = .ok url ∧ request.url = Http.bare url
  bearer : request.authorization.filter Http.isBearer =
    session.accessToken.toList.map bearerAuthorization

/-- The client sends requests to the URL of what a call creates. -/
def Session.reaches (session : Session) (call : Call) : Bool :=
  match stored? call with
  | none => true
  | some (collection, id, _) =>
      match session.resourceUrl collection id with
      | .error _ => true
      | .ok url => isTarget (Http.bare url)

/-- What comes back for the request for a call means this for the call. -/
def Session.verdict (session : Session) (back : Return) (call : Call) : Except BackendError Unit :=
  match stored? call with
  | none => .ok ()
  | some (collection, id, _) => do
      let url ← session.resourceUrl collection id
      match back with
      | .reply reply => (judge (session.resourceName collection id) reply).1
      | .dropped => .error (.transport (.sending (Http.bare url).text))

/-- A session whose calls lead to requests: each resource has a URL, and the token may stand in a
header. -/
structure Session.Speaks (session : Session) : Prop where
  segmented : ∃ list, session.base.path = .segments list
  special : Url.schemeKind session.base.scheme = .special
  legal : ∀ token ∈ session.accessToken, (bearerAuthorization token).all isHeaderOctet

theorem Session.Speaks.exists_url (speaks : session.Speaks) (collection : Collection)
    (id : String) : ∃ url, session.resourceUrl collection id = .ok url ∧ url.scheme = session.base.scheme := by
  obtain ⟨list, segmented⟩ := speaks.segmented
  exact ⟨_, resourceUrl_eq segmented speaks.special collection id, rfl⟩

/-- The session is open, the server can be reached, and nothing that comes back sends the client
on. -/
structure Open (session : Session) (state : State) : Prop where
  opened : state.session = some session
  reachable : state.network.reachable
  secure : session.base.scheme = "https" → state.network.secure
  stays : ∀ back ∈ state.network.returns, back.redirection? = none

/-- One more request does not close the session. -/
theorem Open.after (isOpen : Open session state) (request : Request) :
    Open session { state with network := state.network.after request } where
  opened := isOpen.opened
  reachable := isOpen.reachable
  secure := isOpen.secure
  stays back left := isOpen.stays back (List.mem_of_mem_tail left)

/-- The next return does not send the client on, also where nothing but plain replies are left. -/
theorem Open.redirection?_headD (isOpen : Open session state) :
    (state.network.returns.headD plainReply).redirection? = none := by
  cases returns : state.network.returns with
  | nil => rfl
  | cons back rest => exact isOpen.stays back (returns ▸ List.mem_cons_self)

/-- What is put is sent once, and judged by what comes back for it. -/
theorem Session.put_eq (speaks : session.Speaks) (isOpen : Open session state) {call : Call}
    (reached : session.reaches call) {collection : Collection} {id body : String}
    (stores : stored? call = some (collection, id, body)) :
    ∃ request, session.Puts call request ∧
      (session.put collection id body state.network).network = state.network.after request ∧
      (session.put collection id body state.network).outcome =
        session.verdict (state.network.returns.headD plainReply) call := by
  obtain ⟨url, found, scheme⟩ := speaks.exists_url collection id
  have target : isTarget (Http.bare url) := by
    simpa only [reaches, stores, found] using reached
  let request := Http.storing url session.accessToken body
  have built : Http.request url session.accessToken body = .ok request :=
    Http.request_eq speaks.legal target body
  have secure : request.url.scheme = "https" → state.network.secure := by
    change (Http.bare url).scheme = "https" → state.network.secure
    rw [Http.scheme_bare, scheme]
    exact isOpen.secure
  have sent := Http.Network.send_eq isOpen.reachable secure isOpen.redirection?_headD
  have bearer := Http.filter_isBearer_storing url session.accessToken body
  refine ⟨request, ⟨rfl, ⟨collection, id, url, stores, found, rfl⟩, bearer⟩, ?_⟩
  simp only [put, found, built, sent, verdict, stores]
  cases state.network.returns.headD plainReply with
  | reply reply => exact ⟨rfl, rfl⟩
  | dropped => exact ⟨rfl, rfl⟩

/-- A call that creates something makes one request, and ends as the verdict says. -/
theorem answer_of_open (settings : ServiceSettings) (speaks : session.Speaks)
    (isOpen : Open session state) {call : Call} (creating : call.resource?.isSome)
    (reaches : session.reaches call) :
    ∃ request, session.Puts call request ∧
      ((backend settings).answer state call).state =
        { state with network := state.network.after request } ∧
      ((backend settings).answer state call).outcome =
        (session.verdict (state.network.returns.headD plainReply) call).map
          fun _ => call.grantIn session.project := by
  have opened := isOpen.opened
  cases call with
  | connect _ | close => contradiction
  | createTopic id =>
      obtain ⟨request, puts, after, outcome⟩ := session.put_eq speaks isOpen reaches rfl
      have body : topicBody = "{}" := rfl
      refine ⟨request, puts, ?_, ?_⟩
      · simp only [backend, answer, opened, Session.createTopic, body, after]
      · simp only [backend, answer, opened, Session.createTopic, body, outcome, Call.grantIn]
  | createSubscription id config =>
      obtain ⟨request, puts, after, outcome⟩ := session.put_eq speaks isOpen reaches rfl
      refine ⟨request, puts, ?_, ?_⟩
      · simp only [backend, answer, opened, Session.createSubscription, after]
      · simp only [backend, answer, opened, Session.createSubscription, outcome, Call.grantIn]

/-! ## Requests of a session -/

/-- Calls that have been made in a session, where the client sends requests for all of them: each
has made one request, after those from `before`, and what has been granted is named as it was asked
to. -/
def Session.HasPut (session : Session) (before : List Request) (log : List AnsweredCall)
    (state : State) : Prop :=
  (∀ answered ∈ log, session.reaches answered.call) →
    Open session state ∧
    (∃ requests, state.network.sent = before ++ requests ∧
      List.Forall₂ (fun answered request => session.Puts answered.call request) log requests) ∧
    ∀ answered ∈ log, ∀ grant, answered.outcome = .ok grant →
      grant = answered.call.grantIn session.project

theorem Session.HasPut.keeps (settings : ServiceSettings) (speaks : session.Speaks)
    (before : List Request) (log : List AnsweredCall) (state : State) (call : Call)
    (creating : call.resource?.isSome) (hasPut : session.HasPut before log state) :
    session.HasPut before (log ++ [⟨call, ((backend settings).answer state call).outcome⟩])
      ((backend settings).answer state call).state := by
  intro reaches
  obtain ⟨isOpen, ⟨requests, sent, puts⟩, grants⟩ :=
    hasPut fun answered member => reaches answered (List.mem_append_left _ member)
  obtain ⟨request, next, after, outcome⟩ := answer_of_open settings speaks isOpen creating
    (reaches _ (List.mem_append_right _ (List.mem_singleton_self _)))
  rw [after]
  refine ⟨isOpen.after request, ⟨requests ++ [request], ?_, ?_⟩, ?_⟩
  · simp only [Http.Network.after, sent, List.append_assoc]
  · exact List.rel_append puts (.cons next .nil)
  · intro answered member grant granted
    rcases List.mem_append.mp member with earlier | last
    · exact grants answered earlier grant granted
    · obtain rfl := List.mem_singleton.mp last
      rw [outcome] at granted
      cases verdict : session.verdict (state.network.returns.headD plainReply) call with
      | error cause =>
          rw [verdict] at granted
          contradiction
      | ok _ =>
          rw [verdict] at granted
          exact (Except.ok.inj granted).symm

/-! ## The service in memory -/

/-- A service in memory stands for a session over HTTP if it has the project of the session, and its
verdicts are what comes back for requests. -/
structure Session.Mirrors (session : Session) (state : State) (echo : Echo) : Prop where
  isOpen : Open session state
  project : echo.project = session.project
  verdicts : echo.verdicts = state.network.returns.map session.verdict

/-- A reply that reports success and arrives as a whole grants what was asked for, whatever it
says. -/
theorem judge_of_success (reply : Http.Reply) (success : Http.isSuccess reply.status)
    {body : List UInt8} (arrives : reply.body? = some body) (resource : String) :
    (judge resource reply).1 = .ok () := by
  rw [judge, if_pos success, arrives]
  dsimp only
  cases createdName? (.ofOctets body) with
  | none => rfl
  | some name => cases name <;> rfl

theorem Session.verdict_plainReply (speaks : session.Speaks) (call : Call) :
    session.verdict plainReply call = .ok () := by
  rw [verdict]
  cases stored? call with
  | none => rfl
  | some stored =>
      obtain ⟨collection, id, body⟩ := stored
      obtain ⟨url, found, -⟩ := speaks.exists_url collection id
      have granted := judge_of_success ⟨200, Unicode.Utf8.encode "\x7b\x7d".toList, true, none⟩ rfl
        rfl (session.resourceName collection id)
      simp only [found, plainReply]
      exact granted

theorem Session.alike_echo (settings : ServiceSettings) (speaks : session.Speaks) :
    (backend settings).Alike Echo.backend
      (fun call => call.resource?.isSome ∧ session.reaches call) session.Mirrors := by
  rintro state echo call ⟨isOpen, project, verdicts⟩ ⟨creating, reaches⟩
  obtain ⟨request, -, after, outcome⟩ := answer_of_open settings speaks isOpen creating reaches
  have verdict : echo.verdict call =
      session.verdict (state.network.returns.headD plainReply) call := by
    rw [Echo.verdict, verdicts]
    cases state.network.returns with
    | nil => exact (session.verdict_plainReply speaks call).symm
    | cons back rest => rfl
  rw [Echo.answer_of_creating echo creating, outcome, after, verdict, project]
  refine ⟨rfl, isOpen.after request, rfl, ?_⟩
  simp only [verdicts, List.map_tail, Http.Network.after]

/-! ## Whole passes -/

/-- Over HTTP a session is opened for a project that has an ID. -/
theorem open?_eq {settings : ServiceSettings} {base : Url} {project : String}
    (read : Url.parse settings.endpoint = .ok base)
    (http : base.scheme = "http" ∨ base.scheme = "https") (named : project ≠ "")
    (legal : ∀ token ∈ settings.accessToken, (bearerAuthorization token).all isHeaderOctet) :
    let session : Session := ⟨base, project, settings.accessToken⟩
    Session.open? settings project = .ok session ∧ session.Speaks := by
  have special : Url.schemeKind base.scheme = .special := by
    rcases http with same | same <;> rw [same] <;> rfl
  obtain ⟨list, segmented⟩ := Url.exists_segments_of_parse read (by simp [special])
  have isBase : base.isBase = true := Url.isBase_iff.mpr ⟨list, segmented⟩
  constructor
  · exact Session.open?_eq_ok_iff.mpr ⟨named, base, read, isBase, rfl⟩
  · exact ⟨⟨list, segmented⟩, special, legal⟩

/-- A pass over HTTP.  The endpoint is one of HTTP, the token may stand in a header, the project has
an ID, and the client sends what it is asked to once; anything else may come back.  Then each call
that creates something makes one request, in the order of the calls, and nothing else makes one;
what is granted is named as it was asked to; and the pass is the one with a service in memory that
names what it grants as it was asked to and judges calls by what comes back. -/
theorem provision_refines_echo (settings : ServiceSettings) (base : Url) (spec : ProjectSpec)
    (start : State) (read : Url.parse settings.endpoint = .ok base)
    (http : base.scheme = "http" ∨ base.scheme = "https")
    (legal : ∀ token ∈ settings.accessToken, (bearerAuthorization token).all isHeaderOctet)
    (named : spec.id ≠ "") (reachable : start.network.reachable)
    (secure : base.scheme = "https" → start.network.secure)
    (stays : ∀ back ∈ start.network.returns, back.redirection? = none)
    (reaches : ∀ answered ∈ Entry.answered (spec.provision.run (backend settings) start).transcript,
      Session.reaches ⟨base, spec.id, settings.accessToken⟩ answered.call) :
    let session : Session := ⟨base, spec.id, settings.accessToken⟩
    let held := spec.provision.run (backend settings) start
    let echo : Echo := { verdicts := start.network.returns.map session.verdict }
    let again := spec.provision.run Echo.backend echo
    ∃ made requests,
      Entry.answered held.transcript = sessionLog spec.id made (.ok ()) ∧
      held.state.network.sent = start.network.sent ++ requests ∧
      List.Forall₂ (fun answered request => session.Puts answered.call request) made requests ∧
      (∀ answered ∈ made, ∀ grant, answered.outcome = .ok grant →
        grant = answered.call.grantIn spec.id) ∧
      Echo.backend.Echoes echo spec.id ∧
      held.result = again.result ∧
      Entry.answered held.transcript = Entry.answered again.transcript := by
  intro session held echo again
  obtain ⟨connects, speaks⟩ := open?_eq read http named legal
  have opening : (backend settings).answer start (.connect spec.id) =
      ⟨.ok (), [.endpointUsed base.text], { start with session := some session }⟩ := by
    simp only [backend, answer, connects]
    rfl
  have isOpen : Open session { start with session := some session } :=
    ⟨rfl, reachable, secure, stays⟩
  have initial : session.HasPut start.network.sent []
      ((backend settings).answer start (.connect spec.id)).state := by
    rw [opening]
    exact fun _ => ⟨isOpen, ⟨[], (List.append_nil _).symm, .nil⟩, by simp⟩
  obtain ⟨made, state, hasPut, log, left⟩ := ProjectSpec.session_keeps _
    (Session.HasPut.keeps settings speaks start.network.sent) (congrArg Answer.outcome opening)
    initial
  -- To close a session takes no request, and always succeeds.
  change Entry.answered held.transcript = sessionLog spec.id made (.ok ()) at log
  change held.state = state at left
  have reachesMade : ∀ answered ∈ made, session.reaches answered.call := by
    intro answered member
    exact reaches answered (by rw [log]; simp [sessionLog, member])
  obtain ⟨-, ⟨requests, sent, puts⟩, grants⟩ := hasPut reachesMade
  have mirrors : session.Mirrors ((backend settings).answer start (.connect spec.id)).state
      (Echo.backend.answer echo (.connect spec.id)).state := by
    rw [opening]
    exact ⟨isOpen, rfl, rfl⟩
  obtain ⟨result, same⟩ := ProjectSpec.provision_of_alike (session.alike_echo settings speaks)
    (congrArg Answer.outcome opening) mirrors
    fun answered member creating => ⟨creating, reaches answered member⟩
  refine ⟨made, requests, log, left ▸ sent, puts, grants, Echo.echoes echo spec.id, result, ?_⟩
  rcases same with same | ⟨others, _, _, -, log', again'⟩
  · exact same
  · exact log'.trans again'.symm

/-- A connection that is closed after a dead letter pair ends the pass with its fourth request.  By
then the names, the URLs and the policy of the pair have been sent. -/
theorem provision_refines_echo_dropped :
    let settings : ServiceSettings :=
      { endpoint := "http://localhost:8085", accessToken := some "secret" }
    let session : Session :=
      ⟨⟨"http", some { host := .name "localhost", port := some 8085 }, false, .segments [""], none,
        none⟩, "p", some "secret"⟩
    let spec : ProjectSpec := ⟨"p", [⟨"t", ["s+h|80+dlq"]⟩]⟩
    let returns := [plainReply, plainReply, plainReply, .dropped]
    let start : State := { network := { returns } }
    let held := spec.provision.run (backend settings) start
    let fault : BackendError :=
      .transport (.sending "http://localhost:8085/v1/projects/p/subscriptions/s")
    let topic : TopicHandle := ⟨"p", "t"⟩
    let deadLetterTopic : TopicHandle := ⟨"p", "t-dlq"⟩
    let made : List AnsweredCall :=
      [⟨.createTopic "t", .ok topic⟩, ⟨.createTopic "t-dlq", .ok deadLetterTopic⟩,
       ⟨.createSubscription "s-dlq" ⟨deadLetterTopic, some "http://h:80/dead", none⟩,
         .ok ⟨"p", "s-dlq"⟩⟩,
       ⟨.createSubscription "s"
         ⟨topic, some "http://h:80", some ⟨"projects/p/topics/t-dlq", 5⟩⟩, .error fault⟩]
    Url.parse settings.endpoint = .ok session.base ∧
      Entry.answered held.transcript = sessionLog "p" made (.ok ()) ∧
      List.Forall₂ (fun answered request => session.Puts answered.call request) made
        held.state.network.sent ∧
      held.state.network.sent.map Request.body =
        ["\x7b\x7d", "\x7b\x7d",
         "\x7b\"topic\":\"projects/p/topics/t-dlq\"," ++
           "\"pushConfig\":\x7b\"pushEndpoint\":\"http://h:80/dead\"\x7d\x7d",
         "\x7b\"topic\":\"projects/p/topics/t\"," ++
           "\"pushConfig\":\x7b\"pushEndpoint\":\"http://h:80\"\x7d," ++
           "\"deadLetterPolicy\":\x7b\"deadLetterTopic\":\"projects/p/topics/t-dlq\"," ++
           "\"maxDeliveryAttempts\":5\x7d\x7d"] ∧
      (spec.provision.run Echo.backend { verdicts := returns.map session.verdict }).result =
        .error (.subscriptionFailed "p" "t" "s" (some "http://h:80") fault) := by
  intro settings session spec returns start held fault topic deadLetterTopic made
  have read : Url.parse settings.endpoint = .ok session.base := by decide +kernel
  have legal : ∀ token ∈ settings.accessToken, (bearerAuthorization token).all isHeaderOctet := by
    decide +kernel
  have log : Entry.answered held.transcript = sessionLog "p" made (.ok ()) := by decide +kernel
  have reaches : ∀ answered ∈ Entry.answered held.transcript, session.reaches answered.call := by
    rw [log]
    decide +kernel
  obtain ⟨made', requests, log', sent, puts, -, -, result, -⟩ :=
    provision_refines_echo settings session.base spec start read (.inl rfl) legal (by decide) rfl
      (by decide) (by decide +kernel) reaches
  obtain rfl : made = made' :=
    (List.append_inj' (List.cons.inj (log.symm.trans log')).2 rfl).1
  refine ⟨read, log, ?_, by decide +kernel, ?_⟩
  · rw [sent]
    exact puts
  · refine result.symm.trans ?_
    decide +kernel

end Rest

end PubSubProvisioning
