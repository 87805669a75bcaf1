import PubSubProvisioning.Proofs.DebugFlag
import PubSubProvisioning.Proofs.ReplyContent
import PubSubProvisioning.Proofs.Variables

/-!
# Where the access token goes

The token goes into the header of requests and nowhere else.  To leave it out of a session and out
of the requests is a map of the states of the service, and the service without a token answers in
the mapped state as the one with the token does in its own; so a whole dialogue takes the same
course.  Two runs with different tokens are then compared by way of the run without one.

Which requests have the token is a matter of servers.  The client shows it to the server of the
endpoint.  Once a redirection has led to another server, requests go on without it.
-/

namespace PubSubProvisioning

open PubSubProvisioning.Http (Network Return)
open PubSubProvisioning.Text (allBlank)
open PubSubProvisioning.Unicode (Utf8.encode Utf8.encode_append)

/-! ## Dialogues in mapped states -/

section Mapped

variable {σ τ α : Type} {first : Backend σ} {second : Backend τ} {kept : σ → Prop} {image : σ → τ}

/-- One service answers in mapped states as another does in its own, where these have a property
that is kept. -/
def Backend.MapsTo (first : Backend σ) (second : Backend τ) (kept : σ → Prop) (image : σ → τ) :
    Prop :=
  ∀ state call, kept state →
    let answer := first.answer state call
    second.answer (image state) call = ⟨answer.outcome, answer.events, image answer.state⟩ ∧
      kept answer.state

/-- A dialogue takes the same course in mapped states. -/
theorem Dialogue.run_of_mapsTo (maps : first.MapsTo second kept image) (dialogue : Dialogue α)
    {state : σ} (start : kept state) :
    let held := dialogue.run first state
    dialogue.run second (image state) = ⟨held.result, image held.state, held.transcript⟩ ∧
      kept held.state := by
  induction dialogue generalizing state with
  | done result => exact ⟨rfl, start⟩
  | note event next inductionHypothesis =>
      rcases inductionHypothesis start with ⟨course, last⟩
      rw [run, run, course]
      exact ⟨rfl, last⟩
  | ask call next inductionHypothesis =>
      rcases maps state call start with ⟨answered, after⟩
      rcases inductionHypothesis (first.answer state call).outcome after with ⟨course, last⟩
      rw [run, run, answered]
      dsimp only
      rw [course]
      exact ⟨rfl, last⟩

end Mapped

/-! ## Requests without their tokens -/

namespace Http

/-- The tokens that a request hands over, as values of its header. -/
def Request.tokens (request : Request) : List (List UInt8) :=
  request.authorization.filter isBearer

/-- The request without its tokens. -/
def Request.withoutTokens (request : Request) : Request :=
  { request with authorization := request.authorization.filter (!isBearer ·) }

/-- A request goes to the server of an endpoint. -/
def Request.IsFor (endpoint : String) (request : Request) : Prop :=
  ∃ base, Url.parse endpoint = .ok base ∧ sameServer base request.url

/-- A request that is sent in a certain place has no token because a redirection has led to it: from
a request that had none either, or from one to another server.  It stands behind that request, and
`returns` are what comes back for requests. -/
def Withheld (returns : List Return) (sent : List Request) (number : Nat) (request : Request) :
    Prop :=
  ∃ before previous reply kind url, number = before + 1 ∧ sent[before]? = some previous ∧
    returns[before]? = some (.reply reply) ∧ previous.redirection? reply = some (kind, url) ∧
    request = previous.redirected kind url ∧
    (previous.tokens = [] ∨ sameServer previous.url request.url = false)

/-- What has been sent over a network that had nothing sent over it before.  A request hands over
nothing but the token, and only to the server of the endpoint.  It hands over none where there is
none, where it is to open a way to a server, and where a redirection has led away. -/
structure Network.Guards (token : Option String) (endpoint : String) (returns : List Return)
    (network : Network) : Prop where
  left : network.returns = returns.drop network.sent.length
  shown : ∀ request ∈ network.sent, request.tokens ≠ [] →
    request.tokens = token.toList.map bearerAuthorization ∧ request.IsFor endpoint
  withheld : ∀ number request, network.sent[number]? = some request → request.tokens = [] →
    token = none ∨ request.method = .connect ∨ Withheld returns network.sent number request

/-- The network, with the tokens left out of the requests so far. -/
def Network.withoutTokens (network : Network) : Network :=
  { network with sent := network.sent.map Request.withoutTokens }

variable {token : Option String} {endpoint : String} {returns : List Return} {network : Network}
  {request : Request}

/-- Without its tokens a request is the one that is put together without a token. -/
theorem storing_withoutTokens (url : Url) (token : Option String) (body : String) :
    (storing url token body).withoutTokens = storing url none body := by
  rw [Request.withoutTokens, storing, storing]
  cases login? url <;> cases token <;>
    simp [isBearer_basicAuthorization, isBearer_bearerAuthorization]

/-- A token that may stand in a header makes no other difference to a request. -/
theorem request_none_eq (legal : token.all isHeaderText) (url : Url) (body : String) :
    Http.request url none body = (Http.request url token body).map Request.withoutTokens := by
  rw [request_eq_ite, request_eq_ite, legal]
  by_cases target : isTarget (bare url)
  · simp [target, Except.map, storing_withoutTokens]
  · simp [target, Except.map]

theorem opening_withoutTokens (request : Request) :
    request.withoutTokens.opening = request.opening.withoutTokens :=
  rfl

theorem outcome_withoutTokens (request : Request) :
    request.withoutTokens.outcome = request.outcome := by
  funext back
  cases back <;> rfl

/-- Whether a redirection is followed with the credentials or without them, the tokens can be left
out before or after. -/
theorem redirected_withoutTokens (request : Request) (kind : RedirectionKind) (url : Url) :
    request.withoutTokens.redirected kind url = (request.redirected kind url).withoutTokens := by
  simp only [Request.redirected, Request.withoutTokens, Request.origin?,
    apply_ite (List.filter (!isBearer ·)), List.filter_nil]
  rfl

/-- A redirection takes the tokens to the same server and to no other one. -/
theorem tokens_redirected (request : Request) (kind : RedirectionKind) (url : Url) :
    (request.redirected kind url).tokens =
      if sameServer request.url url then request.tokens else [] := by
  simp only [Request.redirected, Request.tokens]
  split <;> rfl

/-- To leave the user name and the password out does not lead to another server. -/
theorem sameServer_bare (url other : Url) : sameServer url (bare other) = sameServer url other := by
  have host : (bare other).host? = other.host? := by
    rw [bare]
    split
    · simp [withoutLogin, Url.host?, Function.comp_def]
    · rfl
  have port : (bare other).effectivePort? = other.effectivePort? := by
    rw [bare]
    split
    · simp only [withoutLogin, Url.effectivePort?]
      cases other.authority <;> rfl
    · rfl
  rw [sameServer, sameServer, host, port]

theorem sameServer_trans {first second third : Url} (same : sameServer first second)
    (next : sameServer second third) : sameServer first third := by
  simp only [sameServer, Bool.and_eq_true, decide_eq_true_eq] at same next ⊢
  exact ⟨same.1.trans next.1, same.2.trans next.2⟩

namespace Network

theorem withoutTokens_of_fresh (fresh : network.sent = []) : network.withoutTokens = network := by
  rw [withoutTokens, fresh, List.map_nil, ← fresh]

theorem guards_of_fresh (fresh : network.sent = []) :
    network.Guards token endpoint network.returns where
  left := by rw [fresh, List.length_nil, List.drop_zero]
  shown := by simp [fresh]
  withheld := by simp [fresh]

theorem after_withoutTokens (network : Network) (request : Request) :
    network.withoutTokens.after request.withoutTokens = (network.after request).withoutTokens := by
  simp [after, withoutTokens]

/-- Only the requests so far change. -/
theorem frame_withoutTokens (network : Network) :
    network.withoutTokens.reachable = network.reachable ∧
      network.withoutTokens.secure = network.secure ∧
      network.withoutTokens.returns = network.returns :=
  ⟨rfl, rfl, rfl⟩

/-- What comes back for one request does not depend on tokens. -/
theorem hand_withoutTokens (network : Network) (request : Request) :
    network.withoutTokens.hand request.withoutTokens =
      ((network.hand request).1, (network.hand request).2.withoutTokens) := by
  have sameUrl : request.withoutTokens.url = request.url := rfl
  simp only [hand, sameUrl, frame_withoutTokens, opening_withoutTokens, outcome_withoutTokens,
    after_withoutTokens]
  split
  · rfl
  · split <;> rfl

/-- What comes back in the end does not depend on tokens either. -/
theorem send_withoutTokens (network : Network) (request : Request) :
    network.withoutTokens.send request.withoutTokens =
      ((network.send request).1, (network.send request).2.withoutTokens) := by
  suffices course : (network.send request).1 =
        (network.withoutTokens.send request.withoutTokens).1 ∧
      (network.withoutTokens.send request.withoutTokens).2 =
        (network.send request).2.withoutTokens from Prod.ext course.1.symm course.2
  refine follow_relates (fun network other => other = network.withoutTokens)
    (fun request twin => twin = request.withoutTokens) Eq
    ?_ ?_ ?_ (fun _ => rfl) rfl rfl redirectionLimit
  · rintro network _ request _ rfl rfl
    rw [hand_withoutTokens]
    exact ⟨rfl, rfl, Request.onward?_congr rfl _⟩
  · rintro request _ rfl kind url
    exact redirected_withoutTokens request kind url
  · rintro request _ rfl
    rfl

/-! ## Requests with their tokens -/

/-- Why a request has no token is not forgotten while more is sent. -/
theorem Withheld.append {sent : List Request} {number : Nat}
    (withheld : Withheld returns sent number request) (later : Request) :
    Withheld returns (sent ++ [later]) number request := by
  obtain ⟨before, previous, reply, kind, url, place, found, reason⟩ := withheld
  refine ⟨before, previous, reply, kind, url, place, ?_, reason⟩
  rw [List.getElem?_append_left (List.getElem?_eq_some_iff.mp found).1, found]

/-- A request that is to be sent next has the tokens that it should have. -/
structure Ready (token : Option String) (endpoint : String) (returns : List Return)
    (network : Network) (request : Request) : Prop where
  guards : network.Guards token endpoint returns
  shown : request.tokens ≠ [] →
    request.tokens = token.toList.map bearerAuthorization ∧ request.IsFor endpoint
  withheld : request.tokens = [] → token = none ∨ request.method = .connect ∨
    Withheld returns network.sent network.sent.length request

/-- What has been sent after one more request has been sent before, or it is that request. -/
theorem found_after {number : Nat} {later : Request}
    (found : (network.after request).sent[number]? = some later) :
    network.sent[number]? = some later ∨ number = network.sent.length ∧ later = request := by
  rw [Network.after] at found
  have inside := (List.getElem?_eq_some_iff.mp found).1
  rw [List.length_append, List.length_singleton] at inside
  rcases Nat.lt_or_ge number network.sent.length with earlier | last
  · exact .inl (by rwa [List.getElem?_append_left earlier] at found)
  · obtain rfl : number = network.sent.length := by omega
    rw [List.getElem?_concat_length, Option.some.injEq] at found
    exact .inr ⟨rfl, found.symm⟩

theorem Ready.after (ready : network.Ready token endpoint returns request) :
    (network.after request).Guards token endpoint returns where
  left := by simp [Network.after, ready.guards.left]
  shown := List.forall_mem_append.mpr
    ⟨ready.guards.shown, List.forall_mem_singleton.mpr ready.shown⟩
  withheld number later found noTokens := by
    rcases found_after found with before | ⟨rfl, rfl⟩
    · exact (ready.guards.withheld number later before noTokens).imp_right
        (Or.imp_right (Withheld.append · request))
    · exact (ready.withheld noTokens).imp_right (Or.imp_right (Withheld.append · later))

theorem Ready.hand (ready : network.Ready token endpoint returns request) :
    (network.hand request).2.Guards token endpoint returns := by
  -- A request that is to open a way has no token, and needs none.
  have opening : network.Ready token endpoint returns request.opening :=
    ⟨ready.guards, fun shown => absurd rfl shown, fun _ => .inr (.inl rfl)⟩
  exact hand_keeps (Network.Guards token endpoint returns) ready.guards opening.after ready.after

/-- A reply that sends the client on is one of the returns: plain replies, which come when nothing
else is left, do not. -/
theorem Guards.returned {reply : Reply} {next : RedirectionKind × Url}
    (guards : network.Guards token endpoint returns)
    (back : network.returns.headD plainReply = .reply reply)
    (onward : request.redirection? reply = some next) :
    returns[network.sent.length]? = some (.reply reply) := by
  rw [← List.head?_drop, ← guards.left]
  cases left : network.returns with
  | nil =>
      rw [left] at back
      obtain rfl := Return.reply.inj back
      contradiction
  | cons first rest =>
      rw [left] at back
      exact congrArg some back

/-- A redirection leads to the server of the endpoint with the token, or on without it. -/
theorem Ready.redirected {reply : Reply} {kind : RedirectionKind} {url : Url}
    (ready : network.Ready token endpoint returns request)
    (answered : (network.hand request).1 = .ok reply)
    (onward : request.redirection? reply = some (kind, url)) :
    (network.hand request).2.Ready token endpoint returns (request.redirected kind url) := by
  refine ⟨ready.hand, ?_, ?_⟩
  · rw [tokens_redirected]
    intro shown
    by_cases same : sameServer request.url url
    · rw [if_pos same] at shown ⊢
      obtain ⟨bearer, base, read, home⟩ := ready.shown shown
      exact ⟨bearer, base, read, sameServer_trans home same⟩
    · rw [if_neg same] at shown
      contradiction
  · intro noTokens
    obtain ⟨back, after⟩ := hand_of_ok answered
    have returned := ready.guards.returned back onward
    refine .inr (.inr ⟨network.sent.length, request, reply, kind, url, ?_, ?_, returned, onward,
      rfl, ?_⟩)
    · rw [after]
      simp [Network.after]
    · rw [after]
      exact List.getElem?_concat_length
    · rw [tokens_redirected] at noTokens
      by_cases same : sameServer request.url url
      · exact .inl (by rwa [if_pos same] at noTokens)
      · exact .inr (Bool.eq_false_iff.mpr same)

/-- A request that has the tokens that it should have is sent with all that redirections lead to. -/
theorem Ready.send (ready : network.Ready token endpoint returns request) :
    (network.send request).2.Guards token endpoint returns :=
  follow_keeps (Network.Ready token endpoint returns) (Network.Guards token endpoint returns)
    Ready.hand Ready.redirected ready redirectionLimit

end Network

end Http

/-! ## The service without a token -/

namespace Rest

open PubSubProvisioning.Http (isHeaderText)

/-- The session of a client that has no token. -/
def Session.withoutToken (session : Session) : Session :=
  { session with accessToken := none }

/-- The exchange, with the tokens left out of the requests on the network after it. -/
def Exchange.withoutTokens {α : Type} (exchange : Exchange α) : Exchange α :=
  { exchange with network := exchange.network.withoutTokens }

/-- The state of a client that has no token. -/
def State.withoutToken (state : State) : State :=
  ⟨state.session.map Session.withoutToken, state.network.withoutTokens⟩

/-- The session that is open is one with these settings, and the token has been guarded. -/
structure State.Guards (settings : ServiceSettings) (returns : List Return) (state : State) : Prop
    where
  session : ∀ session ∈ state.session, session.accessToken = settings.accessToken ∧
    Url.parse settings.endpoint = .ok session.base
  network : state.network.Guards settings.accessToken settings.endpoint returns

variable {session : Session} {network : Network} {settings : ServiceSettings}
  {returns : List Return}

theorem Session.put_withoutToken (legal : session.accessToken.all isHeaderText)
    (collection : Collection) (id body : String) (network : Network) :
    session.withoutToken.put collection id body network.withoutTokens =
      (session.put collection id body network).withoutTokens := by
  have sameUrl : session.withoutToken.resourceUrl collection id =
      session.resourceUrl collection id := rfl
  have sameName : session.withoutToken.resourceName collection id =
      session.resourceName collection id := rfl
  have noToken : session.withoutToken.accessToken = none := rfl
  rw [put, put, sameUrl, sameName, noToken]
  cases session.resourceUrl collection id with
  | error error => rfl
  | ok url =>
      dsimp only
      rw [Http.request_none_eq legal]
      cases Http.request url session.accessToken body with
      | error fault => rfl
      | ok request =>
          simp only [Except.map]
          rw [Network.send_withoutTokens]
          rcases network.send request with ⟨fault | reply, after⟩
          · rfl
          · rfl

/-- The URLs of resources lead to the server of the session. -/
theorem Session.sameServer_of_resourceUrl {collection : Collection} {id : String} {url : Url}
    (found : session.resourceUrl collection id = .ok url) :
    Http.sameServer session.base (Http.bare url) := by
  rw [Http.sameServer_bare]
  rw [resourceUrl, Url.append?] at found
  cases path : session.base.path with
  | rootless _ => simp [path] at found
  | segments list =>
      simp only [path, Except.ok.injEq] at found
      rw [← found]
      simp [Http.sameServer, Url.host?, Url.effectivePort?]

/-- What is put is put with the token of the session. -/
theorem State.Guards.put (guards : State.Guards settings returns ⟨some session, network⟩)
    (collection : Collection) (id body : String) :
    State.Guards settings returns
      ⟨some session, (session.put collection id body network).network⟩ := by
  refine ⟨guards.session, ?_⟩
  obtain ⟨ofToken, read⟩ := guards.session session rfl
  rcases session.put_cases collection id body with ⟨error, unsent⟩ | ⟨url, found, sends⟩
  · rw [(unsent network).2]
    exact guards.network
  · rw [(sends network).2, ofToken]
    have tokens := Http.filter_isBearer_storing url settings.accessToken body
    have home := Session.sameServer_of_resourceUrl found
    refine Network.Ready.send ⟨guards.network, fun _ => ⟨tokens, session.base, read, home⟩, ?_⟩
    intro noTokens
    rw [Http.Request.tokens, tokens, List.map_eq_nil_iff, Option.toList_eq_nil_iff] at noTokens
    exact .inl noTokens

theorem Session.open?_withoutToken (settings : ServiceSettings) (project : String) :
    open? { settings with accessToken := none } project =
      (open? settings project).map withoutToken := by
  rw [open?, open?]
  split
  · rfl
  · cases Url.parse settings.endpoint with
    | error reason => rfl
    | ok base =>
        dsimp only
        split <;> rfl

theorem Session.ofSettings_of_open? {project : String}
    (opened : open? settings project = .ok session) :
    session.accessToken = settings.accessToken ∧
      Url.parse settings.endpoint = .ok session.base := by
  obtain ⟨-, base, read, -, rfl⟩ := Session.open?_eq_ok_iff.mp opened
  exact ⟨rfl, read⟩

/-- The service answers in states without the token as it does with a token that may stand in a
header. -/
theorem mapsTo_withoutToken (settings : ServiceSettings)
    (legal : settings.accessToken.all isHeaderText) (returns : List Return) :
    (backend settings).MapsTo (backend { settings with accessToken := none })
      (State.Guards settings returns) State.withoutToken := by
  rintro ⟨session, network⟩ call guards
  cases call with
  | connect project =>
      simp only [backend, answer, Session.open?_withoutToken]
      cases opened : Session.open? settings project with
      | error error => exact ⟨rfl, guards⟩
      | ok session =>
          refine ⟨rfl, ?_, guards.network⟩
          rintro _ ⟨rfl⟩
          exact Session.ofSettings_of_open? opened
  | close => cases session <;> exact ⟨rfl, guards⟩
  | createTopic id =>
      cases session with
      | none => exact ⟨rfl, guards⟩
      | some session =>
          rw [← (guards.session session rfl).1] at legal
          have put := session.put_withoutToken legal .topics id topicBody network
          refine ⟨?_, guards.put .topics id topicBody⟩
          simp only [backend, answer, State.withoutToken, Option.map_some, Session.createTopic, put]
          rfl
  | createSubscription id config =>
      cases session with
      | none => exact ⟨rfl, guards⟩
      | some session =>
          rw [← (guards.session session rfl).1] at legal
          have put :=
            session.put_withoutToken legal .subscriptions id (subscriptionBody config) network
          refine ⟨?_, guards.put .subscriptions id (subscriptionBody config)⟩
          simp only [backend, answer, State.withoutToken, Option.map_some,
            Session.createSubscription, put]
          rfl

end Rest

/-! ## Environments -/

namespace Environment

variable {environment first second : Environment}

/-- Environments that differ at most in the token. -/
def AgreeButForToken (first second : Environment) : Prop :=
  ∀ name, name ≠ "PUBSUB_ACCESS_TOKEN" → first.get? name = second.get? name

/-- The token of the environment, if it has one that is not blank. -/
def token? (environment : Environment) : Option String :=
  (environment.get? "PUBSUB_ACCESS_TOKEN").filter (!allBlank ·)

theorem accessToken_ofEnvironment (environment : Environment) :
    (ServiceSettings.ofEnvironment environment).accessToken = environment.token? :=
  rfl

/-- The token of the environment, if it has one, is blank or may stand in a header. -/
def HasUsableToken (environment : Environment) : Prop :=
  ∀ token ∈ environment.get? "PUBSUB_ACCESS_TOKEN", allBlank token ∨ Http.isHeaderText token

theorem HasUsableToken.all_token? (usable : environment.HasUsableToken) :
    environment.token?.all Http.isHeaderText := by
  rw [Option.all_eq_true]
  intro token filled
  rcases Option.filter_eq_some_iff.mp filled with ⟨given, present⟩
  rcases usable token given with blank | legal
  · simp [blank] at present
  · exact legal

theorem AgreeButForToken.projects (agree : first.AgreeButForToken second) :
    first.projects = second.projects := by
  apply projects_congr
  intro number
  exact agree _ (projectVariable_ne (by decide))

/-- Without the token the settings are the same. -/
theorem AgreeButForToken.settings (agree : first.AgreeButForToken second) :
    ({ ServiceSettings.ofEnvironment first with accessToken := none } : ServiceSettings) =
      { ServiceSettings.ofEnvironment second with accessToken := none } := by
  have host := agree "PUBSUB_EMULATOR_HOST" (by decide)
  simp only [ServiceSettings.ofEnvironment, ServiceSettings.filled?, host]

end Environment

/-! ## Two runs -/

namespace Invocation

variable {environment : Environment} {network : Network}

/-- The command is held as it would be without the token, and the token is guarded. -/
theorem holdCommand_withoutToken (build : Build) (program : String) (arguments : List String)
    (flags : Flags) (usable : environment.HasUsableToken) (fresh : network.sent = []) :
    let held := holdCommand build ⟨program, arguments, environment⟩ flags network
    let settings := ServiceSettings.ofEnvironment environment
    (runCommand build flags program environment.projects).run
        (Rest.backend { settings with accessToken := none }) { network } =
      ⟨held.result, held.state.withoutToken, held.transcript⟩ ∧
      held.state.Guards settings network.returns := by
  intro held settings
  have start : Rest.State.Guards settings network.returns { network } :=
    ⟨by simp, Network.guards_of_fresh fresh⟩
  have same : Rest.State.withoutToken { network } = { network } :=
    congrArg (Rest.State.mk none) (Network.withoutTokens_of_fresh fresh)
  have legal := usable.all_token?
  rw [← Environment.accessToken_ofEnvironment] at legal
  have course := Dialogue.run_of_mapsTo (Rest.mapsTo_withoutToken settings legal network.returns)
    (runCommand build flags program environment.projects) start
  rwa [same] at course

end Invocation

end PubSubProvisioning
