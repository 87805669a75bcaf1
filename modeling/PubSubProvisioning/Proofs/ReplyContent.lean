import PubSubProvisioning.Proofs.Concurring
import PubSubProvisioning.Proofs.RestRefinement

/-!
# What a batch takes from replies

A reply is good if it reports success and its body arrives.  Over HTTP this, and where a redirection
leads, is all that a batch takes from a reply before it goes on: what a good reply says is at most
noted down, and in which way another one is bad shows in the cause of the failure and nowhere else.

A redirection is not good, yet what it leads to may be.  So replies that are bad alike do not steer
a batch alike unless they send the client on alike.
-/

namespace PubSubProvisioning

namespace Http

/-! ## Good replies -/

/-- Whether a reply reports success and its body arrives.  Where the status announces that there is
no body, there is nothing to wait for. -/
def Reply.isGood (reply : Reply) : Bool :=
  isSuccess reply.status && reply.body?.isSome

/-- Whether what comes back is a good reply. -/
def Return.isGood : Return → Bool
  | .reply received => received.isGood
  | .dropped => false

/-- Whether sending a request has led to a good reply. -/
def isGoodOutcome : Except TransportFault Reply → Bool
  | .ok reply => reply.isGood
  | .error _ => false

/-! ## Networks that are good alike -/

namespace Network

variable {first second : Network}

/-- Networks that are alike but for what comes back, and there good replies are at the same places,
and so are redirections, with the same locations. -/
structure GoodAlike (first second : Network) : Prop where
  reachable : first.reachable = second.reachable
  secure : first.secure = second.secure
  returns : first.returns.map Return.isGood = second.returns.map Return.isGood
  redirections :
    first.returns.map Return.redirection? = second.returns.map Return.redirection?
  sent : first.sent = second.sent

theorem GoodAlike.after (alike : first.GoodAlike second) (request : Request) :
    (first.after request).GoodAlike (second.after request) where
  reachable := alike.reachable
  secure := alike.secure
  returns := by simp only [Network.after, List.map_tail, alike.returns]
  redirections := by simp only [Network.after, List.map_tail, alike.redirections]
  sent := by simp only [Network.after, alike.sent]

/-- What holds alike of all that comes back holds alike of what comes back next, also where nothing
but plain replies are left. -/
theorem map_headD_congr {α : Type} {seen : Return → α} {returns others : List Return}
    (same : returns.map seen = others.map seen) :
    seen (returns.headD plainReply) = seen (others.headD plainReply) := by
  have heads := congrArg (List.headD · (seen plainReply)) same
  simpa only [List.headD_eq_head?_getD, List.head?_map, Option.getD_map] using heads

theorem isGoodOutcome_outcome (request : Request) (back : Return) :
    isGoodOutcome (request.outcome back) = back.isGood := by
  cases back <;> rfl

/-- A request that is handed over leads to a good reply over both networks or over neither, and
sends the client on alike. -/
theorem GoodAlike.hand (alike : first.GoodAlike second) (request : Request) :
    isGoodOutcome (first.hand request).1 = isGoodOutcome (second.hand request).1 ∧
      (first.hand request).2.GoodAlike (second.hand request).2 ∧
      request.onward? (first.hand request).1 = request.onward? (second.hand request).1 := by
  simp only [Network.hand, alike.reachable, alike.secure]
  split
  · exact ⟨rfl, alike, rfl⟩
  · split
    · exact ⟨rfl, alike.after request.opening, rfl⟩
    · refine ⟨?_, alike.after request, ?_⟩
      · simp only [isGoodOutcome_outcome]
        exact map_headD_congr alike.returns
      · exact Request.onward?_outcome (map_headD_congr alike.redirections) request

/-- A request leads to a good reply over both networks or over neither, and they stay alike. -/
theorem GoodAlike.send (alike : first.GoodAlike second) (request : Request) :
    isGoodOutcome (first.send request).1 = isGoodOutcome (second.send request).1 ∧
      (first.send request).2.GoodAlike (second.send request).2 := by
  refine follow_relates GoodAlike Eq
    (fun outcome other => isGoodOutcome outcome = isGoodOutcome other)
    ?_ ?_ ?_ (fun _ => rfl) alike rfl redirectionLimit
  · rintro network other request _ alike rfl
    exact alike.hand request
  · rintro request _ rfl kind url
    rfl
  · rintro request _ rfl
    rfl

end Network

end Http

namespace Rest

open PubSubProvisioning.Http (Network Reply Return)

/-! ## The service -/

/-- A reply grants what was asked for exactly if it is good. -/
theorem judge_eq_ok_iff (resource : String) (reply : Reply) :
    (judge resource reply).1 = .ok () ↔ reply.isGood := by
  rw [Reply.isGood]
  by_cases success : Http.isSuccess reply.status
  · cases arrives : reply.body? with
    | none => simp [judge, success, arrives]
    | some body => simp [judge_of_success reply success arrives, success]
  · simp [judge, success]

theorem judgeOutcome_eq_ok_iff (resource : String) (outcome : Except TransportFault Reply) :
    judgeOutcome resource outcome = .ok () ↔ Http.isGoodOutcome outcome := by
  cases outcome with
  | error fault => simp [judgeOutcome, Http.isGoodOutcome]
  | ok reply => exact judge_eq_ok_iff resource reply

/-- What is put is stored over both networks or over neither. -/
theorem Session.put_of_goodAlike (session : Session) (collection : Collection) (id body : String)
    {first second : Network} (alike : first.GoodAlike second) :
    let exchange := session.put collection id body first
    let other := session.put collection id body second
    AgreeUpTo (fun _ _ => True) exchange.outcome other.outcome ∧
      exchange.network.GoodAlike other.network := by
  intro exchange other
  rcases session.put_cases collection id body with ⟨error, unsent⟩ | ⟨url, -, sends⟩
  · obtain ⟨failed, same⟩ := unsent first
    obtain ⟨failed', same'⟩ := unsent second
    simp only [exchange, other, failed, same, failed', same']
    exact ⟨.errors trivial, alike⟩
  · obtain ⟨judged, left⟩ := sends first
    obtain ⟨judged', left'⟩ := sends second
    obtain ⟨good, after⟩ := alike.send (Http.storing url session.accessToken body)
    constructor
    · apply AgreeUpTo.of_eq_ok_iff
      rw [judged, judged', judgeOutcome_eq_ok_iff, judgeOutcome_eq_ok_iff, good]
    · rw [left, left']
      exact after

/-- States with the same session, whose networks are good alike. -/
structure State.GoodAlike (state other : State) : Prop where
  session : state.session = other.session
  network : state.network.GoodAlike other.network

/-- Over networks that are good alike the service answers alike, but for the causes that it
gives. -/
theorem concurs (settings : ServiceSettings) :
    (backend settings).Concurs (backend settings) State.GoodAlike := by
  rintro ⟨session, network⟩ ⟨_, network'⟩ call ⟨rfl, alike⟩
  cases call with
  | connect project =>
      simp only [backend, answer]
      cases Session.open? settings project with
      | error _ => exact ⟨.errors trivial, rfl, alike⟩
      | ok session => exact ⟨.value (), rfl, alike⟩
  | close => exact ⟨.value (), rfl, alike⟩
  | createTopic id =>
      cases session with
      | none => exact ⟨.errors trivial, rfl, alike⟩
      | some session =>
          obtain ⟨outcomes, after⟩ := session.put_of_goodAlike .topics id topicBody alike
          exact ⟨outcomes.map _, rfl, after⟩
  | createSubscription id config =>
      cases session with
      | none => exact ⟨.errors trivial, rfl, alike⟩
      | some session =>
          obtain ⟨outcomes, after⟩ :=
            session.put_of_goodAlike .subscriptions id (subscriptionBody config) alike
          exact ⟨outcomes.map _, rfl, after⟩

/-! ## Batches -/

end Rest

end PubSubProvisioning
