import PubSubProvisioning.Http.Client

/-!
# Redirections that are followed

To follow redirections is to hand over one request after another, each of which a reply has led to.
What handing over a request does to a network, and what a redirection does to a request, is so all
that there is to know: a fact that both keep is kept however often the client is sent on.

Two clients are compared in the same way.  They go on alike as long as what comes back sends them on
alike.
-/

namespace PubSubProvisioning.Http

open Network

@[simp]
theorem Request.onward?_error (request : Request) (fault : TransportFault) :
    request.onward? (.error fault) = none :=
  rfl

@[simp]
theorem Request.onward?_ok (request : Request) (reply : Reply) :
    request.onward? (.ok reply) = request.redirection? reply :=
  rfl

/-- A reply that names no redirection is not followed anywhere. -/
theorem Request.redirection?_of_none {reply : Reply} (stays : reply.redirection? = none)
    (request : Request) : request.redirection? reply = none := by
  rw [Request.redirection?, stays]
  rfl

/-- Where a reply is followed to depends on the URL of the request and on nothing else of it. -/
theorem Request.onward?_congr {request twin : Request} (sameUrl : request.url = twin.url)
    (outcome : Except TransportFault Reply) : request.onward? outcome = twin.onward? outcome := by
  have sameFunction : request.redirection? = twin.redirection? := by
    funext reply
    rw [Request.redirection?, Request.redirection?, sameUrl]
  rw [Request.onward?, Request.onward?, sameFunction]

/-- Where what comes back is followed to depends on the redirection that it names and on nothing
else of it. -/
theorem Request.onward?_outcome {back other : Return}
    (same : back.redirection? = other.redirection?) (request : Request) :
    request.onward? (request.outcome back) = request.onward? (request.outcome other) := by
  cases back with
  | dropped =>
      cases other with
      | dropped => rfl
      | reply other => exact (Request.redirection?_of_none same.symm request).symm
  | reply reply =>
      cases other with
      | dropped => exact Request.redirection?_of_none same request
      | reply other =>
          rw [Return.redirection?, Return.redirection?] at same
          simp only [Request.outcome, Request.onward?_ok]
          rw [Request.redirection?, Request.redirection?, same]

namespace Network

variable {network other : Network} {request twin : Request}

/-- A request is not sent at all, or what is sent is to open a way for it, or it is sent itself and
something comes back for it. -/
theorem hand_cases (network : Network) (request : Request) :
    network.hand request = (request.outcome .dropped, network) ∨
      network.hand request = (request.outcome .dropped, network.after request.opening) ∨
      network.hand request =
        (request.outcome (network.returns.headD plainReply), network.after request) := by
  rw [hand]
  split
  · exact .inl rfl
  · split
    · exact .inr (.inl rfl)
    · exact .inr (.inr rfl)

/-- What holds of a network holds still after a request is handed over, if neither the request nor the
one to open a way for it makes a difference to that. -/
theorem hand_keeps (kept : Network → Prop) (untouched : kept network)
    (opened : kept (network.after request.opening)) (sent : kept (network.after request)) :
    kept (network.hand request).2 := by
  rcases network.hand_cases request with handed | handed | handed
  · rw [handed]
    exact untouched
  · rw [handed]
    exact opened
  · rw [handed]
    exact sent

/-- What a reply follows has been sent. -/
theorem hand_of_ok {reply : Reply} (answered : (network.hand request).1 = .ok reply) :
    network.returns.headD plainReply = .reply reply ∧
      (network.hand request).2 = network.after request := by
  rcases network.hand_cases request with handed | handed | handed
  · rw [handed] at answered
    contradiction
  · rw [handed] at answered
    contradiction
  · rw [handed] at answered ⊢
    cases back : network.returns.headD plainReply with
    | reply received =>
        rw [back] at answered
        exact ⟨congrArg Return.reply (Except.ok.inj answered), rfl⟩
    | dropped =>
        rw [back] at answered
        contradiction

/-- A request whose reply does not send the client on is handed over once. -/
theorem send_of_stays (stays : request.onward? (network.hand request).1 = none) :
    network.send request = network.hand request := by
  rw [send, follow, stays]

/-- What is ready for a request stays so along redirections, and each request that is handed over
keeps what it should keep. -/
theorem follow_keeps (ready : Network → Request → Prop) (kept : Network → Prop)
    (hands : ∀ {network request}, ready network request → kept (network.hand request).2)
    (goesOn : ∀ {network request reply kind url}, ready network request →
      (network.hand request).1 = .ok reply → request.redirection? reply = some (kind, url) →
      ready (network.hand request).2 (request.redirected kind url))
    (start : ready network request) (limit : Nat) : kept (network.follow request limit).2 := by
  induction limit generalizing network request with
  | zero =>
      rw [follow]
      split <;> exact hands start
  | succ limit inductionHypothesis =>
      rw [follow]
      split
      · exact hands start
      · rename_i kind url onward
        dsimp only
        split
        · cases handed : (network.hand request).1 with
          | error _ => simp [handed] at onward
          | ok reply =>
              rw [handed, Request.onward?_ok] at onward
              exact inductionHypothesis (goesOn start handed onward)
        · exact hands start

/-- Nothing that has been sent is taken back. -/
theorem sent_prefix_hand (network : Network) (request : Request) :
    network.sent <+: (network.hand request).2.sent := by
  have grown (later : Request) : network.sent <+: (network.after later).sent :=
    List.prefix_append network.sent [later]
  exact hand_keeps (network.sent <+: ·.sent) List.prefix_rfl (grown request.opening) (grown request)

theorem sent_prefix_follow (network : Network) (request : Request) (limit : Nat) :
    network.sent <+: (network.follow request limit).2.sent := by
  refine follow_keeps (fun later _ => network.sent <+: later.sent)
    (fun later => network.sent <+: later.sent) ?_ ?_ List.prefix_rfl limit
  · intro later request grown
    exact grown.trans (later.sent_prefix_hand request)
  · intro later request _ _ _ grown _ _
    exact grown.trans (later.sent_prefix_hand request)

/-- Where a reply comes in the end, the request has been sent before all that redirections led
to. -/
theorem sent_prefix_of_follow_ok {limit : Nat} {reply : Reply}
    (answered : (network.follow request limit).1 = .ok reply) :
    network.sent ++ [request] <+: (network.follow request limit).2.sent := by
  cases handed : (network.hand request).1 with
  | error fault =>
      rw [follow] at answered
      simp [handed] at answered
  | ok first =>
      have sent : (network.hand request).2.sent = network.sent ++ [request] := by
        rw [(hand_of_ok handed).2, after]
      rw [← sent, follow]
      split
      · exact List.prefix_rfl
      · split
        · exact List.prefix_rfl
        · split
          · exact sent_prefix_follow _ _ _
          · exact List.prefix_rfl

/-- Related clients that are sent on alike stay related, and their outcomes agree. -/
theorem follow_relates (networks : Network → Network → Prop) (requests : Request → Request → Prop)
    (agree : Except TransportFault Reply → Except TransportFault Reply → Prop)
    (hands : ∀ {network other request twin}, networks network other → requests request twin →
      let handed := network.hand request
      let handed' := other.hand twin
      agree handed.1 handed'.1 ∧ networks handed.2 handed'.2 ∧
        request.onward? handed.1 = twin.onward? handed'.1)
    (redirects : ∀ {request twin}, requests request twin → ∀ kind url,
      requests (request.redirected kind url) (twin.redirected kind url))
    (sameUrl : ∀ {request twin}, requests request twin → request.url = twin.url)
    (faults : ∀ fault, agree (.error fault) (.error fault))
    (start : networks network other) (asked : requests request twin) (limit : Nat) :
    agree (network.follow request limit).1 (other.follow twin limit).1 ∧
      networks (network.follow request limit).2 (other.follow twin limit).2 := by
  induction limit generalizing network other request twin with
  | zero =>
      obtain ⟨outcomes, after, onward⟩ := hands start asked
      rw [follow, follow]
      dsimp only
      rw [← onward, sameUrl asked]
      split
      · exact ⟨outcomes, after⟩
      · exact ⟨faults _, after⟩
  | succ limit inductionHypothesis =>
      obtain ⟨outcomes, after, onward⟩ := hands start asked
      rw [follow, follow]
      dsimp only
      rw [← onward]
      split
      · exact ⟨outcomes, after⟩
      · rename_i kind url _
        split
        · exact inductionHypothesis after (redirects asked kind url)
        · exact ⟨faults _, after⟩

end Network

end PubSubProvisioning.Http
