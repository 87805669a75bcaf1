import PubSubProvisioning.Proofs.JsonRecords
import PubSubProvisioning.Proofs.JsonWriting
import PubSubProvisioning.Proofs.Requests
import PubSubProvisioning.Rest

/-!
# Requests for subscriptions

The body of a request for a subscription is the text of one value, an object with the parts of the
configuration and nothing else.  Whatever characters stand in the names and the URLs, they are those
of the configuration, so the body determines what of the configuration it was made from.
-/

namespace PubSubProvisioning.Rest

open PubSubProvisioning.Http (Network Request)
open PubSubProvisioning.Json (IsPhrase IsRecord Value)

/-! ## Objects -/

/-- The members are the given fields, and others there are none. -/
structure AreExactly (members : List (Option String × Value)) (given : List (String × Option Value)) :
    Prop where
  isRecord : IsRecord (given.map (·.1)) 0 (.object members) (given.map (·.2))
  nothingElse : ∀ member ∈ members, ∃ field ∈ given, member.1 = some field.1

/-- What the service is told about URLs to push to. -/
def pushConfigValue (url : String) : Value :=
  .object [(some "pushEndpoint", .string (some url))]

/-- What the service is told about undeliverable messages. -/
def deadLetterPolicyValue (policy : DeadLetterPolicy) : Value :=
  .object
    [(some "deadLetterTopic", .string (some policy.topicName)),
     (some "maxDeliveryAttempts", .number (toString policy.attempts))]

/-- The parts of a configuration, under the keys of a request. -/
def configFields (config : SubscriptionConfig) : List (String × Option Value) :=
  [("topic", some (.string (some config.topic.name))),
   ("pushConfig", config.pushUrl.map pushConfigValue),
   ("deadLetterPolicy", config.deadLetters.map deadLetterPolicyValue)]

/-- The members that a request for a subscription has. -/
def configMembers (config : SubscriptionConfig) : List (Option String × Value) :=
  (some "topic", .string (some config.topic.name)) ::
    ((config.pushUrl.toList.map fun url => (some "pushConfig", pushConfigValue url)) ++
      config.deadLetters.toList.map fun policy =>
        (some "deadLetterPolicy", deadLetterPolicyValue policy))

theorem areExactly_configMembers (config : SubscriptionConfig) :
    AreExactly (configMembers config) (configFields config) := by
  constructor
  · apply Json.fields?_eq_some_iff.mp
    rcases config with ⟨topic, _ | url, _ | policy⟩ <;>
      simp [Json.fields?, Json.keyed?, Json.valueOf?, configMembers, configFields]
  · rcases config with ⟨topic, _ | url, _ | policy⟩ <;> simp [configMembers, configFields]

/-! ## Bodies -/

theorem isPhrase_pushConfig (url : String) :
    IsPhrase (.value (pushConfigValue url))
      (.ofText (Json.objectText [("pushEndpoint", Json.stringText url)])) :=
  Json.isPhrase_objectText (.cons ⟨rfl, Json.isPhrase_stringText url⟩ .nil)

theorem isPhrase_deadLetterPolicy (policy : DeadLetterPolicy) :
    IsPhrase (.value (deadLetterPolicyValue policy))
      (.ofText (Json.objectText
        [("deadLetterTopic", Json.stringText policy.topicName),
         ("maxDeliveryAttempts", toString policy.attempts)])) :=
  Json.isPhrase_objectText
    (.cons ⟨rfl, Json.isPhrase_stringText policy.topicName⟩
      (.cons ⟨rfl, Json.isPhrase_toString policy.attempts⟩ .nil))

/-- A request has the members of its configuration. -/
theorem isPhrase_subscriptionBody (config : SubscriptionConfig) :
    IsPhrase (.value (.object (configMembers config))) (.ofText (subscriptionBody config)) := by
  apply Json.isPhrase_objectText
  refine .cons ⟨rfl, Json.isPhrase_stringText config.topic.name⟩ (List.rel_append ?_ ?_)
  · rw [List.forall₂_map_left_iff, List.forall₂_map_right_iff, List.forall₂_same]
    exact fun url _ => ⟨rfl, isPhrase_pushConfig url⟩
  · rw [List.forall₂_map_left_iff, List.forall₂_map_right_iff, List.forall₂_same]
    exact fun policy _ => ⟨rfl, isPhrase_deadLetterPolicy policy⟩

/-- The body of a request is the text of its members and of nothing else. -/
theorem isPhrase_subscriptionBody_iff (config : SubscriptionConfig) (value : Value) :
    IsPhrase (.padded value) (.ofText (subscriptionBody config)) ↔
      value = .object (configMembers config) := by
  have written := (isPhrase_subscriptionBody config).unpadded
  constructor
  · exact fun other => other.value_unique written
  · rintro rfl
    exact written

theorem pushConfigValue_injective : Function.Injective pushConfigValue := by
  intro first second same
  simpa [pushConfigValue] using same

theorem deadLetterPolicyValue_injective : Function.Injective deadLetterPolicyValue := by
  rintro ⟨topicName, attempts⟩ ⟨otherName, otherAttempts⟩ same
  have parts : topicName = otherName ∧ toString attempts = toString otherAttempts := by
    simpa only [deadLetterPolicyValue, Value.object.injEq, List.cons.injEq, Prod.mk.injEq,
      Value.string.injEq, Value.number.injEq, Option.some.injEq, true_and, and_true] using same
  rw [parts.1, Text.toString_int_inj parts.2]

/-- The body of a request determines the parts of its configuration, of which the topic counts by
its name alone. -/
theorem subscriptionBody_eq_iff (config other : SubscriptionConfig) :
    subscriptionBody config = subscriptionBody other ↔
      config.topic.name = other.topic.name ∧ config.pushUrl = other.pushUrl ∧
        config.deadLetters = other.deadLetters := by
  constructor
  · intro same
    have written := (isPhrase_subscriptionBody_iff config _).mpr rfl
    rw [same, isPhrase_subscriptionBody_iff] at written
    have isRecord := (areExactly_configMembers config).isRecord
    rw [written] at isRecord
    have sameFields := isRecord.unique (areExactly_configMembers other).isRecord
    simp only [configFields, List.map_cons, List.map_nil, List.cons.injEq, Option.some.injEq,
      Value.string.injEq, and_true] at sameFields
    exact ⟨sameFields.1, Option.map_injective pushConfigValue_injective sameFields.2.1,
      Option.map_injective deadLetterPolicyValue_injective sameFields.2.2⟩
  · rintro ⟨sameTopic, samePush, sameDeadLetters⟩
    rw [subscriptionBody, subscriptionBody, sameTopic, samePush, sameDeadLetters]

/-! ## Requests -/

/-- All that has been put since a certain point has a certain body. -/
def PutsOnly (body : String) (before : List Request) (network : Network) : Prop :=
  ∃ requests, network.sent = before ++ requests ∧
    ∀ request ∈ requests, request.method = .put → request.body = body

theorem PutsOnly.after {body : String} {before : List Request} {network : Network}
    {request : Request} (only : PutsOnly body before network)
    (puts : request.method = .put → request.body = body) :
    PutsOnly body before (network.after request) := by
  obtain ⟨requests, sent, bodies⟩ := only
  refine ⟨requests ++ [request], ?_, ?_⟩
  · simp only [Network.after, sent, List.append_assoc]
  · exact List.forall_mem_append.mpr ⟨bodies, List.forall_mem_singleton.mpr puts⟩

/-- A redirection repeats what is put or puts nothing. -/
theorem PutsOnly.send {body : String} {before : List Request} {network : Network}
    {request : Request} (only : PutsOnly body before network)
    (puts : request.method = .put → request.body = body) :
    PutsOnly body before (network.send request).2 := by
  let ready (network : Network) (request : Request) : Prop :=
    PutsOnly body before network ∧ (request.method = .put → request.body = body)
  have hands : ∀ {network request}, ready network request →
      PutsOnly body before (network.hand request).2 := by
    rintro network request ⟨only, puts⟩
    exact Network.hand_keeps (PutsOnly body before) only (only.after nofun) (only.after puts)
  refine Network.follow_keeps ready (PutsOnly body before) hands ?_ ⟨only, puts⟩
    Http.redirectionLimit
  intro network request _ kind _ isReady _ _
  refine ⟨hands isReady, ?_⟩
  cases kind with
  | again => exact isReady.2
  | look => exact nofun

/-- What is put for a request, however often the client is sent on, has the body of the request.  No
reply comes in the end unless the request itself is sent. -/
theorem exists_sent (network : Network) (request : Request) :
    ∃ requests, (network.send request).2.sent = network.sent ++ requests ∧
      (∀ sent ∈ requests, sent.method = .put → sent.body = request.body) ∧
      ∀ reply, (network.send request).1 = .ok reply → request ∈ requests := by
  have unsent : PutsOnly request.body network.sent network :=
    ⟨[], (List.append_nil _).symm, List.forall_mem_nil _⟩
  obtain ⟨requests, sent, bodies⟩ := unsent.send fun _ => rfl
  refine ⟨requests, sent, bodies, ?_⟩
  intro reply answered
  have first := Network.sent_prefix_of_follow_ok answered
  rw [← Network.send, sent, List.prefix_append_right_inj] at first
  exact first.subset (List.mem_singleton_self request)

/-- Whatever a client sends when it puts something, nothing else is put, and it is put if the call
succeeds. -/
theorem Session.exists_put (session : Session) (collection : Collection) (id body : String)
    (network : Network) :
    ∃ requests, (session.put collection id body network).network.sent = network.sent ++ requests ∧
      (∀ request ∈ requests, request.method = .put → request.body = body) ∧
      ((session.put collection id body network).outcome = .ok () →
        ∃ request ∈ requests, request.method = .put) := by
  rcases session.put_cases collection id body with ⟨error, unsent⟩ | ⟨url, -, sends⟩
  · obtain ⟨failed, same⟩ := unsent network
    rw [failed, same]
    exact ⟨[], (List.append_nil _).symm, List.forall_mem_nil _, by simp⟩
  · obtain ⟨judged, left⟩ := sends network
    obtain ⟨requests, sent, bodies, answered⟩ :=
      exists_sent network (Http.storing url session.accessToken body)
    rw [judged, left]
    refine ⟨requests, sent, bodies, ?_⟩
    intro granted
    cases outcome : (network.send (Http.storing url session.accessToken body)).1 with
    | error fault =>
        rw [outcome] at granted
        contradiction
    | ok reply => exact ⟨_, answered reply outcome, rfl⟩

/-- A request for a subscription is the text of one value, an object with exactly the topic, the
push configuration and the dead letter policy that are configured.  Two requests have the same body
exactly if these agree, and nothing else is put to create the subscription. -/
theorem subscription_request_decodes (config : SubscriptionConfig) :
    (∃ members, AreExactly members (configFields config) ∧
      ∀ value, IsPhrase (.padded value) (.ofText (subscriptionBody config)) ↔
        value = .object members) ∧
    (∀ other, subscriptionBody config = subscriptionBody other ↔
      config.topic.name = other.topic.name ∧ config.pushUrl = other.pushUrl ∧
        config.deadLetters = other.deadLetters) ∧
    ∀ (session : Session) (id : String) (network : Network),
      let exchange := session.createSubscription id config network
      ∃ requests, exchange.network.sent = network.sent ++ requests ∧
        (∀ request ∈ requests, request.method = .put → request.body = subscriptionBody config) ∧
        ∀ handle, exchange.outcome = .ok handle → ∃ request ∈ requests, request.method = .put := by
  refine ⟨⟨configMembers config, areExactly_configMembers config,
    isPhrase_subscriptionBody_iff config⟩, subscriptionBody_eq_iff config, ?_⟩
  intro session id network exchange
  obtain ⟨requests, sent, bodies, granted⟩ :=
    session.exists_put .subscriptions id (subscriptionBody config) network
  refine ⟨requests, sent, bodies, fun handle created => granted ?_⟩
  simp only [exchange, Session.createSubscription] at created
  cases outcome : (session.put .subscriptions id (subscriptionBody config) network).outcome with
  | error error => simp [outcome, Except.map] at created
  | ok _ => rfl

example :
    subscriptionBody (.pull ⟨"p", "a\"\\\n\x01é"⟩) =
      "\x7b\"topic\":\"projects/p/topics/a\\\"\\\\\\n\\u0001é\"\x7d" := by
  decide +kernel

end PubSubProvisioning.Rest
