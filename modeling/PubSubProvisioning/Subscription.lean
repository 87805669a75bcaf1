import PubSubProvisioning.Malformed
import PubSubProvisioning.Text.Fields

/-!
# Subscription tokens

A token describes one subscription of a topic: its ID, and after a plus sign the host that its
messages are pushed to, and after another one the option `dlq` for a dead letter pair.

    subscription
    subscription+host|port
    subscription+host|port+dlq

Colons are taken by the list of tokens, so a token writes a bar for the colon before the port.
-/

namespace PubSubProvisioning

/-- The address that messages of a subscription are pushed to. -/
structure PushEndpoint where
  url : String
  deriving DecidableEq, Repr

namespace PushEndpoint

/-- A text with its first bar replaced by a colon. -/
def firstBarToColon : List Char → List Char
  | [] => []
  | c :: rest => if c = '|' then ':' :: rest else c :: firstBarToColon rest

/-- A text with its first colon replaced by a bar. -/
def firstColonToBar : List Char → List Char
  | [] => []
  | c :: rest => if c = ':' then '|' :: rest else c :: firstColonToBar rest

/-- How the URL of an endpoint begins. -/
def scheme : String :=
  "http://"

/-- The endpoint that the second part of a token names. -/
def ofSegment (segment : String) : PushEndpoint :=
  ⟨scheme ++ String.ofList (firstBarToColon segment.toList)⟩

/-- The part of a token that names an endpoint. -/
def segment (endpoint : PushEndpoint) : String :=
  String.ofList (firstColonToBar (endpoint.url.toList.drop scheme.length))

/-- Where undeliverable messages of the subscription are pushed to. -/
def deadLetterUrl (endpoint : PushEndpoint) : String :=
  endpoint.url ++ "/dead"

theorem firstBarToColon_eq_replace (text : List Char) :
    firstBarToColon text = text.replace '|' ':' := by
  induction text with
  | nil => rfl
  | cons c rest inductionHypothesis =>
      by_cases bar : c = '|'
      · simp [firstBarToColon, bar]
      · have unlike : ('|' == c) = false := by simpa using Ne.symm bar
        simp [firstBarToColon, List.replace_cons, bar, unlike, inductionHypothesis]

theorem firstColonToBar_eq_replace (text : List Char) :
    firstColonToBar text = text.replace ':' '|' := by
  induction text with
  | nil => rfl
  | cons c rest inductionHypothesis =>
      by_cases colon : c = ':'
      · simp [firstColonToBar, colon]
      · have unlike : (':' == c) = false := by simpa using Ne.symm colon
        simp [firstColonToBar, List.replace_cons, colon, unlike, inductionHypothesis]

/-- A bar that becomes a colon becomes a bar again, where no colon comes before it. -/
theorem firstColonToBar_firstBarToColon {text : List Char} (free : ':' ∉ text) :
    firstColonToBar (firstBarToColon text) = text := by
  induction text with
  | nil => rfl
  | cons c rest inductionHypothesis =>
      simp only [List.mem_cons, not_or] at free
      by_cases bar : c = '|'
      · subst bar
        simp [firstBarToColon, firstColonToBar]
      · simp [firstBarToColon, firstColonToBar, bar, Ne.symm free.1, inductionHypothesis free.2]

/-- A part of a token that is free of colons is found again. -/
theorem segment_ofSegment {text : String} (free : ':' ∉ text.toList) :
    (ofSegment text).segment = text := by
  rw [segment, ofSegment, String.toList_append, ← String.length_toList, List.drop_left,
    String.toList_ofList, firstColonToBar_firstBarToColon free, String.ofList_toList]

end PushEndpoint

/-- How the messages of a subscription reach their reader. -/
inductive Delivery where
  | pull
  | push (endpoint : PushEndpoint)
  | pushWithDeadLetter (endpoint : PushEndpoint)
  deriving DecidableEq, Repr

/-- The endpoint, if messages are pushed. -/
def Delivery.endpoint? : Delivery → Option PushEndpoint
  | .pull => none
  | .push endpoint | .pushWithDeadLetter endpoint => some endpoint

/-- What a token asks for. -/
structure SubscriptionPlan where
  id : String
  delivery : Delivery
  deriving DecidableEq, Repr

namespace SubscriptionPlan

/-- The option that asks for a dead letter pair. -/
def deadLetterOption : String :=
  "dlq"

/-- The endpoint named by a part of `token`, which must not be empty. -/
def endpointOf (token segment : String) : Except Malformed PushEndpoint :=
  if segment = "" then .error (.emptyEndpoint token) else .ok (.ofSegment segment)

/-- Reads a token from its parts.  An empty ID is reported before anything else, and what is wrong
with the last part before an empty endpoint. -/
def ofParts (token : String) : List String → Except Malformed SubscriptionPlan
  | [] => .error (.emptySubscription token)
  | id :: options =>
      if id = "" then .error (.emptySubscription token)
      else
        match options with
        | [] => .ok ⟨id, .pull⟩
        | [segment] => do
            let endpoint ← endpointOf token segment
            pure ⟨id, .push endpoint⟩
        | [segment, option] =>
            if option = deadLetterOption then do
              let endpoint ← endpointOf token segment
              pure ⟨id, .pushWithDeadLetter endpoint⟩
            else .error (.unknownOption token option)
        | _ => .error (.tooManyParts token (options.length + 1))

/-- The parts of the token that asks for a subscription, after its ID. -/
def options (plan : SubscriptionPlan) : List String :=
  match plan.delivery with
  | .pull => []
  | .push endpoint => [endpoint.segment]
  | .pushWithDeadLetter endpoint => [endpoint.segment, deadLetterOption]

/-- The token that asks for a subscription. -/
def token (plan : SubscriptionPlan) : String :=
  Text.join '+' (plan.id :: plan.options)

/-- Reads a token. -/
def ofToken (token : String) : Except Malformed SubscriptionPlan :=
  ofParts token (Text.split '+' token)

end SubscriptionPlan

end PubSubProvisioning
