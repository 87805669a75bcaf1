import PubSubProvisioning.Event
import PubSubProvisioning.Project
import PubSubProvisioning.Url.Parser

/-!
# Validation of projects

Before anything is created for a project, all of its tokens are read and all of its push endpoints
are checked.  A review stops at the first token that is refused; up to there it also remarks on
subscriptions that are listed twice, which only the service can refuse.
-/

namespace PubSubProvisioning

open PubSubProvisioning.Text (quote)

/-- Checks that messages can be pushed to a URL; `field` names the URL in the reason against it. -/
def checkUrl (field url : String) : Except Malformed Unit :=
  if url = "" then .error (.badUrl field url .empty)
  else
    match Url.parse url with
    | .error reason => .error (.badUrl field url (.unreadable reason))
    | .ok parsed =>
        if parsed.scheme = "http" ∨ parsed.scheme = "https" then
          if parsed.authority.any fun authority => authority.host.text ≠ "" then .ok ()
          else .error (.badUrl field url .noHost)
        else .error (.badUrl field url (.unsupported parsed.scheme))

namespace SubscriptionPlan

/-- Checks the push endpoint of a subscription, if it has one. -/
def checkEndpoint (plan : SubscriptionPlan) : Except Malformed Unit :=
  match plan.delivery.endpoint? with
  | none => .ok ()
  | some endpoint => checkUrl s!"push endpoint of subscription {quote plan.id}" endpoint.url

/-- Reads a token and checks what it asks for. -/
def ofCheckedToken (token : String) : Except Malformed SubscriptionPlan := do
  let plan ← ofToken token
  plan.checkEndpoint
  pure plan

/-- What there is to say about an acceptable subscription of a topic, given the subscriptions that
the topic lists before it. -/
def remarks (seen : List String) (topic : String) (plan : SubscriptionPlan) : List Event :=
  (if seen.contains plan.id then [.subscriptionRepeated plan.id topic] else []) ++
    match plan.delivery with
    | .pushWithDeadLetter _ => [.deadLetterPairPlanned plan.id topic]
    | _ => []

end SubscriptionPlan

/-- The outcome of a review: what was remarked on the way, and the reason for stopping early. -/
structure Review where
  events : List Event
  verdict : Except Malformed Unit

namespace Review

/-- A review that finds nothing. -/
def clean : Review :=
  ⟨[], .ok ()⟩

/-- A review that goes on with another one unless it has stopped. -/
def andThen (first second : Review) : Review :=
  match first.verdict with
  | .error reason => ⟨first.events, .error reason⟩
  | .ok () => ⟨first.events ++ second.events, second.verdict⟩

end Review

/-- Reviews the tokens of a topic, after those for the subscriptions in `seen`. -/
def reviewTokens (topic : String) (seen : List String) : List String → Review
  | [] => .clean
  | token :: rest =>
      match SubscriptionPlan.ofCheckedToken token with
      | .error reason => ⟨[], .error reason⟩
      | .ok plan =>
          Review.andThen ⟨plan.remarks seen topic, .ok ()⟩
            (reviewTokens topic (plan.id :: seen) rest)

/-- Reviews topics in turn.  Each keeps a list of its own subscriptions. -/
def reviewTopics : List TopicSpec → Review
  | [] => .clean
  | topic :: rest => (reviewTokens topic.id [] topic.tokens).andThen (reviewTopics rest)

/-- Reviews all tokens of a project. -/
def ProjectSpec.review (project : ProjectSpec) : Review :=
  reviewTopics project.topics

/-- Refuses a project that could not be provisioned whatever the service does. -/
def ProjectSpec.validate (project : ProjectSpec) : Except Malformed Unit :=
  project.review.verdict

end PubSubProvisioning
