import PubSubProvisioning.Malformed

/-!
# Failures

A call to the service can fail, and a pass over a project fails with the first such call or with a
malformed value.  Each failure keeps what is needed to name the resource at fault; its wording is in
one place, beside a suggestion of what to do about it.
-/

namespace PubSubProvisioning

open PubSubProvisioning.Text (quote)

/-! ## Calls that fail -/

/-- Why a request got no usable reply. -/
inductive TransportFault where
  | sending (url : String)
  | decodingBody
  | building (url : Option String)
  | redirecting (url : String)
  deriving DecidableEq, Repr

/-- The fault in words. -/
def TransportFault.message : TransportFault → String
  | .sending url => s!"error sending request for url ({url})"
  | .decodingBody => "error decoding response body"
  | .building none => "builder error"
  | .building (some url) => s!"builder error for url ({url})"
  | .redirecting url => s!"error following redirect for url ({url})"

/-- Why a call to the service failed. -/
inductive BackendError where
  | transport (fault : TransportFault)
  | invalidEndpoint (endpoint reason : String)
  | alreadyExists (resource : String)
  | api (code : Nat) (status message : String)
  | other (message : String)
  deriving DecidableEq, Repr

namespace BackendError

/-- The error in words. -/
def message : BackendError → String
  | .transport fault => s!"transport error: {fault.message}"
  | .invalidEndpoint endpoint reason => s!"invalid service endpoint {endpoint}: {reason}"
  | .alreadyExists resource => s!"resource already exists: {resource}"
  | .api code status message => s!"{status} ({code}): {message}"
  | .other message => message

/-- Whether the service refused because it has the resource already. -/
def isAlreadyExists : BackendError → Bool
  | .alreadyExists _ => true
  | _ => false

end BackendError

/-! ## Passes that fail -/

/-- Why a project was not provisioned. -/
inductive ProvisionError where
  | malformed (reason : Malformed)
  | connectFailed (project : String) (cause : BackendError)
  | topicFailed (project topic : String) (cause : BackendError)
  | subscriptionFailed (project topic subscription : String) (endpoint : Option String)
      (cause : BackendError)
  | deadLetterTopicFailed (project topic deadLetterTopic : String) (cause : BackendError)
  | deadLetterSubscriptionFailed (project deadLetterTopic deadLetterSubscription endpoint : String)
      (cause : BackendError)
  deriving DecidableEq, Repr

namespace ProvisionError

/-- The error of the call that failed, if a call failed. -/
def cause? : ProvisionError → Option BackendError
  | .malformed _ => none
  | .connectFailed _ cause
  | .topicFailed _ _ cause
  | .subscriptionFailed _ _ _ _ cause
  | .deadLetterTopicFailed _ _ _ cause
  | .deadLetterSubscriptionFailed _ _ _ _ cause => some cause

/-- Whether the service has the resource already, as after an earlier pass. -/
def isAlreadyExists (error : ProvisionError) : Bool :=
  error.cause?.any BackendError.isAlreadyExists

/-- The error in words, with its cause at the end. -/
def message : ProvisionError → String
  | .malformed reason => s!"Malformed project spec: {reason.message}"
  | .connectFailed project cause =>
      s!"Unable to create client to project {quote project}: {cause.message}"
  | .topicFailed project topic cause =>
      s!"Unable to create topic {quote topic} for project {quote project}: {cause.message}"
  | .subscriptionFailed project topic subscription (some endpoint) cause =>
      s!"Unable to create push subscription {quote subscription} on topic {quote topic} " ++
        s!"for project {quote project} using push endpoint {quote endpoint}: {cause.message}"
  | .subscriptionFailed project topic subscription none cause =>
      s!"Unable to create subscription {quote subscription} on topic {quote topic} " ++
        s!"for project {quote project}: {cause.message}"
  | .deadLetterTopicFailed project topic deadLetterTopic cause =>
      s!"Unable to create dead letter topic {quote deadLetterTopic} for topic {quote topic} " ++
        s!"for project {quote project}: {cause.message}"
  | .deadLetterSubscriptionFailed project deadLetterTopic deadLetterSubscription endpoint cause =>
      s!"Unable to create dead letter subscription {quote deadLetterSubscription} " ++
        s!"on topic {quote deadLetterTopic} for project {quote project} " ++
        s!"using push endpoint {quote endpoint}: {cause.message}"

/-- What to do about the error.  An existing resource needs the same advice wherever it turns up. -/
def suggestion (error : ProvisionError) : String :=
  if error.isAlreadyExists then
    "Delete the existing resource or rename it in the PUBSUB_PROJECT variable, then rerun"
  else
    match error with
    | .malformed _ => "Check the value against: project,topic[:sub[+host[|port][+dlq]]]..."
    | .connectFailed .. =>
        "Check the project ID and that PUBSUB_EMULATOR_HOST points at a running service"
    | .topicFailed .. | .deadLetterTopicFailed .. =>
        "Check the topic ID and the backend logs; resources created before this one were kept"
    | .subscriptionFailed .. | .deadLetterSubscriptionFailed .. =>
        "Check the subscription ID and push endpoint; " ++
          "resources created before this one were kept"

end ProvisionError

/-- The first failure of a batch, with the variable whose value caused it. -/
structure BatchFailure where
  variableName : String
  error : ProvisionError
  deriving DecidableEq, Repr

/-- The failure in words. -/
def BatchFailure.message (failure : BatchFailure) : String :=
  s!"{failure.variableName}: {failure.error.message}"

end PubSubProvisioning
