import PubSubProvisioning.Text.Quoted
import PubSubProvisioning.Url.Host

/-!
# Malformed project values

Why the text of a project is refused before anything is created for it.
-/

namespace PubSubProvisioning

open PubSubProvisioning.Text (quote)

/-- Why a text is no address that messages can be pushed to. -/
inductive UrlFault where
  | empty
  | noHost
  | unsupported (scheme : String)
  | unreadable (reason : Url.ParseError)
  deriving DecidableEq, Repr

/-- Why a project is refused.  A caller may also state a reason in words of its own. -/
inductive Malformed where
  | noTopics
  | emptySubscription (token : String)
  | emptyEndpoint (token : String)
  | unknownOption (token option : String)
  | tooManyParts (token : String) (count : Nat)
  | badUrl (field url : String) (fault : UrlFault)
  | stated (message : String)
  deriving DecidableEq, Repr

/-- The part of a message that follows the name of the field with the URL. -/
def UrlFault.message (url : String) : UrlFault → String
  | .empty => "URL cannot be empty"
  | .noHost => s!"URL {quote url} has no host"
  | .unsupported scheme => s!"unsupported URL scheme {quote scheme} in {quote url}"
  | .unreadable reason => s!"invalid URL {quote url}: {reason.message}"

/-- The reason in words. -/
def Malformed.message : Malformed → String
  | .noTopics => "Expected at least 1 topic to be defined"
  | .emptySubscription token => s!"subscription {quote token} has an empty subscription ID"
  | .emptyEndpoint token => s!"subscription {quote token} has an empty push endpoint"
  | .unknownOption token option =>
      s!"subscription {quote token} has unknown option {quote option} (expected \"dlq\")"
  | .tooManyParts token count =>
      s!"subscription {quote token} has {count} '+'-separated parts (at most 3 allowed)"
  | .badUrl field url fault => s!"{field}: {fault.message url}"
  | .stated message => message

end PubSubProvisioning
