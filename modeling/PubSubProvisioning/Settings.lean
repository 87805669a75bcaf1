import PubSubProvisioning.Environment
import PubSubProvisioning.Text.Blank
import PubSubProvisioning.Text.Quoted

/-!
# Settings

Which service to talk to, and as whom.  A blank variable counts as missing.
-/

namespace PubSubProvisioning

open PubSubProvisioning.Text (allBlank dropTrailing quote)

/-- Where the service is reached by everyone. -/
def publicEndpoint : String :=
  "https://pubsub.googleapis.com"

/-- How the service is reached. -/
structure ServiceSettings where
  endpoint : String := publicEndpoint
  accessToken : Option String := none
  deriving DecidableEq, Repr

/-- What a run is told from outside. -/
structure Settings where
  debug : Bool
  service : ServiceSettings
  deriving DecidableEq, Repr

namespace ServiceSettings

/-- The value of a variable, unless it is blank. -/
def filled? (environment : Environment) (name : String) : Option String :=
  (environment.get? name).filter (!allBlank ·)

/-- Whether a host is given with one of the two schemes of HTTP in front. -/
def statesScheme (host : String) : Bool :=
  "http://".toList.isPrefixOf host.toList || "https://".toList.isPrefixOf host.toList

/-- The endpoint of a local service.  Slashes at the end belong to the paths of requests; a host
without a scheme speaks plain HTTP. -/
def localEndpoint (host : String) : String :=
  let bare := String.ofList (dropTrailing (· = '/') host.toList)
  if statesScheme host then bare else "http://" ++ bare

/-- The settings that the environment makes. -/
def ofEnvironment (environment : Environment) : ServiceSettings where
  endpoint :=
    match filled? environment "PUBSUB_EMULATOR_HOST" with
    | some host => localEndpoint host
    | none => publicEndpoint
  accessToken := filled? environment "PUBSUB_ACCESS_TOKEN"

end ServiceSettings

namespace Settings

/-- The settings of a run. -/
def ofEnvironment (debug : Bool) (environment : Environment) : Settings :=
  ⟨debug, .ofEnvironment environment⟩

/-- All settings in one line.  The brace is written by its number where it is text. -/
def description (settings : Settings) : String :=
  let token :=
    match settings.service.accessToken with
    | some token => s!"Some({quote token})"
    | none => "None"
  s!"Settings \x7b debug: {settings.debug}, pubsub: PubsubSettings \x7b " ++
    s!"endpoint: {quote settings.service.endpoint}, access_token: {token} \x7d \x7d"

end Settings

end PubSubProvisioning
