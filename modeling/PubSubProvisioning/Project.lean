import PubSubProvisioning.Subscription

/-!
# Projects

The value of a project variable names a project and its topics, separated by commas; a topic is its
ID and the tokens of its subscriptions, separated by colons.

    project,topic,topic:token:token

Where a topic is listed again, the later list of tokens takes the place of the earlier one.  IDs may
be empty: the service is the judge of them.
-/

namespace PubSubProvisioning

open PubSubProvisioning.Text (split join)

/-- A topic with the tokens of its subscriptions. -/
structure TopicSpec where
  id : String
  tokens : List String
  deriving DecidableEq, Repr

/-- A project with its topics. -/
structure ProjectSpec where
  id : String
  topics : List TopicSpec
  deriving DecidableEq, Repr

namespace TopicSpec

/-- Reads a topic from its field. -/
def ofField (field : String) : TopicSpec :=
  match split ':' field with
  | id :: tokens => ⟨id, tokens⟩
  | [] => ⟨"", []⟩

/-- The field of a topic. -/
def field (topic : TopicSpec) : String :=
  join ':' (topic.id :: topic.tokens)

/-- Puts a topic in the place of the one with its ID, or at the end if there is none. -/
def place (topic : TopicSpec) : List TopicSpec → List TopicSpec
  | [] => [topic]
  | other :: rest => if other.id = topic.id then topic :: rest else other :: place topic rest

/-- Topics in the order in which their IDs first occur, each with its last tokens. -/
def merged (topics : List TopicSpec) : List TopicSpec :=
  topics.foldl (fun kept topic => topic.place kept) []

/-- The IDs of the topics whose ID has occurred before, given the IDs already `seen`. -/
def repeated (seen : List String) : List TopicSpec → List String
  | [] => []
  | topic :: rest =>
      if seen.contains topic.id then topic.id :: repeated seen rest
      else repeated (topic.id :: seen) rest

end TopicSpec

namespace ProjectSpec

/-- The topics of a value as they are listed. -/
def listedTopics (value : String) : List TopicSpec :=
  (split ',' value).tail.map TopicSpec.ofField

/-- Reads a value. -/
def parse (value : String) : Except Malformed ProjectSpec :=
  match listedTopics value with
  | [] => .error .noTopics
  | topics => .ok ⟨(split ',' value).headD "", TopicSpec.merged topics⟩

/-- The IDs of the topics that a value lists again. -/
def repeatedTopics (value : String) : List String :=
  TopicSpec.repeated [] (listedTopics value)

/-- The value that lists a project. -/
def render (project : ProjectSpec) : String :=
  join ',' (project.id :: project.topics.map TopicSpec.field)

end ProjectSpec

end PubSubProvisioning
