import PubSubProvisioning.Dialogue

/-!
# A service in memory

A rehearsal answers calls without a network.  It fails the calls that its rules choose, it may
refuse to create a resource twice, and it may hand out topics under other names than those asked
for.
-/

namespace PubSubProvisioning

/-- The kinds of calls that a rule can choose. -/
inductive CallKind where
  | connect
  | createTopic
  | createSubscription
  | close
  deriving DecidableEq, Repr

/-- A rule by which calls fail: those of a kind, perhaps for one subject only, after the first
`skip` of them, and then `times` times or for good. -/
structure FaultRule where
  kind : CallKind
  subject : Option String := none
  skip : Nat := 0
  times : Option Nat := none
  error : BackendError
  met : Nat := 0
  deriving DecidableEq, Repr

namespace FaultRule

/-- Whether a rule is about a call. -/
def concerns (rule : FaultRule) (kind : CallKind) (subject : String) : Bool :=
  rule.kind = kind && rule.subject.all (· = subject)

/-- Whether a rule fails the next call that it is about. -/
def strikes (rule : FaultRule) : Bool :=
  rule.skip ≤ rule.met && rule.times.all (rule.met < rule.skip + ·)

/-- Meets a call with each rule that is about it, up to one that fails it. -/
def meetAll (kind : CallKind) (subject : String) :
    List FaultRule → Option BackendError × List FaultRule
  | [] => (none, [])
  | rule :: rest =>
      if rule.concerns kind subject then
        let after := { rule with met := rule.met + 1 }
        if rule.strikes then (some rule.error, after :: rest)
        else
          let (error, others) := meetAll kind subject rest
          (error, after :: others)
      else
        let (error, others) := meetAll kind subject rest
        (error, rule :: others)

end FaultRule

/-- A service in memory: its rules, how it treats repeated resources and names, the project of the
open session, and the names of the resources that it holds. -/
structure Rehearsal where
  rules : List FaultRule := []
  remembers : Bool := false
  projectAlias : Option String := none
  topicAliases : List (String × String) := []
  project : String := ""
  resources : List String := []
  deriving DecidableEq, Repr

namespace Rehearsal

/-- Creates a resource, unless a rule fails the call or it is there already. -/
def create (rehearsal : Rehearsal) (kind : CallKind) (id name : String) :
    Except BackendError Unit × Rehearsal :=
  let (error, rules) := FaultRule.meetAll kind id rehearsal.rules
  let after := { rehearsal with rules }
  match error with
  | some error => (.error error, after)
  | none =>
      if rehearsal.remembers && rehearsal.resources.contains name then
        (.error (.alreadyExists name), after)
      else (.ok (), { after with resources := name :: after.resources })

/-- Opens or closes a session, unless a rule fails the call. -/
def meet (rehearsal : Rehearsal) (kind : CallKind) (project : String) :
    Except BackendError Unit × Rehearsal :=
  let (error, rules) := FaultRule.meetAll kind project rehearsal.rules
  match error with
  | some error => (.error error, { rehearsal with rules })
  | none => (.ok (), { rehearsal with rules, project })

/-- The answer to a call. -/
def answer (rehearsal : Rehearsal) : (call : Call) → Answer Rehearsal call
  | .connect project =>
      let (outcome, after) := rehearsal.meet .connect project
      ⟨outcome, [], after⟩
  | .createTopic id =>
      let name := s!"projects/{rehearsal.project}/topics/{id}"
      let (outcome, after) := rehearsal.create .createTopic id name
      let handle : TopicHandle :=
        ⟨rehearsal.projectAlias.getD rehearsal.project, (rehearsal.topicAliases.lookup id).getD id⟩
      ⟨outcome.map fun _ => handle, [], after⟩
  | .createSubscription id _ =>
      let name := s!"projects/{rehearsal.project}/subscriptions/{id}"
      let (outcome, after) := rehearsal.create .createSubscription id name
      ⟨outcome.map fun _ => ⟨rehearsal.project, id⟩, [], after⟩
  | .close =>
      let (outcome, after) := rehearsal.meet .close rehearsal.project
      ⟨outcome, [], after⟩

/-- The rehearsal as a service. -/
def backend : Backend Rehearsal :=
  ⟨answer⟩

end Rehearsal

end PubSubProvisioning
