import PubSubProvisioning.Provision
import PubSubProvisioning.Validation

/-!
# Provisioning many projects

The projects of a batch are read, validated and provisioned one after another, up to the first one
that fails.  A project is read and validated as a whole before the service hears of it.
-/

namespace PubSubProvisioning

namespace ProjectVariable

/-- Reads and validates the project that a variable holds. -/
def accepted (variableValue : String) : Pass ProjectSpec := do
  ExceptT.lift (Dialogue.reportAll
    ((ProjectSpec.repeatedTopics variableValue).map .topicRepeated))
  let spec ← Pass.accept (ProjectSpec.parse variableValue)
  let review := spec.review
  ExceptT.lift (Dialogue.reportAll review.events)
  Pass.accept review.verdict
  pure spec

/-- Provisions the project that a variable holds. -/
def provision (entry : ProjectVariable) : Pass Summary := do
  let spec ← accepted entry.value
  ExceptT.mk spec.provision

end ProjectVariable

/-- Provisions the projects of variables in turn. -/
def provisionAll :
    List ProjectVariable → Dialogue (Except BatchFailure (List Summary))
  | [] => pure (.ok [])
  | entry :: rest => do
      Dialogue.report (.processing entry.name)
      match ← entry.provision.run with
      | .error error => pure (.error ⟨entry.name, error⟩)
      | .ok summary => do
          let others ← provisionAll rest
          pure (others.map (summary :: ·))

end PubSubProvisioning
