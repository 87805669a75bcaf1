import PubSubProvisioning.Proofs.Pursuit
import PubSubProvisioning.Rehearsal

/-!
# Sessions of the service in memory

A rehearsal keeps its aliases, and the project of its open session, until the next `connect`.  One
without aliases therefore names what it grants as it was asked to.
-/

namespace PubSubProvisioning

/-- The name of a resource across projects. -/
def Resource.name (project : String) : Resource → String
  | .topic id => s!"projects/{project}/topics/{id}"
  | .subscription id => s!"projects/{project}/subscriptions/{id}"

namespace Rehearsal

variable {rehearsal start state : Rehearsal} {project : String}

/-- What a call to create a resource comes to, whatever the resource. -/
theorem answer_of_resource? {call : Call} {resource : Resource}
    (creates : call.resource? = some resource) :
    ∃ kind id grant,
      let created := rehearsal.create kind id (resource.name rehearsal.project)
      (rehearsal.answer call).outcome = created.1.map (fun _ => grant) ∧
        (rehearsal.answer call).state = created.2 := by
  cases call with
  | connect _ => contradiction
  | close => contradiction
  | createTopic id =>
      cases creates
      exact ⟨.createTopic, id, _, rfl, rfl⟩
  | createSubscription id config =>
      cases creates
      exact ⟨.createSubscription, id, _, rfl, rfl⟩

/-- Nothing but the rules and the resources changes where a resource is created. -/
theorem create_frame (rehearsal : Rehearsal) (kind : CallKind) (id name : String) :
    let after := (rehearsal.create kind id name).2
    after.projectAlias = rehearsal.projectAlias ∧ after.topicAliases = rehearsal.topicAliases ∧
      after.project = rehearsal.project ∧ after.remembers = rehearsal.remembers := by
  unfold create
  obtain ⟨error, rules⟩ := FaultRule.meetAll kind id rehearsal.rules
  cases error with
  | some error => exact ⟨rfl, rfl, rfl, rfl⟩
  | none =>
      dsimp only
      split
      · exact ⟨rfl, rfl, rfl, rfl⟩
      · exact ⟨rfl, rfl, rfl, rfl⟩

/-- The aliases of a session are those that the service started with, and its project is the one
that it was opened for. -/
theorem inSession_frame (session : backend.InSession start project state) :
    state.projectAlias = start.projectAlias ∧ state.topicAliases = start.topicAliases ∧
      state.project = project ∧ state.remembers = start.remembers := by
  induction session with
  | opened granted =>
      simp only [backend, answer, meet] at granted ⊢
      cases met : (FaultRule.meetAll .connect project start.rules).1 with
      | some error => simp [met] at granted
      | none => simp
  | @created state call _ creating inductionHypothesis =>
      obtain ⟨projectAlias, topicAliases, sameProject, remembers⟩ := inductionHypothesis
      obtain ⟨resource, creates⟩ := Option.isSome_iff_exists.mp creating
      obtain ⟨kind, id, _, -, becomes⟩ := answer_of_resource? creates
      have frame := state.create_frame kind id (resource.name state.project)
      rw [← becomes] at frame
      simpa [backend, projectAlias, topicAliases, sameProject, remembers] using frame

/-- A resource that is refused is not kept. -/
theorem create_of_error {kind : CallKind} {id name : String} {cause : BackendError}
    (refused : (rehearsal.create kind id name).1 = .error cause) :
    (rehearsal.create kind id name).2.resources = rehearsal.resources := by
  unfold create at refused ⊢
  generalize FaultRule.meetAll kind id rehearsal.rules = met at refused ⊢
  obtain ⟨error, rules⟩ := met
  cases error with
  | some error => rfl
  | none =>
      dsimp only at refused ⊢
      split at refused
      · rename_i present
        rw [if_pos present]
      · contradiction

theorem resources_of_refused {call : Call} {resource : Resource} {cause : BackendError}
    (creates : call.resource? = some resource)
    (refused : (rehearsal.answer call).outcome = .error cause) :
    (rehearsal.answer call).state.resources = rehearsal.resources := by
  obtain ⟨kind, id, grant, outcome, becomes⟩ := answer_of_resource? creates
  rw [outcome] at refused
  rw [becomes]
  cases created : (rehearsal.create kind id (resource.name rehearsal.project)).1 with
  | error other => exact create_of_error created
  | ok _ =>
      rw [created] at refused
      contradiction

/-- Sessions are opened and closed without touching a resource. -/
theorem meet_resources (rehearsal : Rehearsal) (kind : CallKind) (project : String) :
    (rehearsal.meet kind project).2.resources = rehearsal.resources := by
  unfold meet
  obtain ⟨error, rules⟩ := FaultRule.meetAll kind project rehearsal.rules
  cases error <;> rfl

/-- Without aliases of topics, a topic is granted under the ID that it was asked for. -/
theorem handle_of_granted (sameTopics : start.topicAliases = [])
    (session : backend.InSession start project state) {id : String} {handle : TopicHandle}
    (granted : (backend.answer state (.createTopic id)).outcome = .ok handle) :
    handle = ⟨start.projectAlias.getD project, id⟩ := by
  obtain ⟨projectAlias, topicAliases, ofProject, -⟩ := inSession_frame session
  simp only [backend, answer] at granted
  cases outcome : (state.create .createTopic id s!"projects/{state.project}/topics/{id}").1 with
  | error cause => simp [outcome, Except.map] at granted
  | ok grant =>
      rw [outcome, projectAlias, topicAliases, ofProject, sameTopics] at granted
      simpa [Except.map] using granted.symm

/-- Without aliases, topics are granted under the names that they were asked for. -/
theorem echoes (sameProject : start.projectAlias = none) (sameTopics : start.topicAliases = []) :
    backend.Echoes start project := by
  intro state session id handle granted
  rw [handle_of_granted sameTopics session granted, sameProject]
  rfl

end Rehearsal

end PubSubProvisioning
