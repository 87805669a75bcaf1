import PubSubProvisioning.Proofs.MergedTopics
import PubSubProvisioning.Proofs.Registering
import PubSubProvisioning.Proofs.Rehearsal
import PubSubProvisioning.Proofs.Review

/-!
# Projects on a fresh service

A project goes through on a service that starts with nothing, and refuses only what it has already,
exactly if it creates no resource twice.  A review does not see all of the names that a project
uses: it does not compare the subscriptions of different topics, nor any ID with those of dead
letter pairs.  So an accepted project passes on a fresh service exactly if it keeps its names apart
as well.
-/

namespace PubSubProvisioning

variable {σ : Type}

/-! ## The service in memory -/

/-- Resources of one project have different names. -/
theorem Resource.name_inj {project : String} {first second : Resource} :
    first.name project = second.name project ↔ first = second := by
  constructor
  · intro same
    have letters := congrArg String.toList same
    clear same
    cases first <;> cases second <;>
      simp_all [name, toString, String.toList_append, List.append_assoc, String.toList_inj]
  · rintro rfl
    rfl

namespace Rehearsal

variable {start state : Rehearsal} {project : String}

/-- Whether a rehearsal holds a resource of a project. -/
def Holds (project : String) (rehearsal : Rehearsal) (resource : Resource) : Prop :=
  resource.name project ∈ rehearsal.resources

theorem create_rules {rehearsal : Rehearsal} (unruled : rehearsal.rules = []) (kind : CallKind)
    (id name : String) : (rehearsal.create kind id name).2.rules = [] := by
  simp only [create, unruled, FaultRule.meetAll]
  split <;> rfl

/-- Without rules there are none later on. -/
theorem inSession_rules (unruled : start.rules = [])
    (session : backend.InSession start project state) : state.rules = [] := by
  induction session with
  | opened _ => simp [backend, answer, meet, unruled, FaultRule.meetAll]
  | @created state call _ creating inductionHypothesis =>
      obtain ⟨resource, creates⟩ := Option.isSome_iff_exists.mp creating
      obtain ⟨kind, id, _, -, becomes⟩ := answer_of_resource? creates
      rw [backend, becomes]
      exact create_rules inductionHypothesis kind id _

/-- A resource is refused if its name is there, and kept by that name otherwise. -/
theorem create_of_rules {rehearsal : Rehearsal} (unruled : rehearsal.rules = [])
    (remembers : rehearsal.remembers = true) (kind : CallKind) (id name : String) :
    (name ∈ rehearsal.resources →
      (rehearsal.create kind id name).1 = .error (.alreadyExists name)) ∧
    (name ∉ rehearsal.resources →
      (rehearsal.create kind id name).1 = .ok () ∧
        (rehearsal.create kind id name).2.resources = name :: rehearsal.resources) := by
  simp only [create, unruled, FaultRule.meetAll, remembers, Bool.true_and,
    List.contains_iff_mem]
  constructor
  · intro member
    rw [if_pos member]
  · intro member
    rw [if_neg member]
    exact ⟨rfl, rfl⟩

/-- A call that creates a resource fails if the resource is there, and records it otherwise. -/
theorem answer_of_rules {rehearsal : Rehearsal} (unruled : rehearsal.rules = [])
    (remembers : rehearsal.remembers = true) {call : Call} {resource : Resource}
    (creates : call.resource? = some resource) :
    (Holds rehearsal.project rehearsal resource →
      ∃ name, (rehearsal.answer call).outcome = .error (.alreadyExists name)) ∧
    (¬Holds rehearsal.project rehearsal resource →
      (∃ grant, (rehearsal.answer call).outcome = .ok grant) ∧
        (rehearsal.answer call).state.resources =
          resource.name rehearsal.project :: rehearsal.resources) := by
  obtain ⟨kind, id, grant, outcome, becomes⟩ := answer_of_resource? creates
  obtain ⟨refuses, grants⟩ :=
    create_of_rules unruled remembers kind id (resource.name rehearsal.project)
  rw [outcome, becomes]
  constructor
  · intro held
    rw [refuses held]
    exact ⟨_, rfl⟩
  · intro unheld
    obtain ⟨granted, recorded⟩ := grants unheld
    rw [granted]
    exact ⟨⟨grant, rfl⟩, recorded⟩

/-- Without rules, a resource that is held is refused. -/
theorem refuses_held (unruled : start.rules = []) (remembers : start.remembers = true)
    (session : backend.InSession start project state) {call : Call} {resource : Resource}
    (creates : call.resource? = some resource) (held : Holds project state resource) :
    ∃ name, (backend.answer state call).outcome = .error (.alreadyExists name) := by
  obtain ⟨-, -, rfl, remembering⟩ := inSession_frame session
  exact (answer_of_rules (inSession_rules unruled session) (remembering.trans remembers)
    creates).1 held

/-- Without rules, any other one is granted and held from then on. -/
theorem grants_unheld (unruled : start.rules = []) (remembers : start.remembers = true)
    (session : backend.InSession start project state) {call : Call} {resource : Resource}
    (creates : call.resource? = some resource) (unheld : ¬Holds project state resource) :
    (∃ grant, (backend.answer state call).outcome = .ok grant) ∧
      ∀ other, Holds project (backend.answer state call).state other ↔
        other = resource ∨ Holds project state other := by
  obtain ⟨-, -, rfl, remembering⟩ := inSession_frame session
  obtain ⟨granted, recorded⟩ :=
    (answer_of_rules (inSession_rules unruled session) (remembering.trans remembers)
      creates).2 unheld
  constructor
  · exact granted
  · intro other
    change other.name state.project ∈ (state.answer call).state.resources ↔ _
    rw [recorded, List.mem_cons, Resource.name_inj]
    rfl

/-- Without rules and aliases of topics, a rehearsal that is told to remembers what it creates,
whatever project its topics are said to be of. -/
theorem remembers_of_fresh (project : String) (projectAlias : Option String) :
    backend.Remembers { remembers := true, projectAlias } project (Holds project) where
  opens := rfl
  empty := by
    intro resource held
    exact absurd held List.not_mem_nil
  echoes := by
    intro state session id handle granted
    rw [handle_of_granted rfl session granted]
  refuses := by
    intro state session call resource creates held
    exact refuses_held rfl rfl session creates held
  grants := by
    intro state session call resource creates unheld
    exact grants_unheld rfl rfl session creates unheld

end Rehearsal

/-! ## Accepted projects -/

namespace ProjectSpec

variable {backend : Backend σ} {start : σ} {holds : σ → Resource → Prop} {spec : ProjectSpec}

/-- A pass whose tokens can all be read goes through on a fresh service, with all names of the
project different, or it fails with the first name that has occurred before.  Then the calls up to
that one are made, and the last one is made in a state in which the service holds what those before
it have created. -/
theorem provision_of_remembers
    (read : ∀ topic ∈ spec.topics, ∀ token ∈ topic.tokens, ∃ plan,
      SubscriptionPlan.ofToken token = .ok plan)
    (remembers : backend.Remembers start spec.id holds) :
    let held := spec.provision.run backend start
    (spec.resources.Nodup ∧ ∃ summary, held.result = .ok summary) ∨
      ∃ before clash after error last request,
        spec.resources = before ++ clash :: after ∧ before.Nodup ∧ clash ∈ before ∧
          (Entry.calls held.transcript).filterMap Call.resource? = before ++ [clash] ∧
          held.result = .error error ∧ error.isAlreadyExists = true ∧
          backend.InSession start spec.id last ∧ request.resource? = some clash ∧
          (∀ name, holds last name ↔ name ∈ before) ∧
          held.state =
            (backend.answer (backend.answer last request).state .close).state := by
  intro held
  obtain ⟨calls, result, left⟩ := run_provision_of_opened remembers.opens
  have session := Backend.InSession.opened remembers.opens
  obtain ⟨creation, -⟩ :=
    Pass.creates_createTopics remembers spec.id { project := spec.id } read _ session
  cases creation with
  | whole summary succeeded _ new _ _ =>
      exact .inl ⟨new.distinct, summary, result.trans succeeded⟩
  | clash before after clash error last request failed known split new asked session creating taken
      kept reached =>
      -- The session starts with nothing, so it is one of the names before it that takes the name.
      have heldLast : ∀ name, holds last name ↔ name ∈ before := by
        intro name
        simp [kept, remembers.empty]
      refine .inr ⟨before, clash, after, error, last, request, split, new.distinct,
        (heldLast clash).mp taken, ?_, result.trans failed, known, session, creating, heldLast, ?_⟩
      · rw [calls, List.filterMap_cons_none rfl, List.filterMap_append, asked,
          List.filterMap_cons_none rfl, List.filterMap_nil, List.append_nil]
      · rw [left, reached]

/-- A name that has occurred before occurs twice. -/
theorem not_nodup_of_clash {names before after : List Resource} {clash : Resource}
    (split : names = before ++ clash :: after) (again : clash ∈ before) : ¬names.Nodup := by
  intro distinct
  rw [split] at distinct
  exact (List.nodup_append.mp distinct).2.2 clash again clash List.mem_cons_self rfl

/-- A pass whose tokens can all be read succeeds on a fresh service exactly if it creates no
resource twice.  Otherwise it fails because a resource exists already. -/
theorem provision_succeeds_iff_nodup
    (read : ∀ topic ∈ spec.topics, ∀ token ∈ topic.tokens, ∃ plan,
      SubscriptionPlan.ofToken token = .ok plan)
    (remembers : backend.Remembers start spec.id holds) :
    ((∃ summary, (spec.provision.run backend start).result = .ok summary) ↔
      spec.resources.Nodup) ∧
    (¬spec.resources.Nodup → ∃ error,
      (spec.provision.run backend start).result = .error error ∧
        error.isAlreadyExists = true) := by
  rcases provision_of_remembers read remembers with ⟨distinct, succeeded⟩ |
    ⟨before, clash, after, error, last, request, split, -, again, -, failed, known, -⟩
  · exact ⟨⟨fun _ => distinct, fun _ => succeeded⟩, fun repeated => absurd distinct repeated⟩
  · have repeated := not_nodup_of_clash split again
    constructor
    · constructor
      · rintro ⟨summary, succeeded⟩
        rw [failed] at succeeded
        contradiction
      · intro distinct
        exact absurd distinct repeated
    · intro _
      exact ⟨error, failed, known⟩

/-- A project that a review accepts without a remark on repeated subscriptions passes on a fresh
service exactly if it keeps its names apart.  Otherwise some resource of it exists already. -/
theorem provision_succeeds_iff_namesApart {value : String}
    (parsed : parse value = .ok spec) (accepted : spec.validate = .ok ())
    (unremarked : Event.NoRepeats spec.review.events)
    (remembers : backend.Remembers start spec.id holds) :
    ((∃ summary, (spec.provision.run backend start).result = .ok summary) ↔ spec.NamesApart) ∧
      (¬spec.NamesApart → ∃ error,
        (spec.provision.run backend start).result = .error error ∧
          error.isAlreadyExists = true) := by
  have apart := nodup_resources_iff_namesApart (nodup_topics_of_parse parsed)
    ((noRepeats_review_iff accepted).mp unremarked)
  rw [← apart]
  apply provision_succeeds_iff_nodup _ remembers
  intro topic member token tokenMember
  obtain ⟨plan, read, -⟩ := validate_eq_ok_iff.mp accepted topic member token tokenMember
  exact ⟨plan, read⟩

/-- A dead letter pair on one topic and a plain subscription on another do not get in each other's
way. -/
theorem provision_succeeds_with_dead_letter_pair :
    let spec : ProjectSpec := ⟨"p", [⟨"a", ["s+h|80+dlq"]⟩, ⟨"b", ["t"]⟩]⟩
    let start : Rehearsal := { remembers := true }
    parse "p,a:s+h|80+dlq,b:t" = .ok spec ∧ spec.validate = .ok () ∧
      Event.NoRepeats spec.review.events ∧
      Rehearsal.backend.Remembers start spec.id (Rehearsal.Holds spec.id) ∧
      spec.NamesApart ∧
      ∃ summary, (spec.provision.run Rehearsal.backend start).result = .ok summary := by
  intro spec start
  have parsed : parse "p,a:s+h|80+dlq,b:t" = .ok spec := by decide +kernel
  have accepted : spec.validate = .ok () := by decide +kernel
  have listed : ∀ topic ∈ spec.topics, (topic.plans.map (·.id)).Nodup := by decide +kernel
  have unremarked := (noRepeats_review_iff accepted).mpr listed
  have remembers := Rehearsal.remembers_of_fresh spec.id none
  have apart : spec.NamesApart :=
    (nodup_resources_iff_namesApart (nodup_topics_of_parse parsed) listed).mp (by decide +kernel)
  have succeeds := (provision_succeeds_iff_namesApart parsed accepted unremarked remembers).1
  exact ⟨parsed, accepted, unremarked, remembers, apart, succeeds.mpr apart⟩

/-- A review that accepts a project without a remark does not promise that it passes: subscriptions
of different topics are not compared. -/
theorem provision_fails_on_shared_subscription :
    let spec : ProjectSpec := ⟨"p", [⟨"a", ["s"]⟩, ⟨"b", ["s"]⟩]⟩
    let start : Rehearsal := { remembers := true }
    parse "p,a:s,b:s" = .ok spec ∧ spec.validate = .ok () ∧
      Event.NoRepeats spec.review.events ∧
      Rehearsal.backend.Remembers start spec.id (Rehearsal.Holds spec.id) ∧
      (spec.provision.run Rehearsal.backend start).result =
        .error (.subscriptionFailed "p" "b" "s" none
          (.alreadyExists "projects/p/subscriptions/s")) := by
  intro spec start
  have accepted : spec.validate = .ok () := by decide +kernel
  have listed : ∀ topic ∈ spec.topics, (topic.plans.map (·.id)).Nodup := by decide +kernel
  exact ⟨by decide +kernel, accepted, (noRepeats_review_iff accepted).mpr listed,
    Rehearsal.remembers_of_fresh spec.id none, by decide +kernel⟩

end ProjectSpec

end PubSubProvisioning
