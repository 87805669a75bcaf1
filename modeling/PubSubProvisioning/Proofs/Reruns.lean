import PubSubProvisioning.Proofs.FreshService
import PubSubProvisioning.Proofs.Sessions

/-!
# Passes that are run again

A service that keeps what it creates, and refuses to create it twice, lets a project through only
once.  From when the first topic of a project exists, each further pass over the project ends with
its first request: it does not get to what an earlier pass may have left out.

What has been created is never lost, whatever passes come in between and however they end; this is
shown for one call, for one session and for passes in a row.
-/

namespace PubSubProvisioning

variable {σ Name : Type}

/-! ## Projects whose first topic is refused -/

/-- A pass ends with the first topic where that is refused. -/
theorem ProjectSpec.provision_of_topic_refused {backend : Backend σ} {start : σ} {spec : ProjectSpec}
    {first : TopicSpec} {rest : List TopicSpec} {cause : BackendError}
    (opened : (backend.answer start (.connect spec.id)).outcome = .ok ())
    (listed : spec.topics = first :: rest)
    (refused : (backend.answer (backend.answer start (.connect spec.id)).state
      (.createTopic first.id)).outcome = .error cause) :
    let held := spec.provision.run backend start
    let asked := backend.answer (backend.answer start (.connect spec.id)).state
      (.createTopic first.id)
    Entry.calls held.transcript = [.connect spec.id, .createTopic first.id, .close] ∧
      held.result = .error (.topicFailed spec.id first.id cause) ∧
      held.state = (backend.answer asked.state .close).state := by
  let others := ((Script.ofTokens first.tokens).andThen (.ofTopics rest)).steps
  have steps : spec.script.steps = .topic first.id :: others := by
    rw [script, listed]
    rfl
  have refusedStep : (backend.answer (backend.answer start (.connect spec.id)).state
      ((Step.topic first.id).call (.initial spec.id))).outcome = .error cause := refused
  obtain ⟨made, ends, reached⟩ := hold_performAll_cons_of_error spec.id refusedStep others
  obtain ⟨answered, result, left⟩ := hold_steps_of_opened opened
  rw [steps] at answered result left
  rw [made] at answered
  rw [ends] at result
  rw [reached] at left
  intro held asked
  refine ⟨?_, result, left⟩
  rw [Entry.calls_of_answered answered]
  rfl

/-! ## Services that keep what they create -/

/-- A service that keeps what it creates.  Between sessions it is `idle`; then it opens a session
for any project, and once that is closed it is idle again.  Resources are known by names, and
`holds` tells what there is in each state.  A call adds at most the resource that it asks for, which
is there once it is granted; where it is there already, the call is refused for this reason. -/
structure Backend.Retains (backend : Backend σ) (idle : σ → Prop) (name : String → Resource → Name)
    (holds : σ → Name → Prop) : Prop where
  opens : ∀ start, idle start → ∀ project,
    (backend.answer start (.connect project)).outcome = .ok () ∧
      ∀ other, holds (backend.answer start (.connect project)).state other ↔ holds start other
  closes : ∀ start project state, idle start → backend.InSession start project state →
    idle (backend.answer state .close).state ∧
      ∀ other, holds (backend.answer state .close).state other ↔ holds state other
  keeps : ∀ start project state, idle start → backend.InSession start project state →
    ∀ call, call.resource?.isSome → ∀ other, holds state other →
      holds (backend.answer state call).state other
  adds : ∀ start project state, idle start → backend.InSession start project state →
    ∀ call resource, call.resource? = some resource → ∀ other,
      holds (backend.answer state call).state other →
        other = name project resource ∨ holds state other
  records : ∀ start project state, idle start → backend.InSession start project state →
    ∀ call resource grant, call.resource? = some resource →
      (backend.answer state call).outcome = .ok grant →
        holds (backend.answer state call).state (name project resource)
  refuses : ∀ start project state, idle start → backend.InSession start project state →
    ∀ call resource, call.resource? = some resource → holds state (name project resource) →
      ∃ text, (backend.answer state call).outcome = .error (.alreadyExists text)

namespace Backend.Retains

variable {backend : Backend σ} {idle : σ → Prop} {name : String → Resource → Name}
  {holds : σ → Name → Prop} {start state : σ} {project : String} {log : List AnsweredCall}
  {spec : ProjectSpec} {first : TopicSpec} {rest : List TopicSpec}

/-- What there is in the middle of a session: all that there was before it, and all that has been
granted in it. -/
structure Grown (backend : Backend σ) (name : String → Resource → Name) (holds : σ → Name → Prop)
    (start : σ) (project : String) (log : List AnsweredCall) (state : σ) : Prop where
  session : backend.InSession start project state
  kept : ∀ other, holds start other → holds state other
  granted : ∀ answered ∈ log, ∀ resource grant, answered.call.resource? = some resource →
    answered.outcome = .ok grant → holds state (name project resource)

/-- To open a session takes nothing away and grants nothing. -/
theorem grown_opened (retains : backend.Retains idle name holds) (ready : idle start)
    (project : String) :
    Grown backend name holds start project [] (backend.answer start (.connect project)).state := by
  obtain ⟨opened, same⟩ := retains.opens start ready project
  exact ⟨.opened opened, fun other held => (same other).mpr held, by simp⟩

/-- A call that creates something takes nothing away, and what it grants is there from then on. -/
theorem grown_created (retains : backend.Retains idle name holds) (ready : idle start) {call : Call}
    (creating : call.resource?.isSome) (grown : Grown backend name holds start project log state) :
    Grown backend name holds start project (log ++ [⟨call, (backend.answer state call).outcome⟩])
      (backend.answer state call).state := by
  have keeps := retains.keeps start project state ready grown.session call creating
  refine ⟨grown.session.created creating, fun other held => keeps other (grown.kept other held), ?_⟩
  intro answered member resource grant creates outcome
  rcases List.mem_append.mp member with earlier | latest
  · exact keeps _ (grown.granted answered earlier resource grant creates outcome)
  · obtain rfl := List.mem_singleton.mp latest
    exact retains.records start project state ready grown.session call resource grant creates outcome

/-- After a pass, the service is idle again and holds what it held before it and what it has
granted, however the pass ended. -/
theorem provision_keeps (retains : backend.Retains idle name holds) (ready : idle start)
    (spec : ProjectSpec) :
    let held := spec.provision.run backend start
    idle held.state ∧ (∀ other, holds start other → holds held.state other) ∧
      ∀ answered ∈ Entry.answered held.transcript, ∀ resource grant,
        answered.call.resource? = some resource → answered.outcome = .ok grant →
          holds held.state (name spec.id resource) := by
  obtain ⟨made, state, grown, answered, left⟩ :=
    ProjectSpec.session_keeps (Grown backend name holds start spec.id)
      (fun _ _ _ creating grown => retains.grown_created ready creating grown)
      (retains.opens start ready spec.id).1 (retains.grown_opened ready spec.id)
  obtain ⟨idleAgain, same⟩ := retains.closes start spec.id state ready grown.session
  intro held
  rw [left, answered]
  refine ⟨idleAgain, fun other before => (same other).mpr (grown.kept other before), ?_⟩
  intro call member resource grant creates outcome
  rw [same]
  -- Neither the first nor the last call of a session creates anything.
  simp only [sessionLog, List.mem_cons, List.mem_append, List.not_mem_nil, or_false] at member
  rcases member with rfl | inside | rfl
  · contradiction
  · exact grown.granted call inside resource grant creates outcome
  · contradiction

/-- Passes in a row lose nothing either. -/
theorem provisionEach_keeps (retains : backend.Retains idle name holds) (ready : idle start)
    (specs : List ProjectSpec) :
    let held := (provisionEach specs).run backend start
    idle held.state ∧ ∀ other, holds start other → holds held.state other := by
  induction specs generalizing start with
  | nil => exact ⟨ready, fun _ held => held⟩
  | cons spec rest inductionHypothesis =>
      obtain ⟨idleAgain, kept, -⟩ := retains.provision_keeps ready spec
      obtain ⟨idleLater, keptLater⟩ := inductionHypothesis idleAgain
      simp only [provisionEach, Dialogue.run_bind, Held.after_state]
      exact ⟨idleLater, fun other held => keptLater other (kept other held)⟩

/-! ## Running a pass again -/

/-- A session in which the only call is for a resource that there is leaves things as they are. -/
theorem unchanged_of_present (retains : backend.Retains idle name holds) (ready : idle start)
    {call : Call} {resource : Resource} (creates : call.resource? = some resource)
    (present : holds start (name project resource)) (other : Name) :
    let opened := (backend.answer start (.connect project)).state
    holds (backend.answer (backend.answer opened call).state .close).state other ↔
      holds start other := by
  intro opened
  obtain ⟨connected, sameOpened⟩ := retains.opens start ready project
  have session := Backend.InSession.opened connected
  have creating : call.resource?.isSome := by rw [creates]; rfl
  obtain ⟨-, sameClosed⟩ := retains.closes start project _ ready (session.created creating)
  rw [sameClosed]
  constructor
  · intro after
    rcases retains.adds start project _ ready session call resource creates other after with
      rfl | before
    · exact present
    · exact (sameOpened other).mp before
  · intro before
    exact retains.keeps start project _ ready session call creating other
      ((sameOpened other).mpr before)

/-- Where the first topic of a project exists, a pass over the project asks for this topic, is
refused, and changes nothing. -/
theorem provision_of_present (retains : backend.Retains idle name holds) (ready : idle start)
    (listed : spec.topics = first :: rest) (present : holds start (name spec.id (.topic first.id))) :
    let held := spec.provision.run backend start
    Entry.calls held.transcript = [.connect spec.id, .createTopic first.id, .close] ∧
      (∃ text, held.result = .error (.topicFailed spec.id first.id (.alreadyExists text))) ∧
      ∀ other, holds held.state other ↔ holds start other := by
  obtain ⟨opened, sameOpened⟩ := retains.opens start ready spec.id
  obtain ⟨text, refused⟩ := retains.refuses start spec.id _ ready (.opened opened)
    (.createTopic first.id) (.topic first.id) rfl ((sameOpened _).mpr present)
  obtain ⟨calls, result, left⟩ := ProjectSpec.provision_of_topic_refused opened listed refused
  refine ⟨calls, ⟨text, result⟩, ?_⟩
  intro other
  rw [left]
  exact retains.unchanged_of_present ready rfl present other

end Backend.Retains

/-! ## The service in memory -/

namespace Rehearsal

variable {start state : Rehearsal} {project : String}

/-- Without rules, a call adds the name of the resource that it asks for, unless it is there. -/
theorem mem_resources_of_created (unruled : start.rules = []) (remembers : start.remembers = true)
    (session : backend.InSession start project state) {call : Call} {resource : Resource}
    (creates : call.resource? = some resource) (other : String) :
    other ∈ (backend.answer state call).state.resources ↔
      other = resource.name project ∨ other ∈ state.resources := by
  obtain ⟨-, -, rfl, remembering⟩ := inSession_frame session
  obtain ⟨refuses, grants⟩ := answer_of_rules (inSession_rules unruled session)
    (remembering.trans remembers) creates
  by_cases present : resource.name state.project ∈ state.resources
  · obtain ⟨_, refused⟩ := refuses present
    rw [backend, resources_of_refused creates refused]
    constructor
    · exact .inr
    · rintro (rfl | there)
      · exact present
      · exact there
  · rw [backend, (grants present).2, List.mem_cons]

/-- A rehearsal without rules that is told to keep what it creates does so. -/
theorem retains :
    backend.Retains (fun rehearsal => rehearsal.rules = [] ∧ rehearsal.remembers = true)
      (fun project resource => resource.name project)
      (fun rehearsal name => name ∈ rehearsal.resources) where
  opens := by
    rintro start ⟨unruled, -⟩ project
    constructor
    · simp [backend, answer, meet, unruled, FaultRule.meetAll]
    · intro other
      change other ∈ (start.meet .connect project).2.resources ↔ _
      rw [meet_resources]
  closes := by
    rintro start project state ⟨unruled, remembers⟩ session
    obtain ⟨-, -, -, remembering⟩ := inSession_frame session
    have unruledNow := inSession_rules unruled session
    constructor
    · simp [backend, answer, meet, unruledNow, FaultRule.meetAll, remembering, remembers]
    · intro other
      change other ∈ (state.meet .close state.project).2.resources ↔ _
      rw [meet_resources]
  keeps := by
    rintro start project state ⟨unruled, remembers⟩ session call creating other present
    obtain ⟨resource, creates⟩ := Option.isSome_iff_exists.mp creating
    exact (mem_resources_of_created unruled remembers session creates other).mpr (.inr present)
  adds := by
    rintro start project state ⟨unruled, remembers⟩ session call resource creates other present
    exact (mem_resources_of_created unruled remembers session creates other).mp present
  records := by
    rintro start project state ⟨unruled, remembers⟩ session call resource _ creates -
    exact (mem_resources_of_created unruled remembers session creates _).mpr (.inl rfl)
  refuses := by
    rintro start project state ⟨unruled, remembers⟩ session call resource creates present
    exact refuses_held unruled remembers session creates present

end Rehearsal

/-! ## No progress -/

/-- Once the first topic of a project has been created, no pass over the project makes progress any
more.  However the pass that created it went on, and whatever passes have come in between, over this
project or over others: a further pass makes three calls, with the one for that topic in the middle,
fails because the topic exists, and leaves what there is as it is. -/
theorem rerun_makes_no_progress {backend : Backend σ} {idle : σ → Prop}
    {name : String → Resource → Name} {holds : σ → Name → Prop}
    (retains : backend.Retains idle name holds) (start : σ) (ready : idle start)
    (spec : ProjectSpec) {first : TopicSpec} {rest : List TopicSpec}
    (listed : spec.topics = first :: rest) {handle : TopicHandle}
    (created : ⟨.createTopic first.id, .ok handle⟩ ∈
      Entry.answered (spec.provision.run backend start).transcript)
    (between : List ProjectSpec) :
    let passed := spec.provision.run backend start
    let before := (provisionEach between).run backend passed.state
    let held := spec.provision.run backend before.state
    Entry.calls held.transcript = [.connect spec.id, .createTopic first.id, .close] ∧
      (∃ error text, held.result = .error error ∧
        error = .topicFailed spec.id first.id (.alreadyExists text) ∧
        error.isAlreadyExists = true) ∧
      ∀ other, holds held.state other ↔ holds before.state other := by
  intro passed before held
  obtain ⟨idlePassed, -, granted⟩ := retains.provision_keeps ready spec
  have present := granted _ created (.topic first.id) handle rfl rfl
  obtain ⟨idleBefore, kept⟩ := retains.provisionEach_keeps idlePassed between
  obtain ⟨calls, ⟨text, result⟩, same⟩ := retains.provision_of_present idleBefore listed (kept _ present)
  exact ⟨calls, ⟨_, text, result, rfl, rfl⟩, same⟩

/-- A pass ends where it comes to its own subscription a second time.  After other passes for this
project and for another one, with the same pass among them, it does not get past its first topic. -/
theorem rerun_of_interrupted_pass_makes_no_progress :
    let spec : ProjectSpec := ⟨"p", [⟨"t", ["s", "s"]⟩, ⟨"u", []⟩]⟩
    let start : Rehearsal := { remembers := true }
    let between : List ProjectSpec := [⟨"p", [⟨"u", ["s"]⟩]⟩, spec, ⟨"q", [⟨"t", []⟩]⟩]
    let passed := spec.provision.run Rehearsal.backend start
    let before := (provisionEach between).run Rehearsal.backend passed.state
    let held := spec.provision.run Rehearsal.backend before.state
    passed.result = .error (.subscriptionFailed "p" "t" "s" none
        (.alreadyExists "projects/p/subscriptions/s")) ∧
      before.state.resources = ["projects/q/topics/t", "projects/p/topics/u",
        "projects/p/subscriptions/s", "projects/p/topics/t"] ∧
      Entry.calls held.transcript = [.connect "p", .createTopic "t", .close] ∧
      (∃ error text, held.result = .error error ∧
        error = .topicFailed "p" "t" (.alreadyExists text) ∧ error.isAlreadyExists = true) ∧
      ∀ other, other ∈ held.state.resources ↔ other ∈ before.state.resources := by
  intro spec start between passed before held
  have ready : start.rules = [] ∧ start.remembers = true := ⟨rfl, rfl⟩
  have listed : spec.topics = ⟨"t", ["s", "s"]⟩ :: [⟨"u", []⟩] := rfl
  have created : ⟨.createTopic "t", .ok ⟨"p", "t"⟩⟩ ∈ Entry.answered passed.transcript := by
    decide +kernel
  obtain ⟨calls, failed, same⟩ :=
    rerun_makes_no_progress Rehearsal.retains start ready spec listed created between
  refine ⟨by decide +kernel, by decide +kernel, calls, failed, ?_⟩
  simp only [held, before, passed]
  exact same

end PubSubProvisioning
