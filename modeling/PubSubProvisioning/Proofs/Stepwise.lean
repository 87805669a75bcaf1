import Mathlib.Control.Monad.Basic
import PubSubProvisioning.Proofs.Pass
import PubSubProvisioning.Steps

/-!
# Passes go step by step

The functions of a pass are nested: topics, tokens, and the dead letter pair of a token.  What they
come to is flat.  Creating the topics of a project is the same dialogue as performing the steps of
its script one after another, whatever topics are at hand at first.

So whatever holds of a pass can be shown by an induction on steps.  A course says what calls steps
come to, with any outcomes and on any service, and how they end; `ProjectSpec.Unfolds` says the same
of a whole pass.
-/

namespace PubSubProvisioning

variable {σ α : Type}

/-! ## The parts of a pass as steps -/

/-- Creating a subscription is performing its steps.  They leave the topic of the subscription at
hand, and perhaps another dead letter topic. -/
theorem createSubscription_bind (project : String) (topic deadLetters : TopicHandle)
    (plan : SubscriptionPlan) (summary : Summary) {next : Summary → Pass α}
    {after : Handles → Pass α}
    (same : ∀ deadLetters,
      after ⟨topic, deadLetters⟩ = next (plan.steps.foldl Step.count summary)) :
    createSubscription topic plan summary >>= next =
      performAll project ⟨topic, deadLetters⟩ plan.steps >>= after := by
  obtain ⟨id, delivery⟩ := plan
  cases delivery <;>
    simp only [createSubscription, configure, createDeadLetterPair, SubscriptionPlan.steps,
      performAll, Step.perform, Step.call, Step.next, bind_assoc, pure_bind, same] <;>
    rfl

theorem createSubscriptions_eq_tally (project : String) (topic deadLetters : TopicHandle)
    (summary : Summary) (tokens : List String) :
    createSubscriptions topic summary tokens =
      (Script.ofTokens tokens).tally project ⟨topic, deadLetters⟩ summary := by
  induction tokens generalizing deadLetters summary with
  | nil => rfl
  | cons token rest inductionHypothesis =>
      rw [createSubscriptions, Script.ofTokens, Script.tally_andThen, Script.ofToken]
      cases SubscriptionPlan.ofToken token with
      | error reason => rfl
      | ok plan =>
          rw [Pass.accept_ok_bind, Script.perform_mk_none]
          apply createSubscription_bind
          intro deadLetters
          rw [inductionHypothesis deadLetters]

theorem createSubscriptions_bind (project : String) (topic deadLetters : TopicHandle)
    (summary : Summary) (tokens : List String) (next : Summary → Pass α) :
    createSubscriptions topic summary tokens >>= next =
      (Script.ofTokens tokens).perform project ⟨topic, deadLetters⟩ >>= fun _ =>
        next ((Script.ofTokens tokens).steps.foldl Step.count summary) := by
  simp only [createSubscriptions_eq_tally project topic deadLetters, Script.tally, bind_assoc,
    pure_bind]

/-- Creating topics with their subscriptions is performing their script. -/
theorem createTopics_eq_tally (project : String) (handles : Handles) (summary : Summary)
    (specs : List TopicSpec) :
    createTopics project summary specs =
      (Script.ofTopics specs).tally project handles summary := by
  induction specs generalizing handles summary with
  | nil => rfl
  | cons spec rest inductionHypothesis =>
      rw [createTopics, Script.ofTopics, Script.tally_andThen, Script.perform_mk_none]
      simp only [createSubscriptions_bind project _ handles.deadLetters, Script.tally_andThen,
        performAll, Step.perform, Step.call, Step.next, bind_assoc, pure_bind,
        ← inductionHypothesis]
      rfl

/-! ## Holding steps -/

section Holding

variable {backend : Backend σ} {handles : Handles} {step : Step} {state : σ}

/-- A step makes its call, and hands on the topics at hand after it. -/
theorem Step.hold_perform (backend : Backend σ) (project : String) (handles : Handles) (step : Step)
    (state : σ) :
    let held := (step.perform project handles).hold backend state
    let answer := backend.answer state (step.call handles)
    Entry.answered held.transcript = [⟨step.call handles, answer.outcome⟩] ∧
      held.result = (answer.outcome.mapError (step.error project handles)).map (step.next handles) ∧
      held.state = answer.state := by
  have called := Pass.hold_call backend (step.call handles) (step.error project handles) state
  dsimp only at called
  intro held answer
  have shape : held = (step.perform project handles).hold backend state := rfl
  rw [perform, Pass.hold_reportAll_bind] at shape
  cases outcome : (backend.answer state (step.call handles)).outcome with
  | error cause =>
      rw [outcome] at called
      rw [shape, Pass.hold_bind_of_error (congrArg Held.result called), called]
      simp only [Held.after_answered, Held.after_result, Held.after_state,
        Entry.answered_map_noted, Entry.answered_called, answer]
      exact ⟨rfl, rfl, trivial⟩
  | ok granted =>
      rw [outcome] at called
      rw [shape, Pass.hold_bind_of_ok (congrArg Held.result called), called, Pass.hold_pure]
      simp only [Held.after_answered, Held.after_result, Held.after_state,
        Entry.answered_map_noted, Entry.answered_called, answer]
      exact ⟨rfl, rfl, trivial⟩

/-- A step whose call is refused is the last one. -/
theorem hold_performAll_cons_of_error (project : String) {cause : BackendError}
    (refused : (backend.answer state (step.call handles)).outcome = .error cause)
    (rest : List Step) :
    let held := (performAll project handles (step :: rest)).hold backend state
    Entry.answered held.transcript = [⟨step.call handles, .error cause⟩] ∧
      held.result = .error (step.error project handles cause) ∧
      held.state = (backend.answer state (step.call handles)).state := by
  obtain ⟨answered, result, left⟩ := Step.hold_perform backend project handles step state
  rw [refused] at answered result
  rw [performAll, Pass.hold_bind_of_error result]
  exact ⟨answered, rfl, left⟩

/-- After a step whose call is granted the others are performed, with the topics that are at hand
then. -/
theorem hold_performAll_cons_of_ok (project : String) {granted : (step.call handles).Grant}
    (grants : (backend.answer state (step.call handles)).outcome = .ok granted)
    (rest : List Step) :
    let held := (performAll project handles (step :: rest)).hold backend state
    let later := (performAll project (step.next handles granted) rest).hold backend
      (backend.answer state (step.call handles)).state
    Entry.answered held.transcript =
        ⟨step.call handles, .ok granted⟩ :: Entry.answered later.transcript ∧
      held.result = later.result ∧ held.state = later.state := by
  obtain ⟨answered, result, left⟩ := Step.hold_perform backend project handles step state
  rw [grants] at answered result
  rw [performAll, Pass.hold_bind_of_ok result, left]
  intro held later
  rw [Held.after_answered, answered]
  exact ⟨rfl, rfl, rfl⟩

end Holding

/-- Every step asks to create something. -/
theorem Step.isSome_resource?_call (handles : Handles) (step : Step) :
    (step.call handles).resource?.isSome := by
  cases step <;> rfl

/-! ## Courses -/

/-- What steps come to: the calls that are made for them, with their outcomes, and the topics at
hand in the end or the error.  The steps are gone through until a call is refused. -/
inductive Course (project : String) :
    Handles → List Step → List AnsweredCall → Except ProvisionError Handles → Prop where
  | finished (handles : Handles) : Course project handles [] [] (.ok handles)
  | refused (handles : Handles) (step : Step) (rest : List Step) (cause : BackendError) :
      Course project handles (step :: rest) [⟨step.call handles, .error cause⟩]
        (.error (step.error project handles cause))
  | granted {handles : Handles} {step : Step} {rest : List Step} {made : List AnsweredCall}
      {result : Except ProvisionError Handles} (granted : (step.call handles).Grant)
      (later : Course project (step.next handles granted) rest made result) :
      Course project handles (step :: rest) (⟨step.call handles, .ok granted⟩ :: made) result

/-- Whatever the service, performing steps takes a course. -/
theorem course_performAll (backend : Backend σ) (project : String) (handles : Handles)
    (steps : List Step) (state : σ) :
    let held := (performAll project handles steps).hold backend state
    Course project handles steps (Entry.answered held.transcript) held.result := by
  induction steps generalizing handles state with
  | nil => exact .finished handles
  | cons step rest inductionHypothesis =>
      cases outcome : (backend.answer state (step.call handles)).outcome with
      | error cause =>
          obtain ⟨answered, result, -⟩ := hold_performAll_cons_of_error project outcome rest
          intro held
          rw [answered, result]
          exact .refused handles step rest cause
      | ok granted =>
          obtain ⟨answered, result, -⟩ := hold_performAll_cons_of_ok project outcome rest
          intro held
          rw [answered, result]
          exact .granted granted (inductionHypothesis _ _)

namespace Course

variable {project : String} {handles reached : Handles} {steps front back : List Step}
  {made before after : List AnsweredCall} {answered : AnsweredCall} {error : ProvisionError}
  {result : Except ProvisionError Handles}

/-- Only resources are asked for. -/
theorem creating (course : Course project handles steps made result) :
    ∀ answered ∈ made, answered.call.resource?.isSome := by
  induction course with
  | finished => simp
  | refused handles step rest cause => simp [Step.isSome_resource?_call]
  | @granted handles step rest made result grant _ inductionHypothesis =>
      intro answered member
      rcases List.mem_cons.mp member with rfl | member
      · exact step.isSome_resource?_call handles
      · exact inductionHypothesis answered member

/-- Where all steps have been gone through, there is a call for each of them. -/
theorem length_eq (course : Course project handles steps made (.ok reached)) :
    made.length = steps.length := by
  induction steps generalizing handles made with
  | nil =>
      cases course
      rfl
  | cons step rest inductionHypothesis =>
      cases course with
      | granted _ later => simp [inductionHypothesis later]

/-- So the next step is found at the place that the number of calls gives. -/
theorem getElem?_length (course : Course project handles front made (.ok reached)) (step : Step)
    (back : List Step) : (front ++ step :: back)[made.length]? = some step := by
  rw [course.length_eq, List.getElem?_append_right (Nat.le_refl _), Nat.sub_self,
    List.getElem?_cons_zero]

/-- A call in the middle of a course is made for the step at its place, with the topics at hand that
those before it lead to. -/
theorem split_made (course : Course project handles steps (before ++ answered :: after) result) :
    ∃ front step back reached, steps = front ++ step :: back ∧
      Course project handles front before (.ok reached) ∧
      Course project reached (step :: back) (answered :: after) result := by
  induction before generalizing handles steps with
  | nil =>
      cases steps with
      | nil => nomatch course
      | cons step back => exact ⟨[], step, back, handles, rfl, .finished handles, course⟩
  | cons first before inductionHypothesis =>
      rw [List.cons_append] at course
      generalize whole : before ++ answered :: after = others at course
      cases course with
      | refused => simp at whole
      | @granted _ earlier _ _ _ granted later =>
          subst whole
          obtain ⟨front, step, back, reached, rfl, leading, following⟩ := inductionHypothesis later
          exact ⟨earlier :: front, step, back, reached, rfl, .granted granted leading, following⟩

/-- Steps that have been gone through in a row are gone through one part after the other. -/
theorem split_steps (course : Course project handles (front ++ back) made (.ok reached)) :
    ∃ first second between, made = first ++ second ∧
      Course project handles front first (.ok between) ∧
      Course project between back second (.ok reached) := by
  induction front generalizing handles made with
  | nil => exact ⟨[], made, handles, rfl, .finished handles, course⟩
  | cons step front inductionHypothesis =>
      cases course with
      | granted granted later =>
          obtain ⟨first, second, between, rfl, leading, following⟩ := inductionHypothesis later
          exact ⟨_ :: first, second, between, rfl, .granted granted leading, following⟩

/-- A course that ends with an error ends with the call that is refused. -/
theorem exists_refused (course : Course project handles steps made (.error error)) :
    ∃ front step back reached before cause, steps = front ++ step :: back ∧
      Course project handles front before (.ok reached) ∧
      made = before ++ [⟨step.call reached, .error cause⟩] ∧
      error = step.error project reached cause := by
  induction steps generalizing handles made with
  | nil => nomatch course
  | cons step rest inductionHypothesis =>
      cases course with
      | refused _ _ _ cause =>
          exact ⟨[], step, rest, handles, [], cause, rfl, .finished handles, rfl, rfl⟩
      | granted granted later =>
          obtain ⟨front, other, back, reached, before, cause, rfl, leading, rfl, rfl⟩ :=
            inductionHypothesis later
          exact ⟨step :: front, other, back, reached, _ :: before, cause, rfl,
            .granted granted leading, rfl, rfl⟩

end Course

/-! ## Whole passes -/

theorem Script.hold_tally (backend : Backend σ) (project : String) (handles : Handles)
    (summary : Summary) (script : Script) (state : σ) :
    let held := (script.tally project handles summary).hold backend state
    let performed := (performAll project handles script.steps).hold backend state
    Entry.answered held.transcript = Entry.answered performed.transcript ∧
      held.result = script.conclude summary performed.result ∧ held.state = performed.state := by
  obtain ⟨steps, flaw⟩ := script
  simp only [tally, perform, bind_assoc]
  cases result : ((performAll project handles steps).hold backend state).result with
  | error error =>
      rw [Pass.hold_bind_of_error result]
      exact ⟨rfl, rfl, rfl⟩
  | ok reached =>
      rw [Pass.hold_bind_of_ok result, Held.after_answered]
      -- What is left is an error or a summary, and no call is made for it.
      cases flaw with
      | none => exact ⟨List.append_nil _, rfl, rfl⟩
      | some reason => exact ⟨List.append_nil _, rfl, rfl⟩

/-- Outcomes can be compared, and so can logs. -/
instance Call.decidableEqOutcome : (call : Call) → DecidableEq call.Outcome
  | .connect _ | .close => inferInstanceAs (DecidableEq (Except BackendError Unit))
  | .createTopic _ => inferInstanceAs (DecidableEq (Except BackendError TopicHandle))
  | .createSubscription _ _ => inferInstanceAs (DecidableEq (Except BackendError SubscriptionHandle))

deriving instance DecidableEq for AnsweredCall

/-- The log of a session: it is opened, calls are made, and it is closed. -/
def sessionLog (project : String) (made : List AnsweredCall) (closing : Call.Outcome .close) :
    List AnsweredCall :=
  ⟨.connect project, .ok ()⟩ :: (made ++ [⟨.close, closing⟩])

/-- What is created in a session is in the middle of its log. -/
theorem sessionLog_split {project : String} {made before after : List AnsweredCall}
    {closing : Call.Outcome .close} {answered : AnsweredCall}
    (creating : answered.call.resource?.isSome)
    (shape : sessionLog project made closing = before ++ answered :: after) :
    ∃ front back, before = ⟨.connect project, .ok ()⟩ :: front ∧ made = front ++ answered :: back ∧
      after = back ++ [⟨.close, closing⟩] := by
  cases before with
  | nil =>
      obtain ⟨rfl, -⟩ := List.cons.inj shape
      contradiction
  | cons opening front =>
      obtain ⟨rfl, inside⟩ := List.cons.inj shape
      rcases List.append_eq_append_iff.mp inside with ⟨others, rfl, rest⟩ | ⟨others, rfl, rest⟩
      · rcases List.singleton_eq_append_iff.mp rest with ⟨-, same⟩ | ⟨-, impossible⟩
        · obtain ⟨rfl, -⟩ := List.cons.inj same
          contradiction
        · nomatch impossible
      · cases others with
        | nil =>
            obtain ⟨rfl, -⟩ := List.cons.inj rest
            contradiction
        | cons other back =>
            obtain ⟨rfl, rfl⟩ := List.cons.inj rest
            exact ⟨front, back, rfl, rfl, rfl⟩

namespace ProjectSpec

/-- In a session that has been opened the steps of the project are performed, and their result is
what the pass concludes from. -/
theorem hold_steps_of_opened {backend : Backend σ} {start : σ} {spec : ProjectSpec}
    (opened : (backend.answer start (.connect spec.id)).outcome = .ok ()) :
    let held := spec.provision.run backend start
    let performed := (performAll spec.id (.initial spec.id) spec.script.steps).hold backend
      (backend.answer start (.connect spec.id)).state
    let closing := backend.answer performed.state .close
    Entry.answered held.transcript =
        sessionLog spec.id (Entry.answered performed.transcript) closing.outcome ∧
      held.result = spec.script.conclude { project := spec.id } performed.result ∧
      held.state = closing.state := by
  obtain ⟨answered, result, left⟩ := answered_provision_of_opened opened
  rw [createTopics_eq_tally spec.id (.initial spec.id)] at answered result left
  obtain ⟨same, concluded, reached⟩ := Script.hold_tally backend spec.id (.initial spec.id)
    { project := spec.id } (.ofTopics spec.topics) (backend.answer start (.connect spec.id)).state
  rw [same, reached] at answered
  rw [reached] at left
  exact ⟨answered, result.trans concluded, left⟩

/-- What a pass over a project comes to, log and result.  Without a session there is nothing more to
it.  In a session the steps of the project take their course, and decide the result. -/
inductive Unfolds (spec : ProjectSpec) :
    List AnsweredCall → Except ProvisionError Summary → Prop where
  | refused (cause : BackendError) :
      Unfolds spec [⟨.connect spec.id, .error cause⟩] (.error (.connectFailed spec.id cause))
  | opened (made : List AnsweredCall) (result : Except ProvisionError Handles)
      (closing : Call.Outcome .close)
      (course : Course spec.id (.initial spec.id) spec.script.steps made result) :
      Unfolds spec (sessionLog spec.id made closing)
        (spec.script.conclude { project := spec.id } result)

/-- What is created in a pass is created in the course of its steps. -/
theorem Unfolds.exists_course {spec : ProjectSpec} {log before after : List AnsweredCall}
    {result : Except ProvisionError Summary} (unfolds : spec.Unfolds log result)
    {answered : AnsweredCall} (creating : answered.call.resource?.isSome)
    (shape : log = before ++ answered :: after) :
    ∃ front back ends closing, before = ⟨.connect spec.id, .ok ()⟩ :: front ∧
      after = back ++ [⟨.close, closing⟩] ∧
      Course spec.id (.initial spec.id) spec.script.steps (front ++ answered :: back) ends := by
  cases unfolds with
  | refused cause =>
      rcases List.singleton_eq_append_iff.mp shape with ⟨-, same⟩ | ⟨-, impossible⟩
      · obtain ⟨rfl, -⟩ := List.cons.inj same
        contradiction
      · nomatch impossible
  | opened made ends closing course =>
      obtain ⟨front, back, rfl, rfl, rfl⟩ := sessionLog_split creating shape
      exact ⟨front, back, ends, closing, rfl, rfl, course⟩

/-- Whatever the service, a pass unfolds so. -/
theorem unfolds (backend : Backend σ) (start : σ) (spec : ProjectSpec) :
    let held := spec.provision.run backend start
    spec.Unfolds (Entry.answered held.transcript) held.result := by
  intro held
  cases opening : (backend.answer start (.connect spec.id)).outcome with
  | error cause =>
      obtain ⟨answered, result, -⟩ := answered_provision_of_refused opening
      rw [answered, result]
      exact .refused cause
  | ok _ =>
      obtain ⟨answered, result, -⟩ := hold_steps_of_opened opening
      rw [answered, result]
      exact .opened _ _ _ (course_performAll backend spec.id _ _ _)

end ProjectSpec

/-! ## Invariants of sessions -/

section Invariants

variable {backend : Backend σ} (invariant : List AnsweredCall → σ → Prop)

/-- Whatever a service keeps from one call to the next, it keeps through steps. -/
theorem hold_performAll_keeps
    (keeps : ∀ log state call, call.resource?.isSome → invariant log state →
      invariant (log ++ [⟨call, (backend.answer state call).outcome⟩])
        (backend.answer state call).state)
    (project : String) (handles : Handles) (steps : List Step) {log : List AnsweredCall} {state : σ}
    (initial : invariant log state) :
    let held := (performAll project handles steps).hold backend state
    invariant (log ++ Entry.answered held.transcript) held.state := by
  induction steps generalizing handles log state with
  | nil =>
      change invariant (log ++ []) state
      rw [List.append_nil]
      exact initial
  | cons step rest inductionHypothesis =>
      have next := keeps log state (step.call handles) (step.isSome_resource?_call handles) initial
      intro held
      cases outcome : (backend.answer state (step.call handles)).outcome with
      | error cause =>
          obtain ⟨answered, -, left⟩ := hold_performAll_cons_of_error project outcome rest
          rw [outcome] at next
          rw [answered, left]
          exact next
      | ok granted =>
          obtain ⟨answered, -, left⟩ := hold_performAll_cons_of_ok project outcome rest
          rw [outcome] at next
          rw [answered, left, ← List.singleton_append, ← List.append_assoc]
          exact inductionHypothesis (step.next handles granted) next

/-- So it does through a session: what holds when the session is opened holds before it is
closed. -/
theorem ProjectSpec.session_keeps {start : σ} {spec : ProjectSpec}
    (keeps : ∀ log state call, call.resource?.isSome → invariant log state →
      invariant (log ++ [⟨call, (backend.answer state call).outcome⟩])
        (backend.answer state call).state)
    (opened : (backend.answer start (.connect spec.id)).outcome = .ok ())
    (initial : invariant [] (backend.answer start (.connect spec.id)).state) :
    let held := spec.provision.run backend start
    ∃ made state, invariant made state ∧
      Entry.answered held.transcript = sessionLog spec.id made (backend.answer state .close).outcome ∧
      held.state = (backend.answer state .close).state := by
  obtain ⟨answered, -, left⟩ := hold_steps_of_opened opened
  have kept := hold_performAll_keeps invariant keeps spec.id (.initial spec.id) spec.script.steps
    initial
  exact ⟨_, _, kept, answered, left⟩

end Invariants

/-! ## Services that answer alike -/

variable {τ : Type} {first : Backend σ} {second : Backend τ} {asked : Call → Prop}
  {related : σ → τ → Prop}

/-- Services whose states are related give calls that they may be asked the same outcome, and their
states stay related. -/
def Backend.Alike (first : Backend σ) (second : Backend τ) (asked : Call → Prop)
    (related : σ → τ → Prop) : Prop :=
  ∀ state other call, related state other → asked call →
    (first.answer state call).outcome = (second.answer other call).outcome ∧
      related (first.answer state call).state (second.answer other call).state

/-- Steps come to the same with services that answer alike, where nothing else is asked of the first
one. -/
theorem hold_performAll_of_alike (alike : first.Alike second asked related) (project : String)
    (handles : Handles) (steps : List Step) {state : σ} {other : τ} (start : related state other) :
    let held := (performAll project handles steps).hold first state
    let again := (performAll project handles steps).hold second other
    (∀ answered ∈ Entry.answered held.transcript, asked answered.call) →
    Entry.answered held.transcript = Entry.answered again.transcript ∧
      held.result = again.result ∧ related held.state again.state := by
  induction steps generalizing handles state other with
  | nil => exact fun _ => ⟨rfl, rfl, start⟩
  | cons step rest inductionHypothesis =>
      intro held again asks
      cases outcome : (first.answer state (step.call handles)).outcome with
      | error cause =>
          obtain ⟨answered, result, left⟩ :=
            hold_performAll_cons_of_error project outcome rest
          obtain ⟨sameOutcome, after⟩ := alike state other (step.call handles) start
            (asks ⟨_, _⟩ (answered ▸ List.mem_cons_self ..))
          obtain ⟨answered', result', left'⟩ :=
            hold_performAll_cons_of_error project (sameOutcome.symm.trans outcome) rest
          exact ⟨answered.trans answered'.symm, result.trans result'.symm, left ▸ left' ▸ after⟩
      | ok granted =>
          obtain ⟨answered, result, left⟩ :=
            hold_performAll_cons_of_ok project outcome rest
          obtain ⟨sameOutcome, after⟩ := alike state other (step.call handles) start
            (asks ⟨_, _⟩ (answered ▸ List.mem_cons_self ..))
          obtain ⟨answered', result', left'⟩ :=
            hold_performAll_cons_of_ok project (sameOutcome.symm.trans outcome) rest
          obtain ⟨same, ends, reached⟩ := inductionHypothesis (step.next handles granted) after
            fun later member => asks later (answered ▸ List.mem_cons_of_mem _ member)
          refine ⟨?_, ?_, ?_⟩
          · rw [answered, answered', same]
          · rw [result, result', ends]
          · rw [left, left']
            exact reached

/-- So do passes, but for the outcome of their last call where that closes a session. -/
theorem ProjectSpec.provision_of_alike {spec : ProjectSpec} {start : σ} {other : τ}
    (alike : first.Alike second asked related)
    (sameOpening : (first.answer start (.connect spec.id)).outcome =
      (second.answer other (.connect spec.id)).outcome)
    (opens : related (first.answer start (.connect spec.id)).state
      (second.answer other (.connect spec.id)).state)
    (asks : ∀ answered ∈ Entry.answered (spec.provision.run first start).transcript,
      answered.call.resource?.isSome → asked answered.call) :
    let held := spec.provision.run first start
    let again := spec.provision.run second other
    held.result = again.result ∧
      (Entry.answered held.transcript = Entry.answered again.transcript ∨
        ∃ made state state', related state state' ∧
          Entry.answered held.transcript =
            sessionLog spec.id made (first.answer state .close).outcome ∧
          Entry.answered again.transcript =
            sessionLog spec.id made (second.answer state' .close).outcome) := by
  intro held again
  cases opening : (first.answer start (.connect spec.id)).outcome with
  | error cause =>
      obtain ⟨answered, result, -⟩ := answered_provision_of_refused opening
      obtain ⟨answered', result', -⟩ :=
        answered_provision_of_refused (sameOpening.symm.trans opening)
      exact ⟨result.trans result'.symm, .inl (answered.trans answered'.symm)⟩
  | ok _ =>
      obtain ⟨answered, result, -⟩ := hold_steps_of_opened opening
      obtain ⟨answered', result', -⟩ :=
        hold_steps_of_opened (sameOpening.symm.trans opening)
      have creating := (course_performAll first spec.id (.initial spec.id) spec.script.steps
        (first.answer start (.connect spec.id)).state).creating
      rw [answered] at asks
      obtain ⟨same, ends, reached⟩ :=
        hold_performAll_of_alike alike spec.id (.initial spec.id) spec.script.steps opens
          fun answered member => asks answered (by simp [sessionLog, member]) (creating _ member)
      constructor
      · rw [result, result', ends]
      · rw [same] at answered
        exact .inr ⟨_, _, _, reached, answered, answered'⟩

end PubSubProvisioning
