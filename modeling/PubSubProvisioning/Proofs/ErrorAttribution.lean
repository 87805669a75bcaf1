import PubSubProvisioning.Proofs.Rehearsal
import PubSubProvisioning.Proofs.ScriptOrder

/-!
# Errors name the call that failed

A pass wraps the error of a call with what the call was about.  These data come from different
places: from the project, from the handle of a topic, from the plan of a subscription, or from the
names that are derived for a dead letter pair.  Where the service names what it grants as it was
asked to, they all agree with the call itself: an error says which call failed, what it was for, and
why.

`ProjectSpec.Blames` reads the error off the log of calls.  Whether the session could be closed does
not enter into it.
-/

namespace PubSubProvisioning

variable {σ : Type}

/-! ## Logs of services that name resources as they were asked to -/

/-- A topic that has been granted is one of `project` and has the ID that it was asked for. -/
def AnsweredCall.Echoes (project : String) : AnsweredCall → Prop
  | ⟨.createTopic id, .ok topic⟩ => topic = ⟨project, id⟩
  | _ => True

section Logs

variable {backend : Backend σ} {start : σ} {project : String}

theorem Backend.Echoes.answered (echoes : backend.Echoes start project) {state : σ}
    (session : backend.InSession start project state) (call : Call) :
    (AnsweredCall.mk call (backend.answer state call).outcome).Echoes project := by
  cases call with
  | connect _ | createSubscription _ _ | close => trivial
  | createTopic id =>
      cases outcome : (backend.answer state (.createTopic id)).outcome with
      | error cause => trivial
      | ok topic => exact echoes state session id topic outcome

/-- The state is one of a session, and all topics granted in it are as they were asked for. -/
def Backend.HasEchoed (backend : Backend σ) (start : σ) (project : String)
    (log : List AnsweredCall) (state : σ) : Prop :=
  backend.InSession start project state ∧ ∀ answered ∈ log, answered.Echoes project

theorem Backend.Echoes.keeps (echoes : backend.Echoes start project) (log : List AnsweredCall)
    (state : σ) (call : Call) (creating : call.resource?.isSome)
    (before : backend.HasEchoed start project log state) :
    backend.HasEchoed start project (log ++ [⟨call, (backend.answer state call).outcome⟩])
      (backend.answer state call).state := by
  obtain ⟨session, echoing⟩ := before
  constructor
  · exact session.created creating
  · simp only [List.mem_append, List.mem_singleton]
    rintro answered (member | rfl)
    · exact echoing answered member
    · exact echoes.answered session call

/-- So are all topics that are granted in a pass. -/
theorem Backend.Echoes.provision {spec : ProjectSpec} (echoes : backend.Echoes start spec.id) :
    ∀ answered ∈ Entry.answered (spec.provision.run backend start).transcript,
      answered.Echoes spec.id := by
  cases opening : (backend.answer start (.connect spec.id)).outcome with
  | error cause =>
      obtain ⟨log, -⟩ := ProjectSpec.answered_provision_of_refused opening
      rw [log]
      simp [AnsweredCall.Echoes]
  | ok _ =>
      obtain ⟨made, state, ⟨-, echoing⟩, log, -⟩ := ProjectSpec.session_keeps _ echoes.keeps opening
        ⟨.opened opening, by simp⟩
      rw [log, sessionLog]
      simp only [List.mem_cons, List.mem_append, List.not_mem_nil, or_false]
      rintro answered (rfl | member | rfl)
      · trivial
      · exact echoing answered member
      · trivial

end Logs

/-- With such a service the topic at hand is always one of the project. -/
theorem Course.project_eq {project : String} {handles reached : Handles} {steps : List Step}
    {made : List AnsweredCall} (course : Course project handles steps made (.ok reached))
    (echoing : ∀ answered ∈ made, answered.Echoes project)
    (initial : handles.topic.project = project) : reached.topic.project = project := by
  induction steps generalizing handles made with
  | nil =>
      cases course
      exact initial
  | cons step steps inductionHypothesis =>
      cases course with
      | granted granted later =>
          apply inductionHypothesis later fun other member => echoing other (by simp [member])
          cases step with
          | topic id =>
              have first : granted = ⟨project, id⟩ := echoing _ (List.mem_cons_self ..)
              exact congrArg TopicHandle.project first
          | deadLetterTopic | deadLetterSubscription | subscription => exact initial

/-! ## Whom an error blames -/

/-- The error for a call that failed, given the step that it was made for and the enclosing
topic. -/
inductive Step.Attributes (project : String) (enclosing : Option TopicHandle) :
    Step → Call → BackendError → ProvisionError → Prop where
  | topic (id : String) (cause : BackendError) :
      Attributes project enclosing (.topic id) (.createTopic id) cause (.topicFailed project id cause)
  | deadLetterTopic (subscription topic id : String) (endpoint : PushEndpoint) (cause : BackendError)
      (encloses : enclosing = some ⟨project, topic⟩) :
      Attributes project enclosing (.deadLetterTopic subscription endpoint) (.createTopic id) cause
        (.deadLetterTopicFailed project topic id cause)
  | deadLetterSubscription (subscription topic id url : String) (endpoint : PushEndpoint)
      (cause : BackendError) :
      Attributes project enclosing (.deadLetterSubscription subscription endpoint)
        (.createSubscription id ⟨⟨project, topic⟩, some url, none⟩) cause
        (.deadLetterSubscriptionFailed project topic id url cause)
  | subscription (plan : SubscriptionPlan) (topic id : String) (url : Option String)
      (deadLetters : Option DeadLetterPolicy) (cause : BackendError)
      (encloses : enclosing = some ⟨project, topic⟩) :
      Attributes project enclosing (.subscription plan)
        (.createSubscription id ⟨⟨project, topic⟩, url, deadLetters⟩) cause
        (.subscriptionFailed project topic id url cause)

/-- There is one error for such a call. -/
theorem Step.Attributes.unique {project : String} {enclosing : Option TopicHandle} {step : Step}
    {call : Call} {cause : BackendError} {error other : ProvisionError}
    (attributes : step.Attributes project enclosing call cause error)
    (again : step.Attributes project enclosing call cause other) : error = other := by
  cases attributes with
  | topic | deadLetterSubscription | subscription =>
      cases again
      rfl
  | deadLetterTopic _ topic _ _ _ encloses =>
      cases again with
      | deadLetterTopic _ topic' _ _ _ encloses' =>
          rw [encloses] at encloses'
          cases encloses'
          rfl

/-- A call that has been granted. -/
def AnsweredCall.Granted (answered : AnsweredCall) : Prop :=
  ∃ grant, answered.outcome = .ok grant

/-- Which error the log of a pass over a project accounts for.  The call that failed is the last one
of its session, or the one that was to open it; where none failed, the first token that cannot be
read is to blame. -/
inductive ProjectSpec.Blames (spec : ProjectSpec) : List AnsweredCall → ProvisionError → Prop where
  | connection (cause : BackendError) :
      Blames spec [⟨.connect spec.id, .error cause⟩] (.connectFailed spec.id cause)
  | call (made : List AnsweredCall) (step : Step) (call : Call) (cause : BackendError)
      (error : ProvisionError) (closing : Call.Outcome .close)
      (granted : ∀ answered ∈ made, answered.Granted)
      (role : spec.script.steps[made.length]? = some step)
      (attributes : step.Attributes spec.id (spec.enclosingTopic? made) call cause error) :
      Blames spec (sessionLog spec.id (made ++ [⟨call, .error cause⟩]) closing) error
  | malformed (made : List AnsweredCall) (closing : Call.Outcome .close)
      (before : List String) (token : String) (after : List String) (reason : Malformed)
      (granted : ∀ answered ∈ made, answered.Granted)
      (tokens : spec.topics.flatMap (·.tokens) = before ++ token :: after)
      (read : ∀ earlier ∈ before, ∃ plan, SubscriptionPlan.ofToken earlier = .ok plan)
      (unread : SubscriptionPlan.ofToken token = .error reason) :
      Blames spec (sessionLog spec.id made closing) (.malformed reason)

/-! ## The token that cuts a script short -/

namespace Script

/-- Why a token cannot be read, if so. -/
def flaw? (token : String) : Option Malformed :=
  match SubscriptionPlan.ofToken token with
  | .ok _ => none
  | .error reason => some reason

theorem flaw?_eq_none_iff {token : String} :
    flaw? token = none ↔ ∃ plan, SubscriptionPlan.ofToken token = .ok plan := by
  rw [flaw?]
  cases SubscriptionPlan.ofToken token <;> simp

theorem flaw?_eq_some_iff {token : String} {reason : Malformed} :
    flaw? token = some reason ↔ SubscriptionPlan.ofToken token = .error reason := by
  rw [flaw?]
  cases SubscriptionPlan.ofToken token <;> simp

@[simp]
theorem flaw_andThen (first second : Script) :
    (first.andThen second).flaw = first.flaw.or second.flaw := by
  obtain ⟨steps, flaw⟩ := first
  cases flaw <;> rfl

@[simp]
theorem flaw_ofToken (token : String) : (ofToken token).flaw = flaw? token := by
  rw [ofToken, flaw?]
  cases SubscriptionPlan.ofToken token <;> rfl

theorem flaw_ofTokens (tokens : List String) : (ofTokens tokens).flaw = tokens.findSome? flaw? := by
  induction tokens with
  | nil => rfl
  | cons token rest inductionHypothesis =>
      rw [ofTokens, flaw_andThen, flaw_ofToken, inductionHypothesis, List.findSome?_cons]
      cases flaw? token <;> rfl

theorem flaw_ofTopics (specs : List TopicSpec) :
    (ofTopics specs).flaw = (specs.flatMap (·.tokens)).findSome? flaw? := by
  induction specs with
  | nil => rfl
  | cons spec rest inductionHypothesis =>
      rw [ofTopics, flaw_andThen, flaw_andThen, flaw_ofTokens, inductionHypothesis,
        List.flatMap_cons, List.findSome?_append]
      rfl

end Script

/-- A script is cut short by the first token that cannot be read. -/
theorem ProjectSpec.script_flaw_eq_some_iff {spec : ProjectSpec} {reason : Malformed} :
    spec.script.flaw = some reason ↔
      ∃ before token after, spec.topics.flatMap (·.tokens) = before ++ token :: after ∧
        (∀ earlier ∈ before, ∃ plan, SubscriptionPlan.ofToken earlier = .ok plan) ∧
        SubscriptionPlan.ofToken token = .error reason := by
  rw [script, Script.flaw_ofTopics, List.findSome?_eq_some_iff]
  simp only [Script.flaw?_eq_none_iff, Script.flaw?_eq_some_iff]
  constructor
  · rintro ⟨before, token, after, shape, unread, read⟩
    exact ⟨before, token, after, shape, read, unread⟩
  · rintro ⟨before, token, after, shape, read, unread⟩
    exact ⟨before, token, after, shape, unread, read⟩

/-! ## Calls in a course -/

section Courses

variable {project : String} {handles reached : Handles} {steps : List Step}
  {made : List AnsweredCall} {call : Call} {cause : BackendError}
  {result : Except ProvisionError Handles}

theorem Course.all_granted (course : Course project handles steps made (.ok reached)) :
    ∀ answered ∈ made, answered.Granted := by
  induction steps generalizing handles made with
  | nil =>
      cases course
      simp
  | cons step steps inductionHypothesis =>
      cases course with
      | granted granted later =>
          intro answered member
          rcases List.mem_cons.mp member with rfl | member
          · exact ⟨granted, rfl⟩
          · exact inductionHypothesis later answered member

/-- A course ends with the first call that fails. -/
theorem Course.of_failed
    (course : Course project handles steps (made ++ [⟨call, .error cause⟩]) result) :
    ∃ front step back reached, steps = front ++ step :: back ∧
      Course project handles front made (.ok reached) ∧ call = step.call reached ∧
      result = .error (step.error project reached cause) := by
  obtain ⟨front, step, back, reached, rfl, leading, following⟩ := course.split_made
  refine ⟨front, step, back, reached, rfl, leading, ?_⟩
  cases following with
  | refused => exact ⟨rfl, rfl⟩

/-- Where no call fails, a course does not end with an error. -/
theorem Course.of_granted (course : Course project handles steps made result)
    (granted : ∀ answered ∈ made, answered.Granted) : ∃ reached, result = .ok reached := by
  cases result with
  | ok reached => exact ⟨reached, rfl⟩
  | error error =>
      obtain ⟨_, _, _, _, _, _, _, _, rfl, _⟩ := course.exists_refused
      obtain ⟨_, contradictory⟩ := granted _ (List.mem_append_right _ (List.mem_singleton_self _))
      contradiction

end Courses

/-- Whether messages are pushed can be seen in the configuration of a subscription. -/
theorem SubscriptionPlan.configOn_eq (handles : Handles) (plan : SubscriptionPlan) :
    plan.configOn handles = ⟨handles.topic, plan.delivery.endpoint?.map PushEndpoint.url,
      (plan.configOn handles).deadLetters⟩ := by
  obtain ⟨id, delivery⟩ := plan
  cases delivery <;> rfl

namespace ProjectSpec

variable {spec : ProjectSpec} {reached : Handles} {front back : List Step} {step : Step}
  {made log : List AnsweredCall} {error : ProvisionError} {result : Except ProvisionError Summary}

/-- The error of a step whose call fails is the one for that call. -/
theorem attributes_of_course (shape : spec.script.steps = front ++ step :: back)
    (course : Course spec.id (.initial spec.id) front made (.ok reached))
    (echoing : ∀ answered ∈ made, answered.Echoes spec.id) (cause : BackendError) :
    step.Attributes spec.id (spec.enclosingTopic? made) (step.call reached) cause
      (step.error spec.id reached cause) := by
  have ofProject := course.project_eq echoing rfl
  have topicAtHand : reached.topic = ⟨spec.id, reached.topic.id⟩ := by rw [← ofProject]
  cases step with
  | topic id => exact .topic id cause
  | deadLetterTopic subscription endpoint =>
      have encloses := enclosingTopic?_of_course shape (by simp) course
      rw [topicAtHand] at encloses
      rw [Step.error, ofProject]
      exact .deadLetterTopic subscription _ _ endpoint cause encloses
  | deadLetterSubscription subscription endpoint =>
      -- The dead letter topic at hand is the one that has been granted right before.
      obtain ⟨earlier, rfl⟩ := (spec.inGroups_of_shape shape).before_deadLetterSubscription
      obtain ⟨first, second, between, rfl, _, last⟩ := course.split_steps
      cases last with
      | granted granted ends =>
          cases ends
          have deadLetters : granted = ⟨spec.id, between.topic.id ++ deadLetterEnding⟩ :=
            echoing _ (List.mem_append_right _ (List.mem_singleton_self _))
          subst deadLetters
          rw [Step.error, ofProject]
          exact .deadLetterSubscription subscription _ _ _ endpoint cause
  | subscription plan =>
      have encloses := enclosingTopic?_of_course shape (by simp) course
      rw [topicAtHand] at encloses
      rw [Step.error, ofProject, Step.call, plan.configOn_eq, topicAtHand]
      exact .subscription plan _ _ _ _ cause encloses

theorem Unfolds.blames (unfolds : spec.Unfolds log result)
    (echoing : ∀ answered ∈ log, answered.Echoes spec.id) (failed : result = .error error) :
    spec.Blames log error := by
  cases unfolds with
  | refused cause =>
      cases failed
      exact .connection cause
  | opened made ends closing course =>
      cases ends with
      | error other =>
          cases failed
          obtain ⟨front, step, back, reached, before, cause, shape, leading, rfl, rfl⟩ :=
            course.exists_refused
          apply Blames.call before step
          · exact leading.all_granted
          · rw [shape]
            exact leading.getElem?_length step back
          · apply attributes_of_course shape leading
            intro answered member
            exact echoing answered (by simp [sessionLog, member])
      | ok reached =>
          cases flaw : spec.script.flaw with
          | none => simp [Script.conclude, flaw] at failed
          | some reason =>
              rw [Script.conclude, flaw] at failed
              cases failed
              obtain ⟨before, token, after, tokens, read, unread⟩ := script_flaw_eq_some_iff.mp flaw
              exact .malformed made closing before token after reason course.all_granted tokens read
                unread

theorem Unfolds.of_refused {cause : BackendError}
    (unfolds : spec.Unfolds [⟨.connect spec.id, .error cause⟩] result) :
    result = .error (.connectFailed spec.id cause) := by
  generalize same : [AnsweredCall.mk (.connect spec.id) (.error cause)] = log at unfolds
  cases unfolds with
  | refused other =>
      cases same
      rfl
  | opened made ends closing course => nomatch same

theorem Unfolds.of_opened {closing : Call.Outcome .close}
    (unfolds : spec.Unfolds (sessionLog spec.id made closing) result) :
    ∃ ends, Course spec.id (.initial spec.id) spec.script.steps made ends ∧
      result = spec.script.conclude { project := spec.id } ends := by
  generalize same : sessionLog spec.id made closing = log at unfolds
  cases unfolds with
  | refused cause => nomatch same
  | opened others ends closing' course =>
      obtain ⟨rfl, -⟩ := List.append_inj' (List.cons.inj same).2 rfl
      exact ⟨ends, course, rfl⟩

theorem Unfolds.failed (unfolds : spec.Unfolds log result)
    (echoing : ∀ answered ∈ log, answered.Echoes spec.id) (blames : spec.Blames log error) :
    result = .error error := by
  cases blames with
  | connection cause => exact unfolds.of_refused
  | call made step call cause error closing granted role attributes =>
      obtain ⟨ends, course, rfl⟩ := unfolds.of_opened
      obtain ⟨front, other, back, reached, shape, leading, rfl, rfl⟩ := course.of_failed
      obtain rfl : other = step := by
        rw [shape, leading.getElem?_length] at role
        exact Option.some.inj role
      have same := attributes_of_course shape leading
        (fun answered member => echoing answered (by simp [sessionLog, member])) cause
      rw [attributes.unique same]
      rfl
  | malformed made closing before token after reason granted tokens read unread =>
      obtain ⟨ends, course, rfl⟩ := unfolds.of_opened
      obtain ⟨reached, rfl⟩ := course.of_granted granted
      have flaw := script_flaw_eq_some_iff.mpr ⟨before, token, after, tokens, read, unread⟩
      rw [Script.conclude, flaw]

/-- Where the service names what it grants as it was asked to, a pass ends with the error that its
log accounts for, and with an error only where its log does: it names the call that failed, with the
names and the URL of that call and of the enclosing topic, and has its cause.  Where no call failed,
the error is that of the first token that cannot be read. -/
theorem provision_error_iff_blames (backend : Backend σ) (start : σ) (spec : ProjectSpec)
    (echoes : backend.Echoes start spec.id) (error : ProvisionError) :
    let held := spec.provision.run backend start
    held.result = .error error ↔ spec.Blames (Entry.answered held.transcript) error := by
  have unfolds := spec.unfolds backend start
  constructor
  · exact unfolds.blames echoes.provision
  · exact unfolds.failed echoes.provision

/-- A dead letter subscription that is refused is to blame, also if its session cannot be closed
after that. -/
theorem provision_blames_dead_letter_subscription :
    let start : Rehearsal :=
      { rules := [⟨.createSubscription, some "s-dlq", 0, none, .other "no", 0⟩,
          ⟨.close, none, 0, none, .other "busy", 0⟩] }
    let spec : ProjectSpec := ⟨"p", [⟨"t", ["s+h|80+dlq", "late+"]⟩]⟩
    let log := Entry.answered (spec.provision.run Rehearsal.backend start).transcript
    Rehearsal.backend.Echoes start spec.id ∧
      log = sessionLog "p"
        [⟨.createTopic "t", .ok ⟨"p", "t"⟩⟩, ⟨.createTopic "t-dlq", .ok ⟨"p", "t-dlq"⟩⟩,
          ⟨.createSubscription "s-dlq" (.push ⟨"p", "t-dlq"⟩ "http://h:80/dead"),
            .error (.other "no")⟩]
        (.error (.other "busy")) ∧
      spec.Blames log
        (.deadLetterSubscriptionFailed "p" "t-dlq" "s-dlq" "http://h:80/dead" (.other "no")) := by
  intro start spec log
  have echoes : Rehearsal.backend.Echoes start spec.id := Rehearsal.echoes rfl rfl
  refine ⟨echoes, by decide +kernel, ?_⟩
  apply (provision_error_iff_blames Rehearsal.backend start spec echoes _).mp
  decide +kernel

end ProjectSpec

end PubSubProvisioning
