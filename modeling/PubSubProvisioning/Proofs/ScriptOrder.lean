import PubSubProvisioning.Proofs.Stepwise

/-!
# What comes before and after a step

The steps of a script come in groups: one step for a topic of the project, and all steps of a plan
in a row.  So the place of a step tells what surrounds it: a dead letter topic comes first of its
plan, its subscription is next to it, and the subscription that both are for comes last.

What has been granted tells which topic a step is about: the one that was granted last for a topic
of the project encloses whatever is created after it.
-/

namespace PubSubProvisioning

/-! ## The enclosing topic -/

/-- The handle that was granted for a topic of the project. -/
def AnsweredCall.grantedTopic? : Step → AnsweredCall → Option TopicHandle
  | .topic _, ⟨.createTopic _, .ok topic⟩ => some topic
  | _, _ => none

/-- The topic whose subscriptions are created after calls that have been made for the first of some
steps. -/
def enclosingTopic? (steps : List Step) (made : List AnsweredCall) : Option TopicHandle :=
  ((steps.zip made).filterMap fun pair => pair.2.grantedTopic? pair.1).getLast?

@[simp]
theorem enclosingTopic?_nil (steps : List Step) : enclosingTopic? steps [] = none := by
  rw [enclosingTopic?, List.zip_nil_right]
  rfl

/-- A topic of the project encloses what follows, up to the next one. -/
theorem enclosingTopic?_cons_topic (id request : String) (topic : TopicHandle) (steps : List Step)
    (made : List AnsweredCall) :
    enclosingTopic? (.topic id :: steps) (⟨.createTopic request, .ok topic⟩ :: made) =
      some ((enclosingTopic? steps made).getD topic) :=
  List.getLast?_cons

theorem enclosingTopic?_cons_of_none {step : Step} {answered : AnsweredCall}
    (other : answered.grantedTopic? step = none) (steps : List Step) (made : List AnsweredCall) :
    enclosingTopic? (step :: steps) (answered :: made) = enclosingTopic? steps made := by
  have unfolded := List.filterMap_cons_none (f := fun pair => pair.2.grantedTopic? pair.1)
    (a := (step, answered)) (l := steps.zip made) other
  exact congrArg List.getLast? unfolded

/-- The topic at hand is the enclosing one, or the one at hand at first. -/
theorem Course.getD_enclosingTopic? {project : String} {handles reached : Handles}
    {steps : List Step} {made : List AnsweredCall}
    (course : Course project handles steps made (.ok reached)) (rest : List Step) :
    (enclosingTopic? (steps ++ rest) made).getD handles.topic = reached.topic := by
  induction steps generalizing handles made with
  | nil =>
      cases course
      simp
  | cons step steps inductionHypothesis =>
      cases course with
      | granted granted later =>
          rw [← inductionHypothesis later, List.cons_append]
          cases step with
          | topic id =>
              exact congrArg (fun found : Option TopicHandle => found.getD handles.topic)
                (enclosingTopic?_cons_topic id id granted _ _)
          | deadLetterTopic | deadLetterSubscription | subscription =>
              rw [enclosingTopic?_cons_of_none rfl]
              rfl

/-- Where a topic of the project comes first, there is an enclosing topic after it. -/
theorem Course.enclosingTopic?_eq {project id : String} {handles reached : Handles}
    {steps : List Step} {made : List AnsweredCall}
    (course : Course project handles (.topic id :: steps) made (.ok reached)) (rest : List Step) :
    enclosingTopic? (.topic id :: (steps ++ rest)) made = some reached.topic := by
  cases course with
  | granted granted later =>
      rw [← later.getD_enclosingTopic? rest]
      exact enclosingTopic?_cons_topic id id granted _ _

/-! ## The order of steps -/

/-- Steps that a script has in a row: the one for a topic, or all those of a plan. -/
inductive Step.Group : List Step → Prop where
  | topic (id : String) : Group [.topic id]
  | plan (plan : SubscriptionPlan) : Group plan.steps

/-- Lists of steps that are made of groups. -/
inductive InGroups : List Step → Prop where
  | nil : InGroups []
  | cons {group rest : List Step} (first : Step.Group group) (others : InGroups rest) :
      InGroups (group ++ rest)

namespace InGroups

variable {steps front back : List Step} {step : Step}

theorem append (first : InGroups front) (second : InGroups back) : InGroups (front ++ back) := by
  induction first with
  | nil => exact second
  | cons group _ inductionHypothesis =>
      rw [List.append_assoc]
      exact .cons group inductionHypothesis

theorem single (group : Step.Group steps) : InGroups steps := by
  rw [← List.append_nil steps]
  exact .cons group .nil

theorem andThen {first second : Script} (ordered : InGroups first.steps)
    (others : InGroups second.steps) : InGroups (first.andThen second).steps := by
  rw [Script.andThen]
  cases first.flaw with
  | none => exact ordered.append others
  | some reason => exact ordered

theorem ofToken (token : String) : InGroups (Script.ofToken token).steps := by
  rw [Script.ofToken]
  cases SubscriptionPlan.ofToken token with
  | error reason => exact .nil
  | ok plan => exact .single (.plan plan)

theorem ofTokens (tokens : List String) : InGroups (Script.ofTokens tokens).steps := by
  induction tokens with
  | nil => exact .nil
  | cons token rest inductionHypothesis => exact (ofToken token).andThen inductionHypothesis

theorem ofTopics (specs : List TopicSpec) : InGroups (Script.ofTopics specs).steps := by
  induction specs with
  | nil => exact .nil
  | cons spec rest inductionHypothesis =>
      exact (single (.topic spec.id)).andThen ((ofTokens spec.tokens).andThen inductionHypothesis)

/-- A step is in a group of its own or among the other steps of its plan. -/
theorem exists_group (grouped : InGroups steps) (shape : steps = front ++ step :: back) :
    ∃ earlier lead trail later, front = earlier ++ lead ∧ back = trail ++ later ∧
      Step.Group (lead ++ step :: trail) := by
  induction grouped generalizing front with
  | nil => simp at shape
  | @cons group rest isGroup _ inductionHypothesis =>
      rcases List.append_eq_append_iff.mp shape with
        ⟨between, rfl, inRest⟩ | ⟨trail, rfl, inGroup⟩
      · obtain ⟨earlier, lead, trail, later, rfl, rfl, found⟩ := inductionHypothesis inRest
        exact ⟨group ++ earlier, lead, trail, later, (List.append_assoc ..).symm, rfl, found⟩
      · cases trail with
        | nil =>
            obtain ⟨earlier, lead, trail, later, empty, rfl, found⟩ :=
              @inductionHypothesis [] inGroup.symm
            obtain ⟨rfl, rfl⟩ := List.nil_eq_append_iff.mp empty
            exact ⟨front, [], trail, later, (List.append_nil _).symm, rfl, found⟩
        | cons other trail =>
            obtain ⟨rfl, rfl⟩ := List.cons.inj inGroup
            exact ⟨[], front, trail, rest, rfl, rfl, isGroup⟩

end InGroups

/-! ## The steps of a plan with a dead letter pair -/

section Pairs

variable {group front back : List Step} {step : Step} {subscription : String}
  {endpoint : PushEndpoint}

/-- Such a step tells which plan it is of. -/
theorem Step.Group.eq_steps (isGroup : Group group) (inGroup : step ∈ group)
    (ofPlan : step ∈ SubscriptionPlan.steps ⟨subscription, .pushWithDeadLetter endpoint⟩) :
    group = SubscriptionPlan.steps ⟨subscription, .pushWithDeadLetter endpoint⟩ := by
  simp only [SubscriptionPlan.steps, List.mem_cons, List.not_mem_nil, or_false] at ofPlan
  cases isGroup with
  | topic id => rcases ofPlan with rfl | rfl | rfl <;> simp at inGroup
  | plan plan =>
      obtain ⟨id, delivery⟩ := plan
      cases delivery <;> rcases ofPlan with rfl | rfl | rfl <;>
        simp_all [SubscriptionPlan.steps]

/-- One of three things in a row is the first, the second or the third. -/
theorem eq_of_append_cons_eq {α : Type} {x a b c : α} {lead trail : List α}
    (shape : lead ++ x :: trail = [a, b, c]) :
    (lead = [] ∧ x = a ∧ trail = [b, c]) ∨ (lead = [a] ∧ x = b ∧ trail = [c]) ∨
      (lead = [a, b] ∧ x = c ∧ trail = []) := by
  rcases List.append_eq_cons_iff.mp shape with ⟨rfl, here⟩ | ⟨lead, rfl, others⟩
  · obtain ⟨rfl, rfl⟩ := List.cons.inj here
    exact .inl ⟨rfl, rfl, rfl⟩
  · rcases List.cons_eq_append_iff.mp others with ⟨rfl, here⟩ | ⟨lead, rfl, last⟩
    · obtain ⟨rfl, rfl⟩ := List.cons.inj here
      exact .inr (.inl ⟨rfl, rfl, rfl⟩)
    · rcases List.singleton_eq_append_iff.mp last with ⟨rfl, here⟩ | ⟨-, impossible⟩
      · obtain ⟨rfl, rfl⟩ := List.cons.inj here
        exact .inr (.inr ⟨rfl, rfl, rfl⟩)
      · nomatch impossible

/-- The others surround it, each in its place. -/
theorem InGroups.exists_plan (grouped : InGroups (front ++ step :: back)) (subscription : String)
    (endpoint : PushEndpoint)
    (ofPlan : step ∈ SubscriptionPlan.steps ⟨subscription, .pushWithDeadLetter endpoint⟩) :
    ∃ earlier later,
      (step = .deadLetterTopic subscription endpoint ∧ front = earlier ∧
        back = .deadLetterSubscription subscription endpoint ::
          .subscription ⟨subscription, .pushWithDeadLetter endpoint⟩ :: later) ∨
      (step = .deadLetterSubscription subscription endpoint ∧
        front = earlier ++ [.deadLetterTopic subscription endpoint] ∧
        back = .subscription ⟨subscription, .pushWithDeadLetter endpoint⟩ :: later) ∨
      (step = .subscription ⟨subscription, .pushWithDeadLetter endpoint⟩ ∧
        front = earlier ++
          [.deadLetterTopic subscription endpoint, .deadLetterSubscription subscription endpoint] ∧
        back = later) := by
  obtain ⟨earlier, lead, trail, later, rfl, rfl, group⟩ := grouped.exists_group rfl
  refine ⟨earlier, later, ?_⟩
  have inPlan := group.eq_steps (by simp) ofPlan
  rcases eq_of_append_cons_eq inPlan with ⟨rfl, rfl, rfl⟩ | ⟨rfl, rfl, rfl⟩ | ⟨rfl, rfl, rfl⟩
  · exact .inl ⟨rfl, List.append_nil _, rfl⟩
  · exact .inr (.inl ⟨rfl, rfl, rfl⟩)
  · exact .inr (.inr ⟨rfl, rfl, rfl⟩)

theorem InGroups.after_deadLetterTopic
    (grouped : InGroups (front ++ .deadLetterTopic subscription endpoint :: back)) :
    ∃ later, back = .deadLetterSubscription subscription endpoint ::
      .subscription ⟨subscription, .pushWithDeadLetter endpoint⟩ :: later := by
  obtain ⟨_, later, ⟨-, -, rest⟩ | ⟨other, -⟩ | ⟨other, -⟩⟩ :=
    grouped.exists_plan subscription endpoint (by simp [SubscriptionPlan.steps])
  · exact ⟨later, rest⟩
  · contradiction
  · contradiction

theorem InGroups.before_deadLetterSubscription
    (grouped : InGroups (front ++ .deadLetterSubscription subscription endpoint :: back)) :
    ∃ earlier, front = earlier ++ [.deadLetterTopic subscription endpoint] := by
  obtain ⟨earlier, _, ⟨other, -⟩ | ⟨-, leading, -⟩ | ⟨other, -⟩⟩ :=
    grouped.exists_plan subscription endpoint (by simp [SubscriptionPlan.steps])
  · contradiction
  · exact ⟨earlier, leading⟩
  · contradiction

theorem InGroups.before_subscription
    (grouped : InGroups
      (front ++ .subscription ⟨subscription, .pushWithDeadLetter endpoint⟩ :: back)) :
    ∃ earlier, front = earlier ++
      [.deadLetterTopic subscription endpoint, .deadLetterSubscription subscription endpoint] := by
  obtain ⟨earlier, _, ⟨other, -⟩ | ⟨other, -⟩ | ⟨-, leading, -⟩⟩ :=
    grouped.exists_plan subscription endpoint (by simp [SubscriptionPlan.steps])
  · contradiction
  · contradiction
  · exact ⟨earlier, leading⟩

end Pairs

/-! ## Whole passes -/

namespace ProjectSpec

theorem inGroups_of_shape (spec : ProjectSpec) {steps : List Step}
    (shape : spec.script.steps = steps) : InGroups steps := by
  rw [← shape]
  exact .ofTopics spec.topics

/-- The first step of a script, if there is one, is for a topic of the project. -/
theorem script_steps_head (spec : ProjectSpec) {step : Step} {steps : List Step}
    (shape : spec.script.steps = step :: steps) : ∃ id, step = .topic id := by
  obtain ⟨project, topics⟩ := spec
  cases topics with
  | nil => nomatch shape
  | cons topic rest => exact ⟨topic.id, (List.cons.inj shape).1.symm⟩

/-- The topic that encloses what is created after calls of a pass. -/
def enclosingTopic? (spec : ProjectSpec) (made : List AnsweredCall) : Option TopicHandle :=
  PubSubProvisioning.enclosingTopic? spec.script.steps made

/-- Before a step for anything but a topic, the topic at hand is the enclosing one. -/
theorem enclosingTopic?_of_course {spec : ProjectSpec} {handles reached : Handles}
    {front back : List Step} {step : Step} {made : List AnsweredCall}
    (shape : spec.script.steps = front ++ step :: back) (notTopic : ∀ id, step ≠ .topic id)
    (course : Course spec.id handles front made (.ok reached)) :
    spec.enclosingTopic? made = some reached.topic := by
  cases front with
  | nil =>
      obtain ⟨id, isTopic⟩ := spec.script_steps_head shape
      exact absurd isTopic (notTopic id)
  | cons first front =>
      obtain ⟨id, rfl⟩ := spec.script_steps_head shape
      rw [enclosingTopic?, shape]
      exact course.enclosingTopic?_eq (step :: back)

end ProjectSpec

end PubSubProvisioning
