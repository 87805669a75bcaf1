import PubSubProvisioning.Proofs.ScriptOrder
import PubSubProvisioning.Rehearsal

/-!
# Dead letter policies refer to what is there

A subscription is created with a dead letter policy only right after the topic that the policy
names, and the subscription that reads from it, have been granted; and where both have been granted,
that subscription is created next.

The service may grant topics under other names than it was asked for.  The names of a pair come from
the handle of the enclosing topic, the policy from the handle of the dead letter topic, and the
subscription itself is one of the enclosing topic.
-/

namespace PubSubProvisioning

variable {σ : Type}

/-! ## The calls for a pair -/

/-- Only the subscription of a token with a dead letter pair has a policy, and this names the dead
letter topic at hand. -/
theorem Step.eq_of_call_with_policy {handles : Handles} {step : Step} {subscription : String}
    {config : SubscriptionConfig} {policy : DeadLetterPolicy}
    (calls : step.call handles = .createSubscription subscription config)
    (has : config.deadLetters = some policy) :
    ∃ endpoint, step = .subscription ⟨subscription, .pushWithDeadLetter endpoint⟩ ∧
      config = (SubscriptionConfig.push handles.topic endpoint.url).withDeadLetters
        handles.deadLetters := by
  cases step with
  | topic id => nomatch calls
  | deadLetterTopic id endpoint => nomatch calls
  | deadLetterSubscription id endpoint =>
      cases calls
      nomatch has
  | subscription plan =>
      obtain ⟨id, delivery⟩ := plan
      cases delivery with
      | pull | push _ =>
          cases calls
          nomatch has
      | pushWithDeadLetter endpoint =>
          cases calls
          exact ⟨endpoint, rfl, rfl⟩

section Courses

variable {project subscription : String} {endpoint : PushEndpoint} {handles reached : Handles}
  {step : Step} {back : List Step} {made after : List AnsweredCall} {answered : AnsweredCall}
  {result : Except ProvisionError Handles}

theorem Course.call_eq (course : Course project handles (step :: back) (answered :: after) result) :
    answered.call = step.call handles := by
  cases course with
  | refused | granted => rfl

/-- A step that is left is either the one that the course ends with or has been granted; a call has
been made for it in any case. -/
theorem Course.exists_call (course : Course project handles (step :: back) made result) :
    ∃ outcome rest, made = ⟨step.call handles, outcome⟩ :: rest := by
  cases course with
  | refused _ _ _ cause => exact ⟨_, _, rfl⟩
  | granted granted _ => exact ⟨_, _, rfl⟩

/-- Where a pair is granted, its topic is at hand, and has been asked for by a name that comes from
the enclosing topic. -/
theorem Course.pair_granted
    (course : Course project handles
      [.deadLetterTopic subscription endpoint, .deadLetterSubscription subscription endpoint] made
      (.ok reached)) :
    ∃ deadLetters granted,
      made = [⟨.createTopic (handles.topic.id ++ "-dlq"), .ok deadLetters⟩,
        ⟨.createSubscription (subscription ++ "-dlq") (.push deadLetters (endpoint.url ++ "/dead")),
          .ok granted⟩] ∧
      reached = { handles with deadLetters } := by
  cases course with
  | granted deadLetters later =>
      cases later with
      | granted granted ends =>
          cases ends
          exact ⟨deadLetters, granted, rfl, rfl⟩

/-- Where both calls for a pair are granted, the subscription is created next. -/
theorem Course.after_pair {topicId id : String} {config : SubscriptionConfig}
    {deadLetters : TopicHandle} {granted : SubscriptionHandle}
    (course : Course project handles
      (.deadLetterTopic subscription endpoint :: .deadLetterSubscription subscription endpoint ::
        .subscription ⟨subscription, .pushWithDeadLetter endpoint⟩ :: back)
      (⟨.createTopic topicId, .ok deadLetters⟩ :: ⟨.createSubscription id config, .ok granted⟩ :: after)
      result) :
    ∃ outcome rest, after =
      ⟨.createSubscription subscription
        ((SubscriptionConfig.push handles.topic endpoint.url).withDeadLetters deadLetters),
        outcome⟩ :: rest := by
  cases course with
  | granted _ later =>
      cases later with
      | granted _ last => exact last.exists_call

end Courses

/-! ## Whole passes -/

namespace ProjectSpec

variable {spec : ProjectSpec} {handles : Handles} {before after : List AnsweredCall}
  {result : Except ProvisionError Handles}

/-- In a session, a subscription with a policy comes right after its dead letter pair. -/
theorem pair_before_of_course {subscription : String} {config : SubscriptionConfig}
    {outcome : Except BackendError SubscriptionHandle} {policy : DeadLetterPolicy}
    (course : Course spec.id handles spec.script.steps
      (before ++ ⟨.createSubscription subscription config, outcome⟩ :: after) result)
    (has : config.deadLetters = some policy) :
    ∃ front url deadLetters granted,
      before = front ++
        [⟨.createTopic (config.topic.id ++ "-dlq"), .ok deadLetters⟩,
          ⟨.createSubscription (subscription ++ "-dlq") (.push deadLetters (url ++ "/dead")),
            .ok granted⟩] ∧
      spec.enclosingTopic? front = some config.topic ∧ config.pushUrl = some url ∧
      policy = ⟨deadLetters.name, 5⟩ := by
  obtain ⟨steps, step, back, reached, shape, leading, following⟩ := course.split_made
  obtain ⟨endpoint, rfl, rfl⟩ := Step.eq_of_call_with_policy following.call_eq.symm has
  obtain ⟨earlier, rfl⟩ := (spec.inGroups_of_shape shape).before_subscription
  obtain ⟨front, pair, between, rfl, first, second⟩ := leading.split_steps
  obtain ⟨deadLetters, granted, rfl, rfl⟩ := second.pair_granted
  rw [List.append_assoc] at shape
  have enclosing := enclosingTopic?_of_course shape (by simp) first
  exact ⟨front, endpoint.url, deadLetters, granted, rfl, enclosing, rfl, (Option.some.inj has).symm⟩

/-- In a session, the subscription of a token comes right after its dead letter pair where that has
been granted. -/
theorem subscription_after_of_course {subscription topicId id : String} {endpoint : PushEndpoint}
    {deadLetters : TopicHandle} {config : SubscriptionConfig} {granted : SubscriptionHandle}
    (course : Course spec.id handles spec.script.steps
      (before ++ ⟨.createTopic topicId, .ok deadLetters⟩ ::
        ⟨.createSubscription id config, .ok granted⟩ :: after) result)
    (role : spec.script.steps[before.length]? = some (.deadLetterTopic subscription endpoint)) :
    ∃ topic outcome rest, spec.enclosingTopic? before = some topic ∧
      after = ⟨.createSubscription subscription
        ((SubscriptionConfig.push topic endpoint.url).withDeadLetters deadLetters),
        outcome⟩ :: rest := by
  obtain ⟨steps, step, back, reached, shape, leading, following⟩ := course.split_made
  rw [shape, leading.getElem?_length] at role
  obtain rfl := Option.some.inj role
  obtain ⟨later, rfl⟩ := (spec.inGroups_of_shape shape).after_deadLetterTopic
  obtain ⟨outcome, rest, rfl⟩ := following.after_pair
  exact ⟨reached.topic, outcome, rest, enclosingTopic?_of_course shape (by simp) leading, rfl⟩

/-- Dead letter policies are safe with any service, whatever names it grants.  A subscription with a
policy is created right after two calls that have been granted: one for a topic that is named after
the enclosing topic, and one for a subscription that takes the messages of the topic granted; the
policy names this topic, and the subscription is one of the enclosing topic.  Conversely, where both
calls for the pair of a token are granted, the next call is the one for its subscription, with that
policy. -/
theorem provision_deadLetters_safe (backend : Backend σ) (start : σ) (spec : ProjectSpec) :
    let log := Entry.answered (spec.provision.run backend start).transcript
    (∀ before after subscription config outcome policy,
      log = before ++ ⟨.createSubscription subscription config, outcome⟩ :: after →
      config.deadLetters = some policy →
      ∃ front url deadLetters granted,
        before = ⟨.connect spec.id, .ok ()⟩ :: (front ++
          [⟨.createTopic (config.topic.id ++ "-dlq"), .ok deadLetters⟩,
            ⟨.createSubscription (subscription ++ "-dlq") (.push deadLetters (url ++ "/dead")),
              .ok granted⟩]) ∧
        spec.enclosingTopic? front = some config.topic ∧ config.pushUrl = some url ∧
        policy = ⟨deadLetters.name, 5⟩) ∧
    (∀ front after subscription endpoint topicId deadLetters id config granted,
      log = ⟨.connect spec.id, .ok ()⟩ :: (front ++ ⟨.createTopic topicId, .ok deadLetters⟩ ::
        ⟨.createSubscription id config, .ok granted⟩ :: after) →
      spec.script.steps[front.length]? = some (.deadLetterTopic subscription endpoint) →
      ∃ topic outcome rest, spec.enclosingTopic? front = some topic ∧
        after = ⟨.createSubscription subscription
          ((SubscriptionConfig.push topic endpoint.url).withDeadLetters deadLetters),
          outcome⟩ :: rest) := by
  intro log
  have unfolds := spec.unfolds backend start
  constructor
  · intro before after subscription config outcome policy shape has
    obtain ⟨made, back, _, _, rfl, -, course⟩ := unfolds.exists_course rfl shape
    obtain ⟨front, url, deadLetters, granted, rfl, safe⟩ := pair_before_of_course course has
    exact ⟨front, url, deadLetters, granted, rfl, safe⟩
  · intro front after subscription endpoint topicId deadLetters id config granted shape role
    rw [← List.cons_append] at shape
    obtain ⟨_, back, _, closing, ⟨⟩, left, course⟩ := unfolds.exists_course rfl shape
    cases back with
    | nil => nomatch left
    | cons other back =>
        obtain ⟨rfl, rfl⟩ := List.cons.inj left
        obtain ⟨topic, outcome, rest, enclosing, rfl⟩ := subscription_after_of_course course role
        exact ⟨topic, outcome, rest ++ [⟨.close, closing⟩], enclosing, rfl⟩

/-- A service that grants every topic under another name, and in another project, sees a policy that
names the topic as it was granted. -/
theorem provision_deadLetters_renamed :
    let start : Rehearsal :=
      { projectAlias := some "q", topicAliases := [("t", "u"), ("u-dlq", "lost")] }
    let spec : ProjectSpec := ⟨"p", [⟨"t", ["s+h|80+dlq"]⟩]⟩
    let log := Entry.answered (spec.provision.run Rehearsal.backend start).transcript
    let made : List AnsweredCall :=
      [⟨.createTopic "t", .ok ⟨"q", "u"⟩⟩, ⟨.createTopic "u-dlq", .ok ⟨"q", "lost"⟩⟩,
        ⟨.createSubscription "s-dlq" (.push ⟨"q", "lost"⟩ "http://h:80/dead"), .ok ⟨"p", "s-dlq"⟩⟩]
    let config : SubscriptionConfig :=
      ⟨⟨"q", "u"⟩, some "http://h:80", some ⟨"projects/q/topics/lost", 5⟩⟩
    log = sessionLog "p" (made ++ [⟨.createSubscription "s" config, .ok ⟨"p", "s"⟩⟩]) (.ok ()) ∧
      (∃ front, front.length = 1 ∧ spec.enclosingTopic? front = some config.topic) ∧
      ∃ topic, spec.enclosingTopic? (made.take 1) = some topic ∧
        config = (SubscriptionConfig.push topic "http://h:80").withDeadLetters ⟨"q", "lost"⟩ := by
  intro start spec log made config
  have shape : log =
      sessionLog "p" (made ++ [⟨.createSubscription "s" config, .ok ⟨"p", "s"⟩⟩]) (.ok ()) := by
    decide +kernel
  obtain ⟨safe, complete⟩ := provision_deadLetters_safe Rehearsal.backend start spec
  obtain ⟨front, _, _, _, leading, encloses, -, -⟩ :=
    safe (⟨.connect "p", .ok ()⟩ :: made) _ _ _ _ _ shape rfl
  obtain ⟨topic, _, _, enclosing, follows⟩ :=
    complete (made.take 1) _ "s" ⟨"http://h:80"⟩ _ _ _ _ _ shape rfl
  refine ⟨shape, ⟨front, ?_, encloses⟩, topic, enclosing, ?_⟩
  · have lengths := congrArg List.length (List.cons.inj leading).2
    simpa [made] using lengths.symm
  · exact (Call.createSubscription.inj (congrArg AnsweredCall.call (List.cons.inj follows).1)).2

end ProjectSpec

end PubSubProvisioning
