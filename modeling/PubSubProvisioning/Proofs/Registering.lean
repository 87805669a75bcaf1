import Mathlib.Data.List.Nodup
import PubSubProvisioning.Proofs.Names
import PubSubProvisioning.Proofs.Pass

/-!
# Services that remember what they create

A service that remembers resources grants each name once.  Of the names that a part of a pass
creates in order it grants those before the first one that is taken, refuses that one, and hears of
no other.

`Creates.bind` puts parts in a row, and each function of a pass has one lemma on the names that it
creates.  They ask less of the service than following a plan does: its topics have to be granted
under the IDs that they were asked for, but may be those of any project, since no name depends on
it.
-/

namespace PubSubProvisioning

variable {σ α β : Type}

/-- A service that starts a session for `project` with nothing, refuses what it holds and grants all
else, with topics under the IDs that they were asked for; `holds` tells what it holds in each
state. -/
structure Backend.Remembers (backend : Backend σ) (start : σ) (project : String)
    (holds : σ → Resource → Prop) : Prop where
  opens : (backend.answer start (.connect project)).outcome = .ok ()
  empty : ∀ name, ¬holds (backend.answer start (.connect project)).state name
  echoes : ∀ state, backend.InSession start project state → ∀ id handle,
    (backend.answer state (.createTopic id)).outcome = .ok handle → handle.id = id
  refuses : ∀ state, backend.InSession start project state → ∀ call name,
    call.resource? = some name → holds state name →
      ∃ text, (backend.answer state call).outcome = .error (.alreadyExists text)
  grants : ∀ state, backend.InSession start project state → ∀ call name,
    call.resource? = some name → ¬holds state name →
      (∃ grant, (backend.answer state call).outcome = .ok grant) ∧
        ∀ other, holds (backend.answer state call).state other ↔ other = name ∨ holds state other

/-- A service that holds what it has granted, no more and no less: neither to refuse something nor
to close the session makes a difference to that. -/
structure Backend.Registers (backend : Backend σ) (start : σ) (project : String)
    (holds : σ → Resource → Prop) : Prop extends Backend.Remembers backend start project holds where
  keeps : ∀ state, backend.InSession start project state → ∀ call name,
    call.resource? = some name → holds state name →
      ∀ other, holds (backend.answer state call).state other ↔ holds state other
  closes : ∀ state, backend.InSession start project state → ∀ name,
    holds (backend.answer state .close).state name ↔ holds state name

/-! ## Names in order -/

/-- Names of which none is taken, neither before nor by one another. -/
structure NewNames (taken : Resource → Prop) (names : List Resource) : Prop where
  distinct : names.Nodup
  untaken : ∀ name ∈ names, ¬taken name

theorem NewNames.nil (taken : Resource → Prop) : NewNames taken [] :=
  ⟨List.nodup_nil, fun _ member => absurd member List.not_mem_nil⟩

theorem NewNames.singleton {taken : Resource → Prop} {name : Resource} (untaken : ¬taken name) :
    NewNames taken [name] :=
  ⟨List.nodup_singleton name, by simpa using untaken⟩

/-- Names that are new once others are taken are new together with them. -/
theorem NewNames.append {taken takenLater : Resource → Prop} {first second : List Resource}
    (leading : NewNames taken first) (following : NewNames takenLater second)
    (later : ∀ name, takenLater name ↔ name ∈ first ∨ taken name) :
    NewNames taken (first ++ second) := by
  have apart : ∀ name ∈ second, name ∉ first ∧ ¬taken name := by
    intro name member
    simpa [later] using following.untaken name member
  constructor
  · apply List.Nodup.append leading.distinct following.distinct
    intro name here there
    exact (apart name there).1 here
  · intro name member
    rcases List.mem_append.mp member with here | there
    · exact leading.untaken name here
    · exact (apart name there).2

namespace Pass

/-- What a part of a pass comes to that is to create names in order.  All of them are new, or else
there is a first one that is not; those before it are created, and the part fails with it.  The last
state before that, with the call that is refused there, is kept in mind. -/
inductive Creation (backend : Backend σ) (start : σ) (project : String)
    (holds : σ → Resource → Prop) (state : σ) (names : List Resource)
    (yields : α → Prop) (held : Held σ (Except ProvisionError α)) : Prop where
  | whole (value : α) (succeeded : held.result = .ok value) (yielded : yields value)
      (new : NewNames (holds state) names)
      (asked : (Entry.calls held.transcript).filterMap Call.resource? = names)
      (kept : ∀ name, holds held.state name ↔ name ∈ names ∨ holds state name)
  | clash (before rest : List Resource) (name : Resource) (error : ProvisionError)
      (last : σ) (request : Call)
      (failed : held.result = .error error) (known : error.isAlreadyExists = true)
      (split : names = before ++ name :: rest) (new : NewNames (holds state) before)
      (asked : (Entry.calls held.transcript).filterMap Call.resource? = before ++ [name])
      (session : backend.InSession start project last) (creating : request.resource? = some name)
      (taken : holds last name) (kept : ∀ name, holds last name ↔ name ∈ before ∨ holds state name)
      (left : held.state = (backend.answer last request).state)

/-- Wherever in a session it is held, a part creates names in order, and the session goes on. -/
def Creates (backend : Backend σ) (start : σ) (project : String) (holds : σ → Resource → Prop)
    (names : List Resource) (yields : α → Prop) (pass : Pass α) : Prop :=
  ∀ state, backend.InSession start project state →
    Creation backend start project holds state names yields (pass.hold backend state) ∧
      backend.InSession start project (pass.hold backend state).state

variable {backend : Backend σ} {start : σ} {project : String} {holds : σ → Resource → Prop}

/-! ## Single parts -/

theorem Creates.pure (value : α) {yields : α → Prop} (yielded : yields value) :
    Creates backend start project holds [] yields (Pure.pure value) := by
  intro state session
  rw [hold_pure]
  exact ⟨.whole value rfl yielded (NewNames.nil _) rfl (by simp), session⟩

theorem Creates.report (event : Event) :
    Creates backend start project holds [] (fun _ => True) (Pass.report event) := by
  intro state session
  rw [hold_report]
  exact ⟨.whole () rfl trivial (NewNames.nil _) rfl (by simp), session⟩

/-- A call creates its resource, unless there is one of that name. -/
theorem Creates.call (remembers : backend.Remembers start project holds) {request : Call}
    {name : Resource} (creating : request.resource? = some name)
    {wrap : BackendError → ProvisionError} (keeps : ∀ cause, (wrap cause).cause? = some cause) :
    Creates backend start project holds [name]
      (fun grant => ∃ state, backend.InSession start project state ∧
        (backend.answer state request).outcome = .ok grant)
      (Pass.call request wrap) := by
  intro state session
  have asked : (Entry.calls ((backend.answer state request).events.map .noted ++
      [.called request (backend.answer state request).outcome])).filterMap Call.resource? =
        [name] := by
    rw [Entry.calls_called, List.filterMap_cons_some creating, List.filterMap_nil]
  rw [hold_call]
  constructor
  · by_cases taken : holds state name
    · obtain ⟨text, refused⟩ := remembers.refuses state session request name creating taken
      apply Creation.clash [] [] name (wrap (.alreadyExists text)) state request
      case failed => simp only [refused, mapError_error]
      case known => simp [ProvisionError.isAlreadyExists, keeps, BackendError.isAlreadyExists]
      case split => rfl
      case new => exact NewNames.nil _
      case asked => exact asked
      case session => exact session
      case creating => exact creating
      case taken => exact taken
      case kept => simp
      case left => rfl
    · obtain ⟨⟨grant, granted⟩, kept⟩ := remembers.grants state session request name creating taken
      apply Creation.whole grant
      case succeeded => simp only [granted, mapError_ok]
      case yielded => exact ⟨state, session, granted⟩
      case new => exact NewNames.singleton taken
      case asked => exact asked
      case kept => simpa using kept
  · exact session.created (by rw [creating]; rfl)

/-! ## Parts in a row -/

/-- What comes after names that have all been created goes on where they lead to. -/
theorem Creation.after {state reached : σ} {names others : List Resource} {yields : α → Prop}
    {entries : List Entry} {held : Held σ (Except ProvisionError α)}
    (later : Creation backend start project holds reached others yields held)
    (new : NewNames (holds state) names) (asked : (Entry.calls entries).filterMap Call.resource? = names)
    (kept : ∀ name, holds reached name ↔ name ∈ names ∨ holds state name) :
    Creation backend start project holds state (names ++ others) yields (held.after entries) := by
  cases later with
  | whole value succeeded yielded newLater askedLater keptLater =>
      apply Creation.whole value
      case succeeded => exact succeeded
      case yielded => exact yielded
      case new => exact new.append newLater kept
      case asked => rw [Held.after_calls, List.filterMap_append, asked, askedLater]
      case kept =>
        intro name
        rw [Held.after_state, keptLater, kept, List.mem_append]
        tauto
  | clash before rest name error last request failed known split newLater askedLater session
      creating taken keptLater left =>
      apply Creation.clash (names ++ before) rest name error last request
      case failed => exact failed
      case known => exact known
      case split => rw [split, List.append_assoc]
      case new => exact new.append newLater kept
      case asked =>
        rw [Held.after_calls, List.filterMap_append, asked, askedLater, List.append_assoc]
      case session => exact session
      case creating => exact creating
      case taken => exact taken
      case kept =>
        intro name
        rw [keptLater, kept, List.mem_append]
        tauto
      case left => exact left

/-- Parts in a row create their names in a row. -/
theorem Creates.bind {first : Pass α} {next : α → Pass β} {names others : List Resource}
    {between : α → Prop} {yields : β → Prop}
    (leading : Creates backend start project holds names between first)
    (following : ∀ value, between value →
      Creates backend start project holds others yields (next value)) :
    Creates backend start project holds (names ++ others) yields (first >>= next) := by
  intro state session
  obtain ⟨creation, goesOn⟩ := leading state session
  cases creation with
  | clash before rest name error last request failed known split new asked session creating taken
      kept left =>
      rw [hold_bind_of_error failed]
      have further : names ++ others = before ++ name :: (rest ++ others) := by
        rw [split, List.append_assoc, List.cons_append]
      exact ⟨.clash before (rest ++ others) name error last request rfl known further new asked
        session creating taken kept left, goesOn⟩
  | whole value succeeded yielded new asked kept =>
      obtain ⟨later, goesOnLater⟩ := following value yielded _ goesOn
      rw [hold_bind_of_ok succeeded]
      exact ⟨later.after new asked kept, goesOnLater⟩

/-- What is reported creates nothing. -/
theorem Creates.after_report {event : Event} {next : Unit → Pass α} {names : List Resource}
    {yields : α → Prop} (creates : Creates backend start project holds names yields (next ())) :
    Creates backend start project holds names yields (Pass.report event >>= next) :=
  (Creates.report event).bind fun () _ => creates

/-- What creates nothing after a part leaves its names as they are. -/
theorem Creates.bind_empty {first : Pass α} {next : α → Pass β} {names : List Resource}
    {between : α → Prop} {yields : β → Prop}
    (leading : Creates backend start project holds names between first)
    (following : ∀ value, between value →
      Creates backend start project holds [] yields (next value)) :
    Creates backend start project holds names yields (first >>= next) := by
  have both := leading.bind following
  rwa [List.append_nil] at both

end Pass

/-! ## The parts of a pass -/

/-- What is created for a subscription of `topic` before it. -/
def SubscriptionPlan.pairResources (topic : String) (plan : SubscriptionPlan) : List Resource :=
  if plan.hasPair then
    [.topic (topic ++ deadLetterEnding), .subscription (plan.id ++ deadLetterEnding)]
  else []

theorem SubscriptionPlan.resources_eq_append (topic : String) (plan : SubscriptionPlan) :
    plan.resources topic = plan.pairResources topic ++ [.subscription plan.id] := by
  rw [resources, pairResources]
  split <;> rfl

namespace Pass

variable {backend : Backend σ} {start : σ} {project : String} {holds : σ → Resource → Prop}

theorem creates_createDeadLetterPair (remembers : backend.Remembers start project holds)
    (topic : TopicHandle) (subscription : String) (endpoint : PushEndpoint) :
    Creates backend start project holds
      ([.topic (topic.id ++ deadLetterEnding)] ++
        [.subscription (subscription ++ deadLetterEnding)])
      (fun _ => True) (createDeadLetterPair topic subscription endpoint) := by
  apply Creates.after_report
  apply (Creates.call remembers rfl fun _ => rfl).bind
  intro deadLetters _
  apply Creates.after_report
  apply (Creates.call remembers rfl fun _ => rfl).bind_empty
  intro _ _
  exact Creates.pure _ trivial

theorem creates_configure (remembers : backend.Remembers start project holds)
    (topic : TopicHandle) (plan : SubscriptionPlan) (summary : Summary) :
    Creates backend start project holds (plan.pairResources topic.id) (fun _ => True)
      (configure topic plan summary) := by
  obtain ⟨id, delivery⟩ := plan
  cases delivery with
  | pull => exact Creates.after_report (Creates.pure _ trivial)
  | push endpoint => exact Creates.after_report (Creates.pure _ trivial)
  | pushWithDeadLetter endpoint =>
      apply Creates.after_report
      apply (creates_createDeadLetterPair remembers topic id endpoint).bind_empty
      intro deadLetters _
      exact Creates.after_report (Creates.pure _ trivial)

theorem creates_createSubscription (remembers : backend.Remembers start project holds)
    (topic : TopicHandle) (plan : SubscriptionPlan) (summary : Summary) :
    Creates backend start project holds (plan.resources topic.id) (fun _ => True)
      (createSubscription topic plan summary) := by
  rw [SubscriptionPlan.resources_eq_append]
  apply (creates_configure remembers topic plan summary).bind
  rintro ⟨config, summary⟩ _
  apply (Creates.call remembers rfl fun _ => rfl).bind_empty
  intro _ _
  exact Creates.pure _ trivial

/-- Tokens that can be read create the names of their subscriptions. -/
theorem creates_createSubscriptions (remembers : backend.Remembers start project holds)
    (topic : TopicHandle) (summary : Summary) {tokens : List String}
    (read : ∀ token ∈ tokens, ∃ plan, SubscriptionPlan.ofToken token = .ok plan) :
    Creates backend start project holds
      ((SubscriptionPlan.ofTokens tokens).flatMap (·.resources topic.id)) (fun _ => True)
      (createSubscriptions topic summary tokens) := by
  induction tokens generalizing summary with
  | nil => exact Creates.pure _ trivial
  | cons token rest inductionHypothesis =>
      obtain ⟨⟨plan, readFirst⟩, readRest⟩ := List.forall_mem_cons.mp read
      rw [createSubscriptions, readFirst, accept_ok_bind,
        SubscriptionPlan.ofTokens_cons_of_ok readFirst, List.flatMap_cons]
      apply (creates_createSubscription remembers topic plan summary).bind
      intro summary _
      exact inductionHypothesis summary readRest

theorem creates_createTopics (remembers : backend.Remembers start project holds)
    (named : String) (summary : Summary) {topics : List TopicSpec}
    (read : ∀ topic ∈ topics, ∀ token ∈ topic.tokens, ∃ plan,
      SubscriptionPlan.ofToken token = .ok plan) :
    Creates backend start project holds (topics.flatMap TopicSpec.resources) (fun _ => True)
      (createTopics named summary topics) := by
  induction topics generalizing summary with
  | nil => exact Creates.pure _ trivial
  | cons topic rest inductionHypothesis =>
      obtain ⟨readFirst, readRest⟩ := List.forall_mem_cons.mp read
      rw [List.flatMap_cons, TopicSpec.resources, ← List.singleton_append, List.append_assoc]
      apply Creates.after_report
      apply (Creates.call remembers rfl fun _ => rfl).bind
      rintro handle ⟨state, session, granted⟩
      -- The names of what follows are built from the handle, not from the topic that was asked for.
      rw [← remembers.echoes state session topic.id handle granted]
      apply (creates_createSubscriptions remembers handle _ readFirst).bind
      intro summary _
      exact inductionHypothesis summary readRest

end Pass

end PubSubProvisioning
