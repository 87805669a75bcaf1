import PubSubProvisioning.Proofs.BatchRun
import PubSubProvisioning.Proofs.ErrorAttribution
import PubSubProvisioning.Proofs.Names

/-!
# Summaries account for passes

The summary of a pass is kept in different places and at different moments: a topic counts once it
has been granted, a dead letter pair once it is complete, and a subscription last of all.  In the
end it comes to the same as two other ways of counting.  One goes through the calls of the pass, and
takes a dead letter pair from the policy of the subscription that the pair is for.  The other one
goes through the tokens of the project.

A single step may count a pair that the calls do not show yet, so the ways of counting are compared
for all steps of a plan at once.
-/

namespace PubSubProvisioning

variable {σ : Type}

/-! ## Counting calls -/

namespace Call

/-- Whether a call asks for a topic. -/
def asksForTopic : Call → Bool
  | .createTopic _ => true
  | .connect _ | .createSubscription _ _ | .close => false

/-- Whether a call asks for a subscription. -/
def asksForSubscription : Call → Bool
  | .createSubscription _ _ => true
  | .connect _ | .createTopic _ | .close => false

/-- Whether a call asks for a subscription with a dead letter policy. -/
def asksForPolicy : Call → Bool
  | .createSubscription _ config => config.deadLetters.isSome
  | .connect _ | .createTopic _ | .close => false

end Call

namespace Summary

/-- A summary to which calls are added. -/
def withCalls (summary : Summary) (calls : List Call) : Summary :=
  { summary with
    topics := summary.topics + calls.countP (·.asksForTopic)
    subscriptions := summary.subscriptions + calls.countP (·.asksForSubscription)
    deadLetterPairs := summary.deadLetterPairs + calls.countP (·.asksForPolicy) }

@[simp]
theorem withCalls_nil (summary : Summary) : summary.withCalls [] = summary :=
  rfl

theorem withCalls_append (summary : Summary) (first second : List Call) :
    summary.withCalls (first ++ second) = (summary.withCalls first).withCalls second := by
  simp only [withCalls, List.countP_append, Nat.add_assoc]

theorem withCalls_cons (summary : Summary) (call : Call) (rest : List Call) :
    summary.withCalls (call :: rest) = (summary.withCalls [call]).withCalls rest :=
  summary.withCalls_append [call] rest

end Summary

/-- Which names are at hand makes no difference to what a step counts for. -/
theorem Step.withCalls_call (handles others : Handles) (step : Step) (summary : Summary) :
    summary.withCalls [step.call handles] = summary.withCalls [step.call others] := by
  cases step with
  | topic | deadLetterTopic | deadLetterSubscription => rfl
  | subscription plan =>
      obtain ⟨id, delivery⟩ := plan
      cases delivery <;> rfl

/-- The calls of a course that goes to its end count for as much as those that the steps would make
with any names at hand. -/
theorem Course.withCalls_made {project : String} {handles reached : Handles} {steps : List Step}
    {made : List AnsweredCall} (course : Course project handles steps made (.ok reached))
    (others : Handles) (summary : Summary) :
    summary.withCalls (made.map (·.call)) = summary.withCalls (steps.map (·.call others)) := by
  induction steps generalizing handles made summary with
  | nil =>
      cases course
      rfl
  | cons step rest inductionHypothesis =>
      cases course with
      | granted _ later =>
          rw [List.map_cons, List.map_cons, Summary.withCalls_cons, inductionHypothesis later,
            step.withCalls_call handles others, ← Summary.withCalls_cons]

/-- A group of steps counts for as much as its calls: the subscription of a plan shows the pair that
was counted before. -/
theorem Step.Group.foldl_count {steps : List Step} (group : Step.Group steps) (handles : Handles)
    (summary : Summary) :
    steps.foldl Step.count summary = summary.withCalls (steps.map (·.call handles)) := by
  cases group with
  | topic id => rfl
  | plan plan =>
      obtain ⟨id, delivery⟩ := plan
      cases delivery <;> rfl

theorem InGroups.foldl_count {steps : List Step} (grouped : InGroups steps) (handles : Handles)
    (summary : Summary) :
    steps.foldl Step.count summary = summary.withCalls (steps.map (·.call handles)) := by
  induction grouped generalizing summary with
  | nil => rfl
  | cons group _ inductionHypothesis =>
      rw [List.foldl_append, group.foldl_count handles, inductionHypothesis, List.map_append,
        Summary.withCalls_append]

/-! ## Counting tokens -/

/-- Whether a token asks for a subscription with a dead letter pair. -/
def SubscriptionPlan.isDeadLetterToken (token : String) : Bool :=
  match ofToken token with
  | .ok plan => plan.hasPair
  | .error _ => false

namespace ProjectSpec

/-- The tokens of a project, topic by topic. -/
def tokens (spec : ProjectSpec) : List String :=
  spec.topics.flatMap (·.tokens)

/-- Those of them that ask for a dead letter pair. -/
def deadLetterTokens (spec : ProjectSpec) : List String :=
  spec.tokens.filter SubscriptionPlan.isDeadLetterToken

end ProjectSpec

/-- A summary to which topics and tokens are added.  A token with a dead letter pair counts for a
topic and a subscription more. -/
def Summary.withListed (summary : Summary) (topics : Nat) (tokens : List String) : Summary :=
  let pairs := tokens.countP SubscriptionPlan.isDeadLetterToken
  { summary with
    topics := summary.topics + topics + pairs
    subscriptions := summary.subscriptions + tokens.length + pairs
    deadLetterPairs := summary.deadLetterPairs + pairs }

theorem Summary.withListed_append (summary : Summary) (topics others : Nat)
    (tokens rest : List String) :
    (summary.withListed topics tokens).withListed others rest =
      summary.withListed (topics + others) (tokens ++ rest) := by
  simp only [withListed, List.countP_append, List.length_append, Summary.mk.injEq, true_and]
  omega

namespace Script

/-- The script of a token that can be read counts for the token. -/
theorem foldl_count_ofToken {token : String} (read : (ofToken token).flaw = none)
    (summary : Summary) :
    (ofToken token).steps.foldl Step.count summary = summary.withListed 0 [token] := by
  rw [flaw_ofToken, flaw?_eq_none_iff] at read
  obtain ⟨plan, read⟩ := read
  have known : SubscriptionPlan.isDeadLetterToken token = plan.hasPair := by
    rw [SubscriptionPlan.isDeadLetterToken, read]
  rw [ofToken, read, Summary.withListed, List.countP_singleton, known]
  obtain ⟨id, delivery⟩ := plan
  cases delivery <;> rfl

theorem foldl_count_ofTokens {tokens : List String} (read : (ofTokens tokens).flaw = none)
    (summary : Summary) :
    (ofTokens tokens).steps.foldl Step.count summary = summary.withListed 0 tokens := by
  induction tokens generalizing summary with
  | nil => rfl
  | cons token rest inductionHypothesis =>
      rw [ofTokens, flaw_andThen, Option.or_eq_none_iff] at read
      obtain ⟨readFirst, readRest⟩ := read
      rw [ofTokens, andThen, readFirst, List.foldl_append, foldl_count_ofToken readFirst,
        inductionHypothesis readRest, Summary.withListed_append]
      rfl

/-- The script of topics all of whose tokens can be read counts for the topics and the tokens. -/
theorem foldl_count_ofTopics {specs : List TopicSpec} (read : (ofTopics specs).flaw = none)
    (summary : Summary) :
    (ofTopics specs).steps.foldl Step.count summary =
      summary.withListed specs.length (specs.flatMap (·.tokens)) := by
  induction specs generalizing summary with
  | nil => rfl
  | cons spec rest inductionHypothesis =>
      rw [ofTopics, flaw_andThen, flaw_andThen, Option.or_eq_none_iff, Option.or_eq_none_iff]
        at read
      obtain ⟨-, readFirst, readRest⟩ := read
      have first : ([.topic spec.id] : List Step).foldl Step.count summary =
          summary.withListed 1 [] := rfl
      rw [ofTopics, andThen, andThen, readFirst, List.foldl_append, List.foldl_append, first,
        foldl_count_ofTokens readFirst, inductionHypothesis readRest, Summary.withListed_append,
        Summary.withListed_append, List.nil_append, List.flatMap_cons, List.length_cons,
        Nat.zero_add, Nat.add_comm 1]

end Script

/-! ## Whole passes -/

/-- A summary accounts for a pass over a project: it counts the calls that the pass has made, and
what the project lists. -/
structure Summary.Accounts (summary : Summary) (spec : ProjectSpec) (calls : List Call) : Prop where
  project : summary.project = spec.id
  topicCalls : summary.topics = calls.countP (·.asksForTopic)
  topics : summary.topics = spec.topics.length + spec.deadLetterTokens.length
  subscriptionCalls : summary.subscriptions = calls.countP (·.asksForSubscription)
  subscriptions : summary.subscriptions = spec.tokens.length + spec.deadLetterTokens.length
  policyCalls : summary.deadLetterPairs = calls.countP (·.asksForPolicy)
  deadLetterPairs : summary.deadLetterPairs = spec.deadLetterTokens.length

theorem Summary.accounts_of_counts {summary : Summary} {spec : ProjectSpec} {calls : List Call}
    (made : summary = ({ project := spec.id } : Summary).withCalls calls)
    (listed : summary =
      ({ project := spec.id } : Summary).withListed spec.topics.length spec.tokens) :
    summary.Accounts spec calls where
  project := congrArg Summary.project made
  topicCalls := by simpa [withCalls] using congrArg Summary.topics made
  topics := by
    simpa [withListed, ProjectSpec.deadLetterTokens, List.countP_eq_length_filter] using
      congrArg Summary.topics listed
  subscriptionCalls := by simpa [withCalls] using congrArg Summary.subscriptions made
  subscriptions := by
    simpa [withListed, ProjectSpec.deadLetterTokens, List.countP_eq_length_filter] using
      congrArg Summary.subscriptions listed
  policyCalls := by simpa [withCalls] using congrArg Summary.deadLetterPairs made
  deadLetterPairs := by
    simpa [withListed, ProjectSpec.deadLetterTokens, List.countP_eq_length_filter] using
      congrArg Summary.deadLetterPairs listed

/-- Opening and closing a session does not count. -/
theorem Summary.withCalls_sessionLog (summary : Summary) (project : String)
    (made : List AnsweredCall) (closing : Call.Outcome .close) :
    summary.withCalls ((sessionLog project made closing).map (·.call)) =
      summary.withCalls (made.map (·.call)) := by
  rw [sessionLog, List.map_cons, withCalls_cons, List.map_append, withCalls_append]
  rfl

namespace ProjectSpec

variable {backend : Backend σ} {start : σ} {spec : ProjectSpec} {summary : Summary}

/-- A pass that unfolds to a summary has read all tokens, and performed all steps. -/
theorem Unfolds.accounts {log : List AnsweredCall} {result : Except ProvisionError Summary}
    (unfolds : spec.Unfolds log result) (succeeded : result = .ok summary) :
    summary.Accounts spec (log.map (·.call)) := by
  cases unfolds with
  | refused cause => contradiction
  | opened made ends closing course =>
      cases ends with
      | error error => contradiction
      | ok reached =>
          cases flaw : spec.script.flaw with
          | some reason => simp [Script.conclude, flaw] at succeeded
          | none =>
              rw [Script.conclude, flaw] at succeeded
              obtain rfl := Except.ok.inj succeeded
              have grouped : InGroups spec.script.steps := spec.inGroups_of_shape rfl
              apply Summary.accounts_of_counts
              · rw [Summary.withCalls_sessionLog, course.withCalls_made (.initial spec.id)]
                exact grouped.foldl_count _ _
              · exact Script.foldl_count_ofTopics flaw _

/-- The summary of a pass that succeeds accounts for it, whatever the service. -/
theorem accounts_of_provision
    (succeeded : (spec.provision.run backend start).result = .ok summary) :
    summary.Accounts spec (Entry.calls (spec.provision.run backend start).transcript) := by
  rw [← Entry.map_call_answered]
  exact (spec.unfolds backend start).accounts succeeded

end ProjectSpec

/-! ## Batches -/

/-- The summary of an attempt that goes through accounts for its pass. -/
theorem ProjectVariable.GoesThrough.accounts {backend : Backend σ} {state after : σ}
    {entry : ProjectVariable} {pass : CompletedPass}
    (through : entry.GoesThrough backend state pass after) :
    ∃ spec, ProjectSpec.parse entry.value = .ok spec ∧ pass.summary.Accounts spec pass.calls := by
  obtain ⟨spec, summary, read, -, succeeded⟩ := through
  exact ⟨spec, read, ProjectSpec.accounts_of_provision succeeded⟩

theorem Succession.accounts {backend : Backend σ} {start reached : σ}
    {entries : List ProjectVariable} {passes : List CompletedPass}
    (succession : Succession backend start entries passes reached) :
    List.Forall₂ (fun entry pass => ∃ spec, ProjectSpec.parse entry.value = .ok spec ∧
      pass.summary.Accounts spec pass.calls) entries passes := by
  induction succession with
  | nil state => exact .nil
  | cons through _ inductionHypothesis => exact .cons through.accounts inductionHypothesis

/-- The summary of a pass that succeeds accounts for its calls and for the project, whatever the
service answers.  A batch that succeeds consists of passes that follow one another, one for each
variable; it yields their summaries, each of which accounts for its own pass. -/
theorem summaries_account_for_passes :
    (∀ (σ : Type) (backend : Backend σ) (start : σ) (spec : ProjectSpec) (summary : Summary),
      (spec.provision.run backend start).result = .ok summary →
        summary.Accounts spec (Entry.calls (spec.provision.run backend start).transcript)) ∧
    ∀ (σ : Type) (backend : Backend σ) (start : σ) (entries : List ProjectVariable)
      (summaries : List Summary),
      let held := (provisionAll entries).run backend start
      held.result = .ok summaries →
        ∃ passes reached, Succession backend start entries passes reached ∧
          summaries = passes.map (·.summary) ∧
          Entry.calls held.transcript = passes.flatMap (·.calls) ∧
          List.Forall₂ (fun entry pass => ∃ spec, ProjectSpec.parse entry.value = .ok spec ∧
            pass.summary.Accounts spec pass.calls) entries passes := by
  constructor
  · intro σ backend start spec summary succeeded
    exact ProjectSpec.accounts_of_provision succeeded
  · intro σ backend start entries summaries held succeeded
    obtain ⟨passes, reached, succession, rfl⟩ := result_provisionAll_eq_ok_iff.mp succeeded
    exact ⟨passes, reached, succession, rfl, succession.held.2.2, succession.accounts⟩

/-- A service that grants topics under other names makes no difference to what is counted. -/
theorem summaries_account_for_renamed_passes :
    let spec : ProjectSpec := ⟨"p", [⟨"a", ["s", "r+h|80+dlq"]⟩]⟩
    let start : Rehearsal := { projectAlias := some "other", topicAliases := [("a", "x")] }
    let held := spec.provision.run Rehearsal.backend start
    let entries : List ProjectVariable :=
      [⟨"PUBSUB_PROJECT1", "p,a:s:r+h|80+dlq"⟩, ⟨"PUBSUB_PROJECT2", "q,b"⟩]
    let batch := (provisionAll entries).run Rehearsal.backend start
    held.result = .ok ⟨"p", 2, 3, 1⟩ ∧
      (Summary.mk "p" 2 3 1).Accounts spec (Entry.calls held.transcript) ∧
      batch.result = .ok [⟨"p", 2, 3, 1⟩, ⟨"q", 1, 0, 0⟩] ∧
      ∃ passes reached, Succession Rehearsal.backend start entries passes reached ∧
        [⟨"p", 2, 3, 1⟩, ⟨"q", 1, 0, 0⟩] = passes.map (·.summary) ∧
        Entry.calls batch.transcript = passes.flatMap (·.calls) ∧
        List.Forall₂ (fun entry pass => ∃ spec, ProjectSpec.parse entry.value = .ok spec ∧
          pass.summary.Accounts spec pass.calls) entries passes := by
  intro spec start held entries batch
  obtain ⟨ofPass, ofBatch⟩ := summaries_account_for_passes
  have succeeded : held.result = .ok ⟨"p", 2, 3, 1⟩ := by decide +kernel
  have allSucceeded : batch.result = .ok [⟨"p", 2, 3, 1⟩, ⟨"q", 1, 0, 0⟩] := by decide +kernel
  exact ⟨succeeded, ofPass Rehearsal Rehearsal.backend start spec _ succeeded, allSucceeded,
    ofBatch Rehearsal Rehearsal.backend start entries _ allSucceeded⟩

end PubSubProvisioning
