import PubSubProvisioning.Failure
import PubSubProvisioning.Proofs.QuotedText
import PubSubProvisioning.Proofs.ReviewOutcome

/-!
# What a malformed value is reported with

Messages quote the texts that they are about.  So no message holds a control character, whatever the
value holds, and one message is one line of a log.  A message about a token that cannot be read
begins with the token, and so shows which one it is.
-/

namespace PubSubProvisioning

open PubSubProvisioning.Text (ControlFree controlFree_append controlFree_quote quote quote_append_inj)

/-! ## Control characters -/

theorem controlFree_toString (number : Nat) : ControlFree (toString number) := by
  intro c member
  rw [Nat.toString_eq_ofList_toDigits, String.toList_ofList] at member
  have digit := Text.isDigit_iff.mp (Nat.isDigit_of_mem_toDigits (by decide) (by decide) member)
  rw [Text.IsControl]
  omega

theorem Url.ParseError.controlFree_message (reason : Url.ParseError) : ControlFree reason.message := by
  cases reason <;> decide

theorem UrlFault.controlFree_message (url : String) (fault : UrlFault) :
    ControlFree (fault.message url) := by
  cases fault with
  | empty =>
      change ControlFree "URL cannot be empty"
      decide
  | noHost =>
      change ControlFree ("URL " ++ quote url ++ " has no host")
      simp only [controlFree_append, controlFree_quote]
      decide
  | unsupported scheme =>
      change ControlFree ("unsupported URL scheme " ++ quote scheme ++ " in " ++ quote url)
      simp only [controlFree_append, controlFree_quote]
      decide
  | unreadable reason =>
      change ControlFree ("invalid URL " ++ quote url ++ ": " ++ reason.message)
      simp only [controlFree_append, controlFree_quote, reason.controlFree_message]
      decide

/-- A message holds no more control characters than what it does not quote: the name of a field, or
words of a caller. -/
theorem Malformed.controlFree_message {reason : Malformed}
    (named : ∀ field url fault, reason = .badUrl field url fault → ControlFree field)
    (unstated : ∀ message, reason ≠ .stated message) : ControlFree reason.message := by
  cases reason with
  | noTopics =>
      change ControlFree "Expected at least 1 topic to be defined"
      decide
  | emptySubscription token =>
      change ControlFree ("subscription " ++ quote token ++ " has an empty subscription ID")
      simp only [controlFree_append, controlFree_quote]
      decide
  | emptyEndpoint token =>
      change ControlFree ("subscription " ++ quote token ++ " has an empty push endpoint")
      simp only [controlFree_append, controlFree_quote]
      decide
  | unknownOption token option =>
      change ControlFree ("subscription " ++ quote token ++ " has unknown option " ++ quote option ++
        " (expected \"dlq\")")
      simp only [controlFree_append, controlFree_quote]
      decide
  | tooManyParts token count =>
      change ControlFree ("subscription " ++ quote token ++ " has " ++ toString count ++
        " '+'-separated parts (at most 3 allowed)")
      simp only [controlFree_append, controlFree_quote, controlFree_toString]
      decide
  | badUrl field url fault =>
      change ControlFree (field ++ ": " ++ fault.message url)
      simp only [controlFree_append, named field url fault rfl, fault.controlFree_message]
      decide
  | stated message => exact absurd rfl (unstated message)

/-! ## Reports -/

/-- The reasons for which values, tokens and projects are refused. -/
inductive Malformed.IsReported : Malformed → Prop where
  | value {value : String} {reason : Malformed}
      (refused : ProjectSpec.parse value = .error reason) : IsReported reason
  | token {token : String} {reason : Malformed}
      (refused : SubscriptionPlan.ofToken token = .error reason) : IsReported reason
  | project {spec : ProjectSpec} {reason : Malformed}
      (refused : spec.validate = .error reason) : IsReported reason

theorem ProvisionError.message_malformed (reason : Malformed) :
    (malformed reason).message = "Malformed project spec: " ++ reason.message :=
  rfl

/-- A project is refused for what one of its tokens offends with. -/
theorem ProjectSpec.exists_offends_of_validate {spec : ProjectSpec} {reason : Malformed}
    (refused : spec.validate = .error reason) : ∃ token, SubscriptionPlan.Offends token reason := by
  have settles : Review.Settles spec.review spec.listings := settles_reviewTopics spec.topics
  rw [validate] at refused
  generalize spec.listings = listings at settles
  cases settles with
  | accepts _ _ verdict =>
      rw [verdict] at refused
      contradiction
  | @refuses _ _ first _ _ _ offends verdict =>
      obtain rfl := Except.error.inj (verdict.symm.trans refused)
      exact ⟨first.token, offends⟩

/-- Whatever is reported, the message holds no control character. -/
theorem Malformed.IsReported.controlFree_message {reason : Malformed} (reported : reason.IsReported) :
    ControlFree reason.message := by
  have ofDefect {token : String} {reason : Malformed}
      (defect : SubscriptionPlan.HasDefect token reason) : ControlFree reason.message := by
    apply Malformed.controlFree_message
    · rintro _ _ _ rfl
      cases defect
    · rintro _ rfl
      cases defect
  cases reported with
  | @value value reason refused =>
      rw [ProjectSpec.parse] at refused
      split at refused
      · obtain rfl := Except.error.inj refused
        exact Malformed.controlFree_message (fun _ _ _ same => by contradiction)
          (fun _ same => by contradiction)
      · contradiction
  | token refused =>
      exact ofDefect (SubscriptionPlan.isFirstDefect_of_ofToken refused).found
  | project refused =>
      obtain ⟨token, offends⟩ := ProjectSpec.exists_offends_of_validate refused
      cases offends with
      | unread refused => exact ofDefect (SubscriptionPlan.isFirstDefect_of_ofToken refused).found
      | @badEndpoint plan endpoint reason _ _ _ =>
          apply Malformed.controlFree_message
          · rintro field url fault same
            obtain ⟨rfl, -, -⟩ := Malformed.badUrl.inj same
            change ControlFree ("push endpoint of subscription " ++ quote plan.id)
            simp only [controlFree_append, controlFree_quote]
            decide
          · intro message same
            contradiction

/-- The message about a defect begins with the token. -/
theorem SubscriptionPlan.HasDefect.exists_message {token : String} {reason : Malformed}
    (defect : HasDefect token reason) :
    ∃ rest, reason.message = "subscription " ++ (quote token ++ rest) := by
  cases defect with
  | emptyId =>
      refine ⟨" has an empty subscription ID", ?_⟩
      rw [← String.append_assoc]
      rfl
  | tooManyParts =>
      refine ⟨" has " ++ toString (token.toList.count '+' + 1) ++
        " '+'-separated parts (at most 3 allowed)", ?_⟩
      rw [← String.append_assoc, ← String.append_assoc, ← String.append_assoc]
      rfl
  | @unknownOption _ _ option _ _ _ _ _ =>
      refine ⟨" has unknown option " ++ quote option ++ " (expected \"dlq\")", ?_⟩
      rw [← String.append_assoc, ← String.append_assoc, ← String.append_assoc]
      rfl
  | emptyEndpoint =>
      refine ⟨" has an empty push endpoint", ?_⟩
      rw [← String.append_assoc]
      rfl

/-- No message about a refused value, token or project holds a control character, whatever it is
about.  The message about a token that cannot be read is about no other token. -/
theorem malformed_message_safe_and_faithful :
    (∀ reason : Malformed, reason.IsReported →
        ControlFree (ProvisionError.malformed reason).message) ∧
      ∀ token other reason reasonOther,
        SubscriptionPlan.ofToken token = .error reason →
        SubscriptionPlan.ofToken other = .error reasonOther →
        (ProvisionError.malformed reason).message = (ProvisionError.malformed reasonOther).message →
        token = other := by
  constructor
  · intro reason reported
    rw [ProvisionError.message_malformed, controlFree_append]
    exact ⟨by decide, reported.controlFree_message⟩
  · intro token other reason reasonOther refused refusedOther same
    obtain ⟨rest, message⟩ :=
      (SubscriptionPlan.isFirstDefect_of_ofToken refused).found.exists_message
    obtain ⟨restOther, messageOther⟩ :=
      (SubscriptionPlan.isFirstDefect_of_ofToken refusedOther).found.exists_message
    rw [ProvisionError.message_malformed, ProvisionError.message_malformed, message, messageOther,
      String.append_right_inj, String.append_right_inj] at same
    exact (quote_append_inj same).1

/-- A line break in a token is not one in its message, and is told from the two characters that it
is quoted as. -/
theorem malformed_message_of_line_break :
    let broken := "s+h+\n"
    let spelled := "s+h+\\n"
    SubscriptionPlan.ofToken broken = .error (.unknownOption broken "\n") ∧
      SubscriptionPlan.ofToken spelled = .error (.unknownOption spelled "\\n") ∧
      ControlFree (ProvisionError.malformed (.unknownOption broken "\n")).message ∧
      (ProvisionError.malformed (.unknownOption broken "\n")).message ≠
        (ProvisionError.malformed (.unknownOption spelled "\\n")).message := by
  intro broken spelled
  rcases malformed_message_safe_and_faithful with ⟨safe, faithful⟩
  have refused : SubscriptionPlan.ofToken broken = .error (.unknownOption broken "\n") := by
    decide +kernel
  have refusedSpelled :
      SubscriptionPlan.ofToken spelled = .error (.unknownOption spelled "\\n") := by
    decide +kernel
  refine ⟨refused, refusedSpelled, safe _ (.token refused), ?_⟩
  intro same
  exact absurd (faithful broken spelled _ _ refused refusedSpelled same) (by decide)

end PubSubProvisioning
