import PubSubProvisioning.Proofs.JsonRecords
import PubSubProvisioning.Rest

/-!
# What a reply says about an error

The body of a reply describes an error if it is the text of a record that has the form of a
description throughout.  Then the description is all that is taken from it.  Any other body is taken
as a whole for a plain message, however much of it looks like a description.
-/

namespace PubSubProvisioning

namespace Text

/-- A text without the blanks around it. -/
structure IsTrimmed (text trimmed : String) : Prop where
  around : ∃ before after : List Char, text.toList = before ++ (trimmed.toList ++ after) ∧
    (∀ c ∈ before, isBlank c = true) ∧ ∀ c ∈ after, isBlank c = true
  begins : ∀ c ∈ trimmed.toList.head?, isBlank c = false
  ends : ∀ c ∈ trimmed.toList.getLast?, isBlank c = false

theorem head?_dropWhile_isBlank (text : List Char) :
    ∀ c ∈ (text.dropWhile isBlank).head?, isBlank c = false := by
  intro c first
  have visible := List.head?_dropWhile_not isBlank text
  rwa [Option.mem_def.mp first] at visible

/-- What is dropped from the end of a text is blank. -/
theorem exists_dropTrailing_append (text : List Char) :
    ∃ after, text = dropTrailing isBlank text ++ after ∧ ∀ c ∈ after, isBlank c = true := by
  refine ⟨(text.reverse.takeWhile isBlank).reverse, ?_, ?_⟩
  · rw [dropTrailing, ← List.reverse_append, List.takeWhile_append_dropWhile, List.reverse_reverse]
  · intro c member
    exact List.all_eq_true.mp List.all_takeWhile c (List.mem_reverse.mp member)

theorem isTrimmed_trim (text : String) : IsTrimmed text (trim text) := by
  obtain ⟨after, split, blankAfter⟩ := exists_dropTrailing_append (text.toList.dropWhile isBlank)
  constructor
  · refine ⟨text.toList.takeWhile isBlank, after, ?_, List.all_eq_true.mp List.all_takeWhile,
      blankAfter⟩
    rw [trim, String.toList_ofList, trimBy, ← split, List.takeWhile_append_dropWhile]
  · intro c first
    rw [trim, String.toList_ofList, trimBy] at first
    apply head?_dropWhile_isBlank text.toList
    rw [split, List.head?_append, Option.mem_def.mp first]
    rfl
  · intro c last
    rw [trim, String.toList_ofList, trimBy, dropTrailing, List.getLast?_reverse] at last
    exact head?_dropWhile_isBlank _ c last

end Text

namespace Rest

open PubSubProvisioning.Json (IsPhrase IsRecord IsNumber IsText)

variable {body : String}

/-! ## Descriptions -/

/-- The error that a body gives: the field `error` of the record of which it is the text. -/
inductive GivesError (body : String) (error : Json.Value) : Prop where
  | record {value : Json.Value} (written : IsPhrase (.padded value) (.ofText body))
      (outer : IsRecord ["error"] 1 value [some error])

/-- What a body says about an error: a code of sixteen bits, a message and a status, each of which
may be absent. -/
inductive IsDescription (body : String) : ErrorDetail → Prop where
  | record {error : Json.Value} {code message status : Option Json.Value} {detail : ErrorDetail}
      (given : GivesError body error)
      (inner : IsRecord ["code", "message", "status"] 0 error [code, message, status])
      (isCode : IsNumber 0x10000 code detail.code) (isMessage : IsText message detail.message)
      (isStatus : IsText status detail.status) : IsDescription body detail

theorem GivesError.unique {error other : Json.Value} (given : GivesError body error)
    (givenOther : GivesError body other) : error = other := by
  obtain ⟨written, outer⟩ := given
  obtain ⟨writtenOther, outerOther⟩ := givenOther
  obtain rfl := written.value_unique writtenOther
  exact Option.some.inj (List.cons.inj (outer.unique outerOther)).1

theorem GivesError.isSpelled {error : Json.Value} (given : GivesError body error) :
    error.IsSpelled := by
  obtain ⟨written, outer⟩ := given
  exact Json.Value.IsSpelled.of_mem_parts ⟨_, written⟩ (outer.mem_parts List.mem_cons_self)

/-- The description of an error is what is read. -/
theorem errorDetail?_eq_some_iff {detail : ErrorDetail} :
    errorDetail? (.ofText body) = some detail ↔ IsDescription body detail := by
  constructor
  · intro found
    obtain ⟨value, readValue, readOuter⟩ := Option.bind_eq_some_iff.mp found
    obtain ⟨outer, foundOuter, readError⟩ := Option.bind_eq_some_iff.mp readOuter
    split at readError
    next error =>
      obtain ⟨inner, foundInner, readFields⟩ := Option.bind_eq_some_iff.mp readError
      split at readFields
      next code message status =>
        obtain ⟨number, foundCode, readTexts⟩ := Option.bind_eq_some_iff.mp readFields
        obtain ⟨text, foundMessage, readStatus⟩ := Option.bind_eq_some_iff.mp readTexts
        obtain ⟨reason, foundStatus, same⟩ := Option.bind_eq_some_iff.mp readStatus
        obtain rfl := Option.some.inj same
        have given : GivesError body error :=
          .record (Json.read?_eq_some_iff.mp readValue) (Json.fields?_eq_some_iff.mp foundOuter)
        have isRecord := Json.fields?_eq_some_iff.mp foundInner
        have spelled : ∀ part ∈ code, part.IsSpelled := by
          rintro part rfl
          exact given.isSpelled.of_mem_parts (isRecord.mem_parts List.mem_cons_self)
        exact .record given isRecord ((Json.natField?_eq_some_iff spelled).mp foundCode)
          (Json.textField?_eq_some_iff.mp foundMessage) (Json.textField?_eq_some_iff.mp foundStatus)
      next => contradiction
    next => contradiction
  · rintro ⟨⟨written, outer⟩, inner, isCode, isMessage, isStatus⟩
    rw [errorDetail?, Json.read?_eq_some_iff.mpr written]
    simp only [Json.fields?_eq_some_iff.mpr outer, Json.fields?_eq_some_iff.mpr inner,
      isCode.natField?_eq, Json.textField?_eq_some_iff.mpr isMessage,
      Json.textField?_eq_some_iff.mpr isStatus, Option.bind_eq_bind, Option.bind_some]

/-- A body gives one description at most. -/
theorem IsDescription.unique {detail other : ErrorDetail} (isDescription : IsDescription body detail)
    (isOther : IsDescription body other) : detail = other :=
  Option.some.inj
    ((errorDetail?_eq_some_iff.mpr isDescription).symm.trans (errorDetail?_eq_some_iff.mpr isOther))

/-! ## Bodies that are partly wrong -/

/-- Bodies that go some way towards a description: one that something visible follows, an object
without an error, an error that is no record, and a record in which one of the fields is wrong. -/
inductive IsPartlyWrong : String → Prop where
  | followed {document more : String} {detail : ErrorDetail}
      (describes : IsDescription document detail) (visible : ¬Json.Blank (.ofText more)) :
      IsPartlyWrong (document ++ more)
  | withoutError {body : String} {members : List (Option String × Json.Value)}
      (written : IsPhrase (.padded (.object members)) (.ofText body))
      (missing : Json.Lacks members "error") : IsPartlyWrong body
  | noRecord {body : String} {error : Json.Value} (given : GivesError body error)
      (other : ∀ fields, ¬IsRecord ["code", "message", "status"] 0 error fields) :
      IsPartlyWrong body
  | wrongCode {body : String} {error code : Json.Value} {message status : Option Json.Value}
      (given : GivesError body error)
      (inner : IsRecord ["code", "message", "status"] 0 error [some code, message, status])
      (wrong : ∀ number < 0x10000, code ≠ .number (toString number)) : IsPartlyWrong body
  | wrongMessage {body : String} {error message : Json.Value} {code status : Option Json.Value}
      (given : GivesError body error)
      (inner : IsRecord ["code", "message", "status"] 0 error [code, some message, status])
      (wrong : ∀ text, message ≠ .string (some text)) : IsPartlyWrong body
  | wrongStatus {body : String} {error status : Json.Value} {code message : Option Json.Value}
      (given : GivesError body error)
      (inner : IsRecord ["code", "message", "status"] 0 error [code, message, some status])
      (wrong : ∀ text, status ≠ .string (some text)) : IsPartlyWrong body

theorem GivesError.not_followed {document more : String} {error other : Json.Value}
    (given : GivesError document error) (visible : ¬Json.Blank (.ofText more)) :
    ¬GivesError (document ++ more) other := by
  obtain ⟨written, outer⟩ := given
  rintro ⟨longer, _⟩
  rw [Json.Input.ofText_append] at longer
  exact written.not_padded_append outer.ne_number visible _ longer

theorem GivesError.not_lacks {error : Json.Value} {members : List (Option String × Json.Value)}
    (given : GivesError body error) (written : IsPhrase (.padded (.object members)) (.ofText body)) :
    ¬Json.Lacks members "error" := by
  intro missing
  obtain ⟨writtenValue, outer⟩ := given
  obtain rfl := writtenValue.value_unique written
  cases outer with
  | object _ fields =>
      cases fields with
      | cons isField _ =>
          cases isField with
          | present _ _ => exact missing _ (List.mem_append_right _ List.mem_cons_self) rfl

theorem IsPartlyWrong.not_isDescription (partlyWrong : IsPartlyWrong body) (detail : ErrorDetail) :
    ¬IsDescription body detail := by
  rintro ⟨given, inner, isCode, isMessage, isStatus⟩
  cases partlyWrong with
  | followed describes visible =>
      obtain ⟨givenDocument, _⟩ := describes
      exact givenDocument.not_followed visible given
  | withoutError written missing => exact given.not_lacks written missing
  | noRecord givenOther other =>
      obtain rfl := given.unique givenOther
      exact other _ inner
  | wrongCode givenOther innerOther wrong =>
      obtain rfl := given.unique givenOther
      cases inner.unique innerOther
      cases isCode with
      | present small => exact wrong _ small rfl
  | wrongMessage givenOther innerOther wrong =>
      obtain rfl := given.unique givenOther
      cases inner.unique innerOther
      cases isMessage with
      | present text => exact wrong _ rfl
  | wrongStatus givenOther innerOther wrong =>
      obtain rfl := given.unique givenOther
      cases inner.unique innerOther
      cases isStatus with
      | present text => exact wrong _ rfl

/-! ## Errors -/

/-- No registered reason reads like the status of a resource that exists. -/
theorem reason?_ne_alreadyExists (status : Nat) :
    (Http.reason? status).getD "UNKNOWN" ≠ "ALREADY_EXISTS" := by
  have unlike : ∀ registered ∈ Http.registeredReasons, registered.2 ≠ "ALREADY_EXISTS" := by decide
  cases found : Http.reason? status with
  | none => decide
  | some reason =>
      obtain ⟨before, after, split, _⟩ := List.lookup_eq_some_iff.mp found
      exact unlike (status, reason) (by rw [split]; exact List.mem_append_right _ List.mem_cons_self)

/-- The two ways in which a reply says that a resource exists: by its status, and by its body. -/
def SaysAlreadyExists (status : Nat) (body : String) : Prop :=
  status = 409 ∨ ∃ detail, IsDescription body detail ∧ detail.status = "ALREADY_EXISTS"

theorem saysAlreadyExists_iff {detail : ErrorDetail} (isDescription : IsDescription body detail)
    (status : Nat) :
    SaysAlreadyExists status body ↔ status = 409 ∨ detail.status = "ALREADY_EXISTS" := by
  apply or_congr_right
  constructor
  · rintro ⟨other, isOther, said⟩
    rwa [isDescription.unique isOther]
  · exact fun said => ⟨detail, isDescription, said⟩

theorem saysAlreadyExists_iff_of_undescribed (undescribed : ∀ detail, ¬IsDescription body detail)
    (status : Nat) : SaysAlreadyExists status body ↔ status = 409 :=
  or_iff_left fun ⟨detail, isDescription, _⟩ => undescribed detail isDescription

/-- The error of a body that describes it. -/
theorem apiError_of_isDescription {detail : ErrorDetail} (isDescription : IsDescription body detail)
    (status : Nat) (resource : String) :
    apiError status resource body =
      if status = 409 ∨ detail.status = "ALREADY_EXISTS" then .alreadyExists resource
      else .api (if detail.code = 0 then status else detail.code) detail.status detail.message := by
  rw [apiError, errorDetail?_eq_some_iff.mpr isDescription, Option.getD_some]

/-- The error of a body that describes none. -/
theorem apiError_of_undescribed (undescribed : ∀ detail, ¬IsDescription body detail)
    (status : Nat) (resource : String) :
    apiError status resource body =
      if status = 409 then .alreadyExists resource
      else .api status ((Http.reason? status).getD "UNKNOWN") (Text.trim body) := by
  have unread : errorDetail? (.ofText body) = none := by
    rw [Option.eq_none_iff_forall_ne_some]
    exact fun detail found => undescribed detail (errorDetail?_eq_some_iff.mp found)
  rw [apiError, unread, Option.getD_none]
  simp only [reason?_ne_alreadyExists, or_false, ite_self]

theorem apiError_of_saysAlreadyExists {status : Nat} (said : SaysAlreadyExists status body)
    (resource : String) : apiError status resource body = .alreadyExists resource := by
  by_cases described : ∃ detail, IsDescription body detail
  · obtain ⟨detail, isDescription⟩ := described
    rw [apiError_of_isDescription isDescription,
      if_pos ((saysAlreadyExists_iff isDescription status).mp said)]
  · have undescribed := not_exists.mp described
    rw [apiError_of_undescribed undescribed,
      if_pos ((saysAlreadyExists_iff_of_undescribed undescribed status).mp said)]

/-- A reply that does not say that the resource exists reports another error, with the code of the
description unless that is zero, or else with its own. -/
theorem exists_api_of_not_saysAlreadyExists {status : Nat} (isStatus : 100 ≤ status)
    (unsaid : ¬SaysAlreadyExists status body) (resource : String) :
    ∃ code text message, apiError status resource body = .api code text message ∧ code ≠ 0 ∧
      (∀ detail, IsDescription body detail →
        code = (if detail.code = 0 then status else detail.code) ∧ text = detail.status ∧
          message = detail.message) ∧
      ((∀ detail, ¬IsDescription body detail) →
        code = status ∧ text = (Http.reason? status).getD "UNKNOWN" ∧
          Text.IsTrimmed body message) := by
  have nonzero : status ≠ 0 := by omega
  by_cases described : ∃ detail, IsDescription body detail
  · obtain ⟨detail, isDescription⟩ := described
    refine ⟨if detail.code = 0 then status else detail.code, detail.status, detail.message,
      ?_, ?_, ?_, fun undescribed => absurd isDescription (undescribed detail)⟩
    · rw [apiError_of_isDescription isDescription,
        if_neg (mt (saysAlreadyExists_iff isDescription status).mpr unsaid)]
    · split
      · exact nonzero
      next given => exact given
    · intro other isOther
      obtain rfl := isDescription.unique isOther
      exact ⟨rfl, rfl, rfl⟩
  · have undescribed := not_exists.mp described
    refine ⟨status, (Http.reason? status).getD "UNKNOWN", Text.trim body, ?_, nonzero,
      fun detail isDescription => absurd isDescription (undescribed detail),
      fun _ => ⟨rfl, rfl, Text.isTrimmed_trim body⟩⟩
    rw [apiError_of_undescribed undescribed,
      if_neg (mt (saysAlreadyExists_iff_of_undescribed undescribed status).mpr unsaid)]

/-- A reply that reports no success says that the resource exists, by its status or in a
description, or reports an error that is taken from the description or from the reply as a whole.  A
body gives one description at most, and one that is partly wrong gives none. -/
theorem error_reply_decoded (status : Nat) (isStatus : 100 ≤ status) (resource body : String) :
    (apiError status resource body = .alreadyExists resource ↔ SaysAlreadyExists status body) ∧
      (¬SaysAlreadyExists status body →
        ∃ code text message, apiError status resource body = .api code text message ∧ code ≠ 0 ∧
          (∀ detail, IsDescription body detail →
            code = (if detail.code = 0 then status else detail.code) ∧ text = detail.status ∧
              message = detail.message) ∧
          ((∀ detail, ¬IsDescription body detail) →
            code = status ∧ text = (Http.reason? status).getD "UNKNOWN" ∧
              Text.IsTrimmed body message)) ∧
      (∀ detail other, IsDescription body detail → IsDescription body other → detail = other) ∧
      (IsPartlyWrong body →
        apiError status resource body =
          if status = 409 then .alreadyExists resource
          else .api status ((Http.reason? status).getD "UNKNOWN") (Text.trim body)) := by
  refine ⟨⟨fun reported => ?_, fun said => apiError_of_saysAlreadyExists said resource⟩, ?_, ?_, ?_⟩
  · refine Classical.byContradiction fun unsaid => ?_
    obtain ⟨code, text, message, other, _⟩ :=
      exists_api_of_not_saysAlreadyExists isStatus unsaid resource
    rw [other] at reported
    contradiction
  · exact fun unsaid => exists_api_of_not_saysAlreadyExists isStatus unsaid resource
  · exact fun _ _ isDescription isOther => isDescription.unique isOther
  · exact fun partlyWrong =>
      apiError_of_undescribed partlyWrong.not_isDescription status resource

/-- A reply that describes a resource as existing, and the same reply with a word after the
description. -/
theorem error_reply_followed_by_word :
    100 ≤ 503 ∧
      apiError 503 "projects/p/topics/t"
          "\x7b\"error\":\x7b\"status\":\"ALREADY_EXISTS\"\x7d\x7d" =
        .alreadyExists "projects/p/topics/t" ∧
      apiError 503 "projects/p/topics/t"
          ("\x7b\"error\":\x7b\"status\":\"ALREADY_EXISTS\"\x7d\x7d" ++ " !") =
        .api 503 "Service Unavailable"
          "\x7b\"error\":\x7b\"status\":\"ALREADY_EXISTS\"\x7d\x7d !" := by
  have describes : IsDescription
      "\x7b\"error\":\x7b\"status\":\"ALREADY_EXISTS\"\x7d\x7d" ⟨0, "", "ALREADY_EXISTS"⟩ :=
    errorDetail?_eq_some_iff.mp (by decide +kernel)
  have visible : ¬Json.Blank (.ofText " !") :=
    fun blank => absurd (blank (some '!') (by decide)) (by decide)
  refine ⟨by decide, ?_, ?_⟩
  · exact (error_reply_decoded 503 (by decide) "projects/p/topics/t" _).1.mpr
      (.inr ⟨_, describes, rfl⟩)
  · rw [(error_reply_decoded 503 (by decide) "projects/p/topics/t" _).2.2.2
      (.followed describes visible)]
    decide +kernel

end Rest

end PubSubProvisioning
