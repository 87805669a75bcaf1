import PubSubProvisioning.Proofs.ProjectValue
import PubSubProvisioning.Proofs.TokenGrammar

/-!
# Tokens and the plans that they ask for

To read a token turns a bar into a colon, and so two texts can name one endpoint: `h|80` and `h:80`.
A project value has no tokens with colons, since it is cut at them, and without colons there is no
doubt.  If the URL of an endpoint has a colon after the scheme, a bar stood there.

So tokens without colons and the plans that are `Writable` are read and written as each other.
-/

namespace PubSubProvisioning

open PubSubProvisioning.Text (join)

/-! ## Endpoints -/

namespace PushEndpoint

/-- An endpoint that a token without colons names: there is a text behind the scheme, without plus
signs, and either it has neither colon nor bar, or it has one colon and no bar before that. -/
def Writable (endpoint : PushEndpoint) : Prop :=
  ∃ text, endpoint.url = "http://" ++ text ∧ text ≠ "" ∧ '+' ∉ text.toList ∧
    ((':' ∉ text.toList ∧ '|' ∉ text.toList) ∨
      ∃ host port, text = host ++ ":" ++ port ∧ ':' ∉ host.toList ∧ '|' ∉ host.toList ∧
        ':' ∉ port.toList)

/-- The first bar of a text becomes a colon, and what comes before and after it stays. -/
theorem ofSegment_append {host : String} (free : '|' ∉ host.toList) (port : String) :
    ofSegment (host ++ "|" ++ port) = ⟨"http://" ++ (host ++ ":" ++ port)⟩ := by
  rw [ofSegment, firstBarToColon_eq_replace]
  congr 2
  apply String.toList_injective
  simp [List.replace_append_right, free]

theorem ofSegment_of_not_mem {text : String} (free : '|' ∉ text.toList) :
    ofSegment text = ⟨"http://" ++ text⟩ := by
  rw [ofSegment, firstBarToColon_eq_replace, List.replace_of_not_mem (by simpa using free),
    String.ofList_toList]
  rfl

theorem segment_eq {endpoint : PushEndpoint} {text : String} (url : endpoint.url = "http://" ++ text) :
    endpoint.segment = String.ofList (text.toList.replace ':' '|') := by
  rw [segment, firstColonToBar_eq_replace, url, String.toList_append]
  rfl

theorem segment_eq_append {endpoint : PushEndpoint} {host port : String}
    (url : endpoint.url = "http://" ++ (host ++ ":" ++ port)) (free : ':' ∉ host.toList) :
    endpoint.segment = host ++ "|" ++ port := by
  rw [segment_eq url]
  apply String.toList_injective
  simp [List.replace_append_right, free]

theorem segment_of_not_mem {endpoint : PushEndpoint} {text : String}
    (url : endpoint.url = "http://" ++ text) (free : ':' ∉ text.toList) : endpoint.segment = text := by
  rw [segment_eq url, List.replace_of_not_mem (by simpa using free), String.ofList_toList]

/-- The endpoint that a text without colons names can be written. -/
theorem writable_ofSegment {segment : String} (isPart : SubscriptionPlan.IsPart segment)
    (colonFree : ':' ∉ segment.toList) : (ofSegment segment).Writable := by
  by_cases barred : '|' ∈ segment.toList
  · rcases List.eq_append_cons_of_mem barred with ⟨before, after, letters, barFree⟩
    have cut : segment = String.ofList before ++ "|" ++ String.ofList after := by
      apply String.toList_injective
      simp [letters]
    have plusFree := isPart.plusFree
    simp only [letters, List.mem_append, List.mem_cons, not_or] at plusFree colonFree
    refine ⟨String.ofList before ++ ":" ++ String.ofList after, ?_, ?_, ?_, .inr ⟨_, _, rfl, ?_⟩⟩
    · rw [cut, ofSegment_append (by simpa using barFree)]
    · intro empty
      simpa using congrArg String.toList empty
    · simp [plusFree]
    · simp [colonFree, barFree]
  · rw [ofSegment_of_not_mem barred]
    exact ⟨segment, rfl, isPart.present, isPart.plusFree, .inl ⟨colonFree, barred⟩⟩

/-- An endpoint that can be written is named by a text without colons. -/
theorem Writable.segment {endpoint : PushEndpoint} (writable : endpoint.Writable) :
    SubscriptionPlan.IsPart endpoint.segment ∧ ':' ∉ endpoint.segment.toList ∧
      ofSegment endpoint.segment = endpoint := by
  rcases endpoint with ⟨url⟩
  rcases writable with ⟨text, rfl, present, plusFree,
    ⟨colonFree, barFree⟩ | ⟨host, port, rfl, hostColonFree, hostBarFree, portColonFree⟩⟩
  · rw [segment_of_not_mem rfl colonFree, ofSegment_of_not_mem barFree]
    exact ⟨⟨present, plusFree⟩, colonFree, rfl⟩
  · rw [segment_eq_append rfl hostColonFree, ofSegment_append hostBarFree]
    refine ⟨⟨?_, ?_⟩, ?_, rfl⟩
    · intro empty
      simpa using congrArg String.toList empty
    · simpa using plusFree
    · simp [hostColonFree, portColonFree]

end PushEndpoint

/-! ## Plans -/

namespace SubscriptionPlan

/-- A plan that a token without colons asks for. -/
structure Writable (plan : SubscriptionPlan) : Prop where
  isId : IsPart plan.id
  colonFree : ':' ∉ plan.id.toList
  addressed : ∀ endpoint, plan.delivery.endpoint? = some endpoint → endpoint.Writable

theorem token_pull (id : String) : token ⟨id, .pull⟩ = id :=
  Text.join_singleton '+' id

theorem token_push (id : String) (endpoint : PushEndpoint) :
    token ⟨id, .push endpoint⟩ = id ++ "+" ++ endpoint.segment :=
  join_two id endpoint.segment

theorem token_pushWithDeadLetter (id : String) (endpoint : PushEndpoint) :
    token ⟨id, .pushWithDeadLetter endpoint⟩ = id ++ "+" ++ endpoint.segment ++ "+dlq" := by
  rw [append_deadLetterOption]
  exact join_three id endpoint.segment deadLetterOption

/-- A token without colons is what the plan that it asks for is written as. -/
theorem token_of_spells {token : String} {plan : SubscriptionPlan} (spells : Spells token plan)
    (free : ':' ∉ token.toList) : plan.token = token ∧ plan.Writable := by
  cases spells with
  | pull named => exact ⟨token_pull token, named, free, nofun⟩
  | push named addressed =>
      simp only [String.toList_append, List.mem_append, not_or] at free
      rw [← ofSegment_eq_endpointNamed, token_push, PushEndpoint.segment_ofSegment free.2]
      refine ⟨rfl, named, free.1.1, ?_⟩
      rintro _ ⟨⟩
      exact PushEndpoint.writable_ofSegment addressed free.2
  | pushWithDeadLetter named addressed =>
      simp only [String.toList_append, List.mem_append, not_or] at free
      rw [← ofSegment_eq_endpointNamed, token_pushWithDeadLetter,
        PushEndpoint.segment_ofSegment free.1.2]
      refine ⟨rfl, named, free.1.1.1, ?_⟩
      rintro _ ⟨⟩
      exact PushEndpoint.writable_ofSegment addressed free.1.2

/-- A plan that can be written is what the token that it is written as asks for. -/
theorem spells_token {plan : SubscriptionPlan} (writable : plan.Writable) :
    Spells plan.token plan ∧ ':' ∉ plan.token.toList := by
  rcases plan with ⟨id, _ | endpoint | endpoint⟩
  · rw [token_pull]
    exact ⟨.pull writable.isId, writable.colonFree⟩
  · rcases (writable.addressed endpoint rfl).segment with ⟨isPart, free, found⟩
    have spells := Spells.push writable.isId isPart
    rw [← ofSegment_eq_endpointNamed, found] at spells
    rw [token_push]
    exact ⟨spells, by simp [free, writable.colonFree]⟩
  · rcases (writable.addressed endpoint rfl).segment with ⟨isPart, free, found⟩
    have spells := Spells.pushWithDeadLetter writable.isId isPart
    rw [← ofSegment_eq_endpointNamed, found] at spells
    rw [token_pushWithDeadLetter]
    exact ⟨spells, by simp [free, writable.colonFree]⟩

/-! ## Tokens of values -/

/-- The tokens of a project are cut at colons. -/
theorem colon_not_mem_of_parse {value : String} {spec : ProjectSpec}
    (read : ProjectSpec.parse value = .ok spec) {token : String}
    (member : token ∈ spec.topics.flatMap (·.tokens)) : ':' ∉ token.toList := by
  rcases List.mem_flatMap.mp member with ⟨topic, topicMem, tokenMem⟩
  exact ((ProjectSpec.writable_of_parse read).pieces_free topic topicMem token
    (List.mem_cons_of_mem topic.id tokenMem)).2

/-- Reading and writing undo each other on tokens without colons and on the plans that can be
written: each of them is read as one of those, and is what it is written as.  All tokens of a
project value are such tokens, so that two of them that ask for the same are the same. -/
theorem ofToken_token_inverse :
    (∀ token plan, ':' ∉ token.toList → ofToken token = .ok plan →
        plan.token = token ∧ plan.Writable) ∧
      (∀ plan : SubscriptionPlan, plan.Writable →
        ofToken plan.token = .ok plan ∧ ':' ∉ plan.token.toList) ∧
      ∀ value spec, ProjectSpec.parse value = .ok spec →
        ∀ token ∈ spec.topics.flatMap (·.tokens), ∀ other ∈ spec.topics.flatMap (·.tokens),
          ∀ plan, ofToken token = .ok plan → ofToken other = .ok plan → token = other := by
  have written : ∀ token plan, ':' ∉ token.toList → ofToken token = .ok plan →
      plan.token = token ∧ plan.Writable :=
    fun token plan free read => token_of_spells (spells_of_ofToken read) free
  refine ⟨written, ?_, ?_⟩
  · intro plan writable
    rcases spells_token writable with ⟨spells, free⟩
    exact ⟨ofToken_of_spells spells, free⟩
  · intro value spec read token member other otherMember plan asks asksOther
    calc
      token = plan.token := (written token plan (colon_not_mem_of_parse read member) asks).1.symm
      _ = other := (written other plan (colon_not_mem_of_parse read otherMember) asksOther).1

/-- Of two bars the first one is found again, and the other one stays. -/
theorem ofToken_token_inverse_second_bar :
    let value := "p,t:r:s+h|80|x+dlq"
    let token := "s+h|80|x+dlq"
    let plan : SubscriptionPlan := ⟨"s", .pushWithDeadLetter ⟨"http://h:80|x"⟩⟩
    let spec : ProjectSpec := ⟨"p", [⟨"t", ["r", token]⟩]⟩
    ':' ∉ token.toList ∧ ofToken token = .ok plan ∧ plan.token = token ∧ plan.Writable ∧
      ofToken plan.token = .ok plan ∧ ProjectSpec.parse value = .ok spec ∧
      ∀ other ∈ spec.topics.flatMap (·.tokens), ofToken other = .ok plan → token = other := by
  intro value token plan spec
  rcases ofToken_token_inverse with ⟨written, asked, apart⟩
  have free : ':' ∉ token.toList := by decide
  have read : ofToken token = .ok plan := by decide +kernel
  have parsed : ProjectSpec.parse value = .ok spec := by decide +kernel
  rcases written token plan free read with ⟨same, writable⟩
  refine ⟨free, read, same, writable, (asked plan writable).1, parsed, ?_⟩
  intro other member asks
  exact apart value spec parsed token (by decide) other member plan read asks

/-- A colon in a token would be a second way to write the colon before a port. -/
example : ofToken "s+h:80" = ofToken "s+h|80" := by
  decide +kernel

end SubscriptionPlan

end PubSubProvisioning
