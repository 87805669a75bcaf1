import Mathlib.Control.Monad.Basic
import Mathlib.Logic.ExistsUnique
import PubSubProvisioning.Subscription

/-!
# The grammar of subscription tokens

    token    := id | id "+" endpoint | id "+" endpoint "+dlq"
    id       := one character or more, none of them "+"
    endpoint := one character or more, none of them "+"

Reading accepts the tokens of this grammar and no others.  What keeps a token out of it are defects
of four kinds, and a token may have several at once.  They are ranked, and the token is refused for
the one that comes first.

A token is read from its parts.  So what is said of tokens is brought to the parts that they are cut
into: a defect shows in them by `HasDefect.ofParts`, and `decided` goes through their number.
-/

namespace PubSubProvisioning

namespace SubscriptionPlan

open PubSubProvisioning.Text (join split split_append split_of_not_mem)

/-! ## Tokens of the grammar -/

/-- A text that an ID or an endpoint can be. -/
structure IsPart (text : String) : Prop where
  present : text ≠ ""
  plusFree : '+' ∉ text.toList

/-- The endpoint that a text names: its first bar stands for the colon before a port. -/
def endpointNamed (text : String) : PushEndpoint :=
  ⟨"http://" ++ String.ofList (text.toList.replace '|' ':')⟩

/-- The tokens of the grammar, each with what it asks for. -/
inductive Spells : String → SubscriptionPlan → Prop where
  | pull {id : String} (named : IsPart id) : Spells id ⟨id, .pull⟩
  | push {id endpoint : String} (named : IsPart id) (addressed : IsPart endpoint) :
      Spells (id ++ "+" ++ endpoint) ⟨id, .push (endpointNamed endpoint)⟩
  | pushWithDeadLetter {id endpoint : String} (named : IsPart id) (addressed : IsPart endpoint) :
      Spells (id ++ "+" ++ endpoint ++ "+dlq") ⟨id, .pushWithDeadLetter (endpointNamed endpoint)⟩

/-! ## Defects -/

/-- What can be wrong with a token: nothing comes before its first plus sign, it has more than three
parts, its third part is not the option for dead letters, or nothing comes right behind its first
plus sign.  Each is stated without regard to the others. -/
inductive HasDefect (token : String) : Malformed → Prop where
  | emptyId (unnamed : token = "" ∨ ∃ rest, token = "+" ++ rest) :
      HasDefect token (.emptySubscription token)
  | tooManyParts (many : 3 < token.toList.count '+' + 1) :
      HasDefect token (.tooManyParts token (token.toList.count '+' + 1))
  | unknownOption {id endpoint option : String} (idFree : '+' ∉ id.toList)
      (endpointFree : '+' ∉ endpoint.toList) (optionFree : '+' ∉ option.toList)
      (third : token = id ++ "+" ++ endpoint ++ "+" ++ option ∨
        ∃ rest, token = id ++ "+" ++ endpoint ++ "+" ++ option ++ "+" ++ rest)
      (unknown : option ≠ "dlq") :
      HasDefect token (.unknownOption token option)
  | emptyEndpoint {id : String} (idFree : '+' ∉ id.toList)
      (unaddressed : token = id ++ "+" ∨ ∃ rest, token = id ++ "++" ++ rest) :
      HasDefect token (.emptyEndpoint token)

/-- The place of a defect among those that a token is refused for. -/
def defectRank : Malformed → Nat
  | .emptySubscription _ => 0
  | .tooManyParts _ _ => 1
  | .unknownOption _ _ => 2
  | _ => 3

/-- The defect that comes before all others of a token. -/
structure IsFirstDefect (token : String) (reason : Malformed) : Prop where
  found : HasDefect token reason
  first : ∀ other, HasDefect token other → defectRank reason ≤ defectRank other

/-! ## Parts -/

theorem ofSegment_eq_endpointNamed (text : String) : .ofSegment text = endpointNamed text := by
  rw [PushEndpoint.ofSegment, PushEndpoint.firstBarToColon_eq_replace]
  rfl

/-- The token is the parts that it is cut into. -/
theorem token_of_split {token : String} {parts : List String} (cut : split '+' token = parts) :
    token = join '+' parts := by
  rw [← cut, Text.join_split]

theorem join_two (id segment : String) : join '+' [id, segment] = id ++ "+" ++ segment := by
  rw [Text.join_cons (List.cons_ne_nil _ _), Text.join_singleton]
  rfl

theorem join_three (id segment option : String) :
    join '+' [id, segment, option] = id ++ "+" ++ segment ++ "+" ++ option := by
  rw [Text.join_cons (List.cons_ne_nil _ _), join_two, ← String.append_assoc, ← String.append_assoc]
  rfl

theorem split_two {id segment : String} (idFree : '+' ∉ id.toList)
    (segmentFree : '+' ∉ segment.toList) : split '+' (id ++ "+" ++ segment) = [id, segment] := by
  rw [← join_two]
  exact Text.split_join (List.cons_ne_nil _ _) (by simp [idFree, segmentFree])

theorem split_three {id segment option : String} (idFree : '+' ∉ id.toList)
    (segmentFree : '+' ∉ segment.toList) (optionFree : '+' ∉ option.toList) :
    split '+' (id ++ "+" ++ segment ++ "+" ++ option) = [id, segment, option] := by
  rw [← join_three]
  exact Text.split_join (List.cons_ne_nil _ _) (by simp [idFree, segmentFree, optionFree])

theorem split_two_plus {id : String} (idFree : '+' ∉ id.toList) (rest : String) :
    split '+' (id ++ "++" ++ rest) = id :: "" :: split '+' rest := by
  have shape : id ++ "++" ++ rest = id ++ "+" ++ ("" ++ "+" ++ rest) := by
    apply String.toList_injective
    simp
  rw [shape]
  exact (split_append idFree _).trans (congrArg _ (split_append List.not_mem_nil rest))

theorem split_three_append {id segment option : String} (idFree : '+' ∉ id.toList)
    (segmentFree : '+' ∉ segment.toList) (optionFree : '+' ∉ option.toList) (rest : String) :
    split '+' (id ++ "+" ++ segment ++ "+" ++ option ++ "+" ++ rest) =
      id :: segment :: option :: split '+' rest := by
  have shape : id ++ "+" ++ segment ++ "+" ++ option ++ "+" ++ rest =
      id ++ "+" ++ (segment ++ "+" ++ (option ++ "+" ++ rest)) := by
    apply String.toList_injective
    simp
  rw [shape]
  refine (split_append idFree _).trans (congrArg _ ?_)
  exact (split_append segmentFree _).trans (congrArg _ (split_append optionFree rest))

theorem append_deadLetterOption (text : String) : text ++ "+dlq" = text ++ "+" ++ "dlq" := by
  rw [String.append_assoc]
  rfl

/-- The same defects of the parts that a token is cut into. -/
def DefectOfParts (parts : List String) : Malformed → Prop
  | .emptySubscription _ => parts.head? = some ""
  | .tooManyParts _ _ => 3 < parts.length
  | .unknownOption _ option => parts[2]? = some option ∧ option ≠ "dlq"
  | .emptyEndpoint _ => parts[1]? = some ""
  | _ => False

theorem HasDefect.ofParts {token : String} {reason : Malformed} (defect : HasDefect token reason) :
    DefectOfParts (split '+' token) reason := by
  cases defect with
  | emptyId unnamed =>
      rcases unnamed with rfl | ⟨rest, rfl⟩
      · rfl
      · have emptyFree : '+' ∉ "".toList := List.not_mem_nil
        have cut := split_append emptyFree rest
        rw [String.empty_append] at cut
        exact congrArg List.head? cut
  | tooManyParts many =>
      rwa [DefectOfParts, Text.length_split]
  | unknownOption idFree endpointFree optionFree third unknown =>
      rw [DefectOfParts]
      refine ⟨?_, unknown⟩
      rcases third with rfl | ⟨rest, rfl⟩
      · rw [split_three idFree endpointFree optionFree]
        rfl
      · rw [split_three_append idFree endpointFree optionFree]
        rfl
  | emptyEndpoint idFree unaddressed =>
      rw [DefectOfParts]
      rcases unaddressed with rfl | ⟨rest, rfl⟩
      · rw [← String.append_empty (s := _ ++ "+"), split_two idFree (by simp)]
        rfl
      · rw [split_two_plus idFree]
        rfl

/-! ## Reading -/

/-- The tokens of the grammar are read as what they ask for. -/
theorem ofToken_of_spells {token : String} {plan : SubscriptionPlan} (spells : Spells token plan) :
    ofToken token = .ok plan := by
  rw [ofToken]
  cases spells with
  | pull named =>
      rw [split_of_not_mem named.plusFree, ofParts, if_neg named.present]
  | push named addressed =>
      rw [split_two named.plusFree addressed.plusFree, ofParts, if_neg named.present]
      simp only [endpointOf, if_neg addressed.present, ofSegment_eq_endpointNamed]
      rfl
  | pushWithDeadLetter named addressed =>
      rw [append_deadLetterOption, split_three named.plusFree addressed.plusFree (by decide), ofParts,
        if_neg named.present]
      simp only [endpointOf, if_neg addressed.present, ofSegment_eq_endpointNamed]
      rfl

section Parts

variable {token id segment option : String} {options : List String} {reason : Malformed}

/-- A defect comes first if it does so among those of the parts. -/
theorem isFirstDefect_of_split {parts : List String} (cut : split '+' token = parts)
    (found : HasDefect token reason)
    (first : ∀ other, DefectOfParts parts other → defectRank reason ≤ defectRank other) :
    IsFirstDefect token reason :=
  ⟨found, fun other defect => first other (cut ▸ defect.ofParts)⟩

theorem isFirstDefect_of_unnamed (cut : split '+' token = "" :: options) :
    IsFirstDefect token (.emptySubscription token) := by
  refine isFirstDefect_of_split cut (.emptyId ?_) fun _ _ => Nat.zero_le _
  have whole := token_of_split cut
  cases options with
  | nil => exact .inl (by simpa using whole)
  | cons next others =>
      rw [Text.join_cons (List.cons_ne_nil next others), String.empty_append] at whole
      exact .inr ⟨_, whole⟩

theorem isFirstDefect_of_crowded (cut : split '+' token = id :: options) (named : id ≠ "")
    (many : 2 < options.length) :
    IsFirstDefect token (.tooManyParts token (options.length + 1)) := by
  have count := Text.length_split '+' token
  rw [cut, List.length_cons] at count
  apply isFirstDefect_of_split cut
  · rw [count]
    exact .tooManyParts (by omega)
  · intro other defect
    cases other with
    | emptySubscription _ => exact absurd (Option.some.inj defect) named
    | _ => simp [defectRank]

theorem isFirstDefect_of_unknown (cut : split '+' token = [id, segment, option]) (named : id ≠ "")
    (unknown : option ≠ "dlq") : IsFirstDefect token (.unknownOption token option) := by
  have free : ∀ part ∈ split '+' token, '+' ∉ part.toList := fun _ => Text.not_mem_of_mem_split
  simp only [cut, List.forall_mem_cons] at free
  apply isFirstDefect_of_split cut
  · refine .unknownOption free.1 free.2.1 free.2.2.1 (.inl ?_) unknown
    rw [token_of_split cut, join_three]
  · intro other defect
    cases other with
    | emptySubscription _ => exact absurd (Option.some.inj defect) named
    | tooManyParts _ _ => exact absurd defect (by simp [DefectOfParts])
    | _ => simp [defectRank]

theorem isFirstDefect_of_unaddressed (cut : split '+' token = id :: "" :: options)
    (named : id ≠ "") (known : options = [] ∨ options = ["dlq"]) :
    IsFirstDefect token (.emptyEndpoint token) := by
  have free : '+' ∉ id.toList := Text.not_mem_of_mem_split (cut ▸ List.mem_cons_self)
  apply isFirstDefect_of_split cut
  · refine .emptyEndpoint free ?_
    rw [token_of_split cut]
    rcases known with rfl | rfl
    · rw [join_two, String.append_empty]
      exact .inl rfl
    · refine .inr ⟨"dlq", ?_⟩
      rw [join_three]
      apply String.toList_injective
      simp
  · intro other defect
    cases other with
    | emptySubscription _ => exact absurd (Option.some.inj defect) named
    | tooManyParts _ _ => rcases known with rfl | rfl <;> exact absurd defect (by simp [DefectOfParts])
    | unknownOption _ option =>
        rcases known with rfl | rfl
        · exact absurd defect.1 (by simp)
        · exact absurd (Option.some.inj defect.1).symm defect.2
    | _ => simp [defectRank]

/-- Reading a token ends as it should: the token is of the grammar and read as such, or it is
refused for the defect that comes first. -/
def Decided (token : String) : Prop :=
  (∃ plan, ofToken token = .ok plan ∧ Spells token plan) ∨
    ∃ reason, ofToken token = .error reason ∧ IsFirstDefect token reason

theorem Spells.decided {plan : SubscriptionPlan} (spells : Spells token plan) : Decided token :=
  .inl ⟨plan, ofToken_of_spells spells, spells⟩

theorem isPart_of_split {parts : List String} (cut : split '+' token = parts) {part : String}
    (member : part ∈ parts) (present : part ≠ "") : IsPart part :=
  ⟨present, Text.not_mem_of_mem_split (cut ▸ member)⟩

theorem decided_of_two (cut : split '+' token = [id, segment]) (named : id ≠ "") :
    Decided token := by
  by_cases addressed : segment = ""
  · subst addressed
    refine .inr ⟨_, ?_, isFirstDefect_of_unaddressed cut named (.inl rfl)⟩
    rw [ofToken, cut]
    exact if_neg named
  · rw [token_of_split cut, join_two]
    exact (Spells.push (isPart_of_split cut (by simp) named)
      (isPart_of_split cut (by simp) addressed)).decided

theorem decided_of_three (cut : split '+' token = [id, segment, option]) (named : id ≠ "") :
    Decided token := by
  by_cases known : option = "dlq"
  · subst known
    by_cases addressed : segment = ""
    · subst addressed
      refine .inr ⟨_, ?_, isFirstDefect_of_unaddressed cut named (.inr rfl)⟩
      rw [ofToken, cut]
      exact if_neg named
    · rw [token_of_split cut, join_three, ← append_deadLetterOption]
      exact (Spells.pushWithDeadLetter (isPart_of_split cut (by simp) named)
        (isPart_of_split cut (by simp) addressed)).decided
  · refine .inr ⟨_, ?_, isFirstDefect_of_unknown cut named known⟩
    rw [ofToken, cut]
    exact (if_neg named).trans (if_neg known)

end Parts

/-- The parts of a token decide: there are one, two or three of them, or too many. -/
theorem decided (token : String) : Decided token := by
  rcases cut : split '+' token with _ | ⟨id, options⟩
  · exact absurd cut (Text.split_ne_nil '+' token)
  by_cases named : id = ""
  · subst named
    exact .inr ⟨_, by rw [ofToken, cut]; rfl, isFirstDefect_of_unnamed cut⟩
  rcases options with _ | ⟨segment, _ | ⟨option, _ | ⟨further, others⟩⟩⟩
  · rw [token_of_split cut, Text.join_singleton]
    exact (Spells.pull (isPart_of_split cut List.mem_cons_self named)).decided
  · exact decided_of_two cut named
  · exact decided_of_three cut named
  · refine .inr ⟨_, ?_, isFirstDefect_of_crowded cut named (by simp)⟩
    rw [ofToken, cut]
    exact if_neg named

/-- No other token is read. -/
theorem spells_of_ofToken {token : String} {plan : SubscriptionPlan}
    (read : ofToken token = .ok plan) : Spells token plan := by
  rcases decided token with ⟨other, readOther, spells⟩ | ⟨reason, refused, -⟩
  · rwa [Except.ok.inj (read.symm.trans readOther)]
  · rw [refused] at read
    contradiction

/-! ## Defects keep tokens out of the grammar -/

/-- The parts of a token of the grammar have no defect. -/
theorem Spells.not_defectOfParts {token : String} {plan : SubscriptionPlan}
    (spells : Spells token plan) (reason : Malformed) :
    ¬DefectOfParts (split '+' token) reason := by
  cases spells with
  | pull named =>
      rw [split_of_not_mem named.plusFree]
      cases reason <;> simp [DefectOfParts, named.present]
  | push named addressed =>
      rw [split_two named.plusFree addressed.plusFree]
      cases reason <;> simp [DefectOfParts, named.present, addressed.present]
  | pushWithDeadLetter named addressed =>
      rw [append_deadLetterOption, split_three named.plusFree addressed.plusFree (by decide)]
      cases reason with
      | unknownOption _ option =>
          rintro ⟨third, unknown⟩
          exact unknown (Option.some.inj third).symm
      | _ => simp [DefectOfParts, named.present, addressed.present]

/-- A token with a defect is none of the grammar. -/
theorem HasDefect.not_spells {token : String} {reason : Malformed} (defect : HasDefect token reason)
    (plan : SubscriptionPlan) : ¬Spells token plan :=
  fun spells => spells.not_defectOfParts reason defect.ofParts

/-- A token has one defect of each kind at most. -/
theorem HasDefect.eq_of_rank {token : String} {reason other : Malformed}
    (defect : HasDefect token reason) (again : HasDefect token other)
    (same : defectRank reason = defectRank other) : reason = other := by
  have parts := defect.ofParts
  have parts' := again.ofParts
  cases defect with
  | emptyId _ =>
      cases again with
      | emptyId _ => rfl
      | _ => simp [defectRank] at same
  | tooManyParts _ =>
      cases again with
      | tooManyParts _ => rfl
      | _ => simp [defectRank] at same
  | unknownOption _ _ _ _ _ =>
      cases again with
      | unknownOption _ _ _ _ _ =>
          -- The option is the one thing that a reason does not take from the token as a whole.
          rw [Option.some.inj (parts.1.symm.trans parts'.1)]
      | _ => simp [defectRank] at same
  | emptyEndpoint _ _ =>
      cases again with
      | emptyEndpoint _ _ => rfl
      | _ => simp [defectRank] at same

/-- At most one defect comes first. -/
theorem IsFirstDefect.unique {token : String} {reason other : Malformed}
    (first : IsFirstDefect token reason) (again : IsFirstDefect token other) : reason = other := by
  apply first.found.eq_of_rank again.found
  exact Nat.le_antisymm (first.first other again.found) (again.first reason first.found)

/-- A token is refused for its first defect, -/
theorem isFirstDefect_of_ofToken {token : String} {reason : Malformed}
    (refused : ofToken token = .error reason) : IsFirstDefect token reason := by
  rcases decided token with ⟨plan, read, -⟩ | ⟨other, refusedOther, first⟩
  · rw [read] at refused
    contradiction
  · rwa [Except.error.inj (refused.symm.trans refusedOther)]

/-- and a token with a defect is refused. -/
theorem ofToken_of_isFirstDefect {token : String} {reason : Malformed}
    (first : IsFirstDefect token reason) : ofToken token = .error reason := by
  rcases decided token with ⟨plan, -, spells⟩ | ⟨other, refused, firstOther⟩
  · exact absurd spells (first.found.not_spells plan)
  · rw [refused, first.unique firstOther]

/-- Reading accepts exactly the tokens of the grammar, and yields what they ask for.  It refuses
every other token, for exactly one reason: the defect that comes first. -/
theorem ofToken_decides_grammar (token : String) :
    (∀ plan, ofToken token = .ok plan ↔ Spells token plan) ∧
      (∀ reason, ofToken token = .error reason ↔ IsFirstDefect token reason) ∧
      (((∃! plan, Spells token plan) ∧ ¬∃ reason, HasDefect token reason) ∨
        ((¬∃ plan, Spells token plan) ∧ ∃! reason, IsFirstDefect token reason)) := by
  refine ⟨fun plan => ⟨spells_of_ofToken, ofToken_of_spells⟩,
    fun reason => ⟨isFirstDefect_of_ofToken, ofToken_of_isFirstDefect⟩, ?_⟩
  rcases decided token with ⟨plan, read, spells⟩ | ⟨reason, -, first⟩
  · refine .inl ⟨⟨plan, spells, ?_⟩, ?_⟩
    · intro other spellsOther
      exact Except.ok.inj ((ofToken_of_spells spellsOther).symm.trans read)
    · rintro ⟨reason, defect⟩
      exact defect.not_spells plan spells
  · refine .inr ⟨?_, reason, first, fun other again => again.unique first⟩
    rintro ⟨plan, spells⟩
    exact first.found.not_spells plan spells

/-- Where a defect is mended, the next one shows. -/
example :
    ofToken "++x+y" = .error (.emptySubscription "++x+y") ∧
      ofToken "s++x+y" = .error (.tooManyParts "s++x+y" 4) ∧
      ofToken "s++x" = .error (.unknownOption "s++x" "x") ∧
      ofToken "s++dlq" = .error (.emptyEndpoint "s++dlq") ∧
      ofToken "s+h|80|x+dlq" = .ok ⟨"s", .pushWithDeadLetter ⟨"http://h:80|x"⟩⟩ := by
  decide +kernel

end SubscriptionPlan

end PubSubProvisioning
