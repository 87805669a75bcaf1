import Mathlib.Data.List.Forall2
import PubSubProvisioning.Proofs.JsonGrammar

/-!
# Records of JSON

What a value says about the fields of a record, without regard to how they are looked up.  A field
may be absent, which stands for the empty text and for zero.  Otherwise it has to be a text or the
numeral of a number that is small enough, and nothing else will do.
-/

namespace PubSubProvisioning.Json

variable {members : List (Option String × Value)} {keys : List String} {least : Nat}
  {fields : List (Option Value)} {field : Option Value}

/-! ## Records -/

/-- None of the members has the key. -/
def Lacks (members : List (Option String × Value)) (key : String) : Prop :=
  ∀ member ∈ members, member.1 ≠ some key

/-- What members say about a key: nothing, or one value. -/
inductive IsField : List (Option String × Value) → String → Option Value → Prop where
  | absent {members : List (Option String × Value)} {key : String} (missing : Lacks members key) :
      IsField members key none
  | present {before after : List (Option String × Value)} {key : String} {value : Value}
      (notBefore : Lacks before key) (notAfter : Lacks after key) :
      IsField (before ++ (some key, value) :: after) key (some value)

/-- The fields of a record.  The keys of an object all spell texts, and may be others than those of
the record.  In an array the fields stand in order, and only those after the first `least` may be
absent. -/
inductive IsRecord (keys : List String) (least : Nat) : Value → List (Option Value) → Prop where
  | object {members : List (Option String × Value)} {fields : List (Option Value)}
      (named : ∀ member ∈ members, member.1 ≠ none)
      (given : List.Forall₂ (IsField members) keys fields) :
      IsRecord keys least (.object members) fields
  | array {elements : List Value} (enough : least ≤ elements.length)
      (known : elements.length ≤ keys.length) :
      IsRecord keys least (.array elements)
        (elements.map some ++ List.replicate (keys.length - elements.length) none)

/-- The text that a field stands for. -/
inductive IsText : Option Value → String → Prop where
  | absent : IsText none ""
  | present (text : String) : IsText (some (.string (some text))) text

/-- The number below a bound that a field stands for. -/
inductive IsNumber (bound : Nat) : Option Value → Nat → Prop where
  | absent : IsNumber bound none 0
  | present {number : Nat} (small : number < bound) :
      IsNumber bound (some (.number (toString number))) number

/-! ## Looking fields up -/

theorem mapM_eq_some_iff {α β : Type} {step : α → Option β} {list : List α} {results : List β} :
    list.mapM step = some results ↔
      List.Forall₂ (fun item result => step item = some result) list results := by
  induction list generalizing results with
  | nil => rw [List.mapM_nil, List.forall₂_nil_left_iff, Option.pure_def, Option.some_inj, eq_comm]
  | cons item others inductionHypothesis =>
      rw [List.mapM_cons]
      constructor
      · intro found
        obtain ⟨result, first, readOthers⟩ := Option.bind_eq_some_iff.mp found
        obtain ⟨rest, foundOthers, same⟩ := Option.bind_eq_some_iff.mp readOthers
        obtain rfl := Option.some.inj same
        exact .cons first (inductionHypothesis.mp foundOthers)
      · rintro (_ | ⟨first, others⟩)
        rw [first, inductionHypothesis.mpr others]
        rfl

/-- Members whose keys spell texts, under these. -/
def named (members : List (String × Value)) : List (Option String × Value) :=
  members.map (Prod.map some id)

theorem keyed?_eq_some_iff {known : List (String × Value)} :
    keyed? members = some known ↔ members = named known := by
  rw [keyed?, mapM_eq_some_iff]
  induction members generalizing known with
  | nil => rw [List.forall₂_nil_left_iff, eq_comm (a := []), named, List.map_eq_nil_iff]
  | cons member others inductionHypothesis =>
      obtain ⟨key, value⟩ := member
      constructor
      · rintro (_ | ⟨first, found⟩)
        obtain ⟨text, rfl, rfl⟩ := Option.map_eq_some_iff.mp first
        rw [inductionHypothesis.mp found]
        rfl
      · intro same
        cases known with
        | nil => contradiction
        | cons first rest =>
            obtain ⟨head, tail⟩ := List.cons.inj same
            obtain ⟨rfl, rfl⟩ := Prod.mk.inj head
            exact .cons rfl (inductionHypothesis.mpr tail)

theorem exists_eq_named_iff :
    (∃ known, members = named known) ↔ ∀ member ∈ members, member.1 ≠ none := by
  induction members with
  | nil => exact ⟨fun _ => nofun, fun _ => ⟨[], rfl⟩⟩
  | cons member others inductionHypothesis =>
      rw [List.forall_mem_cons, ← inductionHypothesis]
      constructor
      · rintro ⟨known, same⟩
        cases known with
        | nil => contradiction
        | cons first rest =>
            obtain ⟨rfl, tail⟩ := List.cons.inj same
            exact ⟨Option.some_ne_none _, rest, tail⟩
      · rintro ⟨isText, known, rfl⟩
        obtain ⟨text, shape⟩ := Option.ne_none_iff_exists'.mp isText
        exact ⟨(text, member.2) :: known, congrArg (· :: named known) (Prod.ext shape rfl)⟩

theorem lacks_named_iff {known : List (String × Value)} {key : String} :
    Lacks (named known) key ↔ known.filter (·.1 = key) = [] := by
  rw [Lacks, named, List.forall_mem_map, List.filter_eq_nil_iff]
  simp

theorem valueOf?_eq_some_iff {known : List (String × Value)} {key : String} :
    valueOf? known key = some field ↔ IsField (named known) key field := by
  constructor
  · intro found
    unfold valueOf? at found
    split at found
    next missing =>
      obtain rfl := Option.some.inj found
      exact .absent (lacks_named_iff.mpr missing)
    next other value single =>
      obtain rfl := Option.some.inj found
      obtain ⟨before, after, rfl, notBefore, same, notAfter⟩ := List.filter_eq_cons_iff.mp single
      obtain rfl : other = key := of_decide_eq_true same
      rw [named, List.map_append, List.map_cons]
      exact .present (lacks_named_iff.mpr (List.filter_eq_nil_iff.mpr notBefore))
        (lacks_named_iff.mpr notAfter)
    next => contradiction
  · intro isField
    generalize shape : named known = members at isField
    cases isField with
    | absent missing =>
        rw [← shape, lacks_named_iff] at missing
        rw [valueOf?, missing]
    | @present before after _ value notBefore notAfter =>
        obtain ⟨front, others, rfl, rfl, split⟩ := List.map_eq_append_iff.mp shape
        obtain ⟨⟨text, found⟩, back, rfl, same, rfl⟩ := List.map_eq_cons_iff.mp split
        obtain ⟨sameKey, rfl⟩ := Prod.mk.inj same
        obtain rfl : text = key := Option.some.inj sameKey
        have single : (front ++ (text, found) :: back).filter (·.1 = text) = [(text, found)] := by
          rw [List.filter_append, lacks_named_iff.mp notBefore, List.nil_append,
            List.filter_cons_of_pos (by simp), lacks_named_iff.mp notAfter]
        rw [valueOf?, single]
        rfl

/-- The fields that are looked up are those of the record. -/
theorem fields?_eq_some_iff {value : Value} :
    fields? keys least value = some fields ↔ IsRecord keys least value fields := by
  constructor
  · intro found
    unfold fields? at found
    split at found
    next members =>
      obtain ⟨known, readKeys, readFields⟩ := Option.bind_eq_some_iff.mp found
      obtain rfl := keyed?_eq_some_iff.mp readKeys
      refine .object (exists_eq_named_iff.mp ⟨known, rfl⟩) ?_
      exact (mapM_eq_some_iff.mp readFields).imp fun _ _ => valueOf?_eq_some_iff.mp
    next elements =>
      split at found
      next fits =>
        obtain rfl := Option.some.inj found
        exact .array fits.1 fits.2
      next => contradiction
    next => contradiction
  · rintro (⟨isText, given⟩ | ⟨enough, known⟩)
    · obtain ⟨known, rfl⟩ := exists_eq_named_iff.mpr isText
      rw [fields?, keyed?_eq_some_iff.mpr rfl]
      exact mapM_eq_some_iff.mpr (given.imp fun _ _ => valueOf?_eq_some_iff.mpr)
    · rw [fields?, if_pos ⟨enough, known⟩]

theorem IsRecord.unique {record : Value} {others : List (Option Value)}
    (isRecord : IsRecord keys least record fields) (isOther : IsRecord keys least record others) :
    fields = others :=
  Option.some.inj
    ((fields?_eq_some_iff.mpr isRecord).symm.trans (fields?_eq_some_iff.mpr isOther))

theorem IsRecord.ne_number {record : Value} (isRecord : IsRecord keys least record fields)
    (numeral : String) : record ≠ .number numeral := by
  cases isRecord <;> exact nofun

theorem IsField.mem_parts {key : String} {value : Value} (isField : IsField members key (some value)) :
    value ∈ (Value.object members).parts := by
  cases isField with
  | present _ _ => exact List.mem_map.mpr ⟨_, List.mem_append_right _ List.mem_cons_self, rfl⟩

/-- The values of the fields stand in the record. -/
theorem IsRecord.mem_parts {record value : Value} (isRecord : IsRecord keys least record fields)
    (member : some value ∈ fields) : value ∈ record.parts := by
  cases isRecord with
  | object named given =>
      clear named
      induction given with
      | nil => contradiction
      | cons isField _ inductionHypothesis =>
          rcases List.mem_cons.mp member with rfl | others
          · exact isField.mem_parts
          · exact inductionHypothesis others
  | array enough known =>
      rcases List.mem_append.mp member with given | absent
      · obtain ⟨part, here, same⟩ := List.mem_map.mp given
        obtain rfl := Option.some.inj same
        exact here
      · exact absurd (List.eq_of_mem_replicate absent) (Option.some_ne_none value)

/-! ## Fields -/

theorem textField?_eq_some_iff {text : String} :
    textField? field = some text ↔ IsText field text := by
  constructor
  · intro found
    unfold textField? at found
    split at found
    next =>
      obtain rfl := Option.some.inj found
      exact .absent
    next =>
      obtain rfl := found
      exact .present text
    next => contradiction
  · rintro (_ | _) <;> rfl

theorem digitsNumber_toString (number : Nat) :
    (toString number).toList.all Char.isDigit ∧
      Text.digitsNumber 10 (toString number).toList = number := by
  rw [Nat.toString_eq_repr, Nat.toList_repr]
  exact ⟨List.all_eq_true.mpr (Text.isDecimal_toDigits number).digits,
    Text.digitsNumber_toDigits (by decide) (by decide) number⟩

theorem IsNumber.natField?_eq {bound number : Nat} (isNumber : IsNumber bound field number) :
    natField? bound field = some number := by
  cases isNumber with
  | absent => rfl
  | present small =>
      rw [natField?, if_pos (digitsNumber_toString number).1]
      simp only [(digitsNumber_toString number).2, small, if_true]

/-- A field that stands in an input is taken for the number of its numeral. -/
theorem natField?_eq_some_iff {bound number : Nat} (spelled : ∀ value ∈ field, value.IsSpelled) :
    natField? bound field = some number ↔ IsNumber bound field number := by
  constructor
  · intro found
    unfold natField? at found
    split at found
    next =>
      obtain rfl := Option.some.inj found
      exact .absent
    next numeral =>
      split at found
      next digits =>
        obtain ⟨value, shape⟩ := (spelled _ rfl).isNumeral.exists_eq_toDigits (List.all_eq_true.mp digits)
        obtain rfl : numeral = toString value := by
          rw [Nat.toString_eq_repr, ← String.toList_inj, Nat.toList_repr, shape]
        rw [(digitsNumber_toString value).2] at found
        dsimp only at found
        split at found
        next small =>
          obtain rfl := Option.some.inj found
          exact .present small
        next => contradiction
      next => contradiction
    next => contradiction
  · exact IsNumber.natField?_eq

end PubSubProvisioning.Json
