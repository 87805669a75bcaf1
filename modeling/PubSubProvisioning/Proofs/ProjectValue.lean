import Mathlib.Control.Monad.Basic
import PubSubProvisioning.Proofs.MergedTopics

/-!
# Values and the projects that they stand for

A value is read by cutting it at commas and its fields at colons, and a project is written by
joining in the same way.  Reading finds a project again from what was written, as long as its texts
are free of the separators and its topics differ; and those are the projects that reading yields.
Writing finds the value again, letter by letter, as long as the value lists no topic twice.
-/

namespace PubSubProvisioning

open PubSubProvisioning.Text (split join)

/-! ## Fields -/

namespace TopicSpec

/-- The ID and the tokens of a topic are the pieces of its field. -/
theorem pieces_ofField (field : String) :
    (ofField field).id :: (ofField field).tokens = split ':' field := by
  rw [ofField]
  cases shape : split ':' field with
  | nil => exact absurd shape (Text.split_ne_nil ':' field)
  | cons id tokens => rfl

/-- Reading a field loses nothing. -/
@[simp]
theorem field_ofField (text : String) : (ofField text).field = text := by
  rw [field, pieces_ofField, Text.join_split]

/-- A topic whose texts are free of colons is found again. -/
theorem ofField_field {topic : TopicSpec}
    (free : ∀ piece ∈ topic.id :: topic.tokens, ':' ∉ piece.toList) :
    ofField topic.field = topic := by
  rw [ofField, field, Text.split_join (List.cons_ne_nil _ _) free]

/-- A field without commas comes from texts without commas. -/
theorem comma_not_mem_field {topic : TopicSpec}
    (free : ∀ piece ∈ topic.id :: topic.tokens, ',' ∉ piece.toList) :
    ',' ∉ topic.field.toList := by
  intro member
  rcases Text.mem_join member with colon | ⟨piece, pieceMem, inside⟩
  · contradiction
  · exact free piece pieceMem inside

end TopicSpec

namespace ProjectSpec

/-! ## Projects that can be written -/

/-- A project that a value can stand for: it has topics, no two with one ID, and its texts do not
hold the separators that they would be cut at. -/
structure Writable (spec : ProjectSpec) : Prop where
  hasTopic : spec.topics ≠ []
  distinct : (spec.topics.map (·.id)).Nodup
  id_free : ',' ∉ spec.id.toList
  pieces_free : ∀ topic ∈ spec.topics, ∀ piece ∈ topic.id :: topic.tokens,
    ',' ∉ piece.toList ∧ ':' ∉ piece.toList

/-- The pieces that a project is written from are found again. -/
theorem split_render {spec : ProjectSpec} (writable : spec.Writable) :
    split ',' spec.render = spec.id :: spec.topics.map TopicSpec.field := by
  apply Text.split_join (List.cons_ne_nil _ _)
  rintro piece member
  rcases List.mem_cons.mp member with rfl | member
  · exact writable.id_free
  · obtain ⟨topic, topicMem, rfl⟩ := List.mem_map.mp member
    exact TopicSpec.comma_not_mem_field fun piece pieceMem =>
      (writable.pieces_free topic topicMem piece pieceMem).1

theorem listedTopics_render {spec : ProjectSpec} (writable : spec.Writable) :
    listedTopics spec.render = spec.topics := by
  rw [listedTopics, split_render writable, List.tail_cons, List.map_map]
  have found : ∀ topic ∈ spec.topics, (TopicSpec.ofField ∘ TopicSpec.field) topic = topic := by
    intro topic member
    exact TopicSpec.ofField_field fun piece pieceMem =>
      (writable.pieces_free topic member piece pieceMem).2
  rw [List.map_congr_left found, List.map_id']

/-! ## Values that can be read -/

/-- A value lists topics exactly if it has a comma. -/
theorem listedTopics_eq_nil_iff {value : String} :
    listedTopics value = [] ↔ ',' ∉ value.toList := by
  rw [listedTopics, List.map_eq_nil_iff, Text.tail_split_eq_nil_iff]

theorem listedTopics_ne_nil {value : String} (comma : ',' ∈ value.toList) :
    listedTopics value ≠ [] :=
  fun unlisted => listedTopics_eq_nil_iff.mp unlisted comma

/-- A value with topics is read as its project and its topics merged. -/
theorem parse_of_listed {value : String} (listed : listedTopics value ≠ []) :
    parse value =
      .ok ⟨(split ',' value).headD "", TopicSpec.merged (listedTopics value)⟩ := by
  rw [parse]
  split
  · contradiction
  · rfl

/-- A value cannot be read exactly if it has no comma. -/
theorem parse_eq_error_iff {value : String} :
    (∃ reason, parse value = .error reason) ↔ ',' ∉ value.toList := by
  rw [← listedTopics_eq_nil_iff]
  by_cases unlisted : listedTopics value = []
  · have refused : parse value = .error .noTopics := by rw [parse, unlisted]
    exact ⟨fun _ => unlisted, fun _ => ⟨.noTopics, refused⟩⟩
  · rw [parse_of_listed unlisted]
    simp [unlisted]

/-- A value is the project and the fields of its topics as they are listed. -/
theorem join_listedTopics (value : String) :
    join ',' ((split ',' value).headD "" :: (listedTopics value).map TopicSpec.field) = value := by
  have fields : (listedTopics value).map TopicSpec.field = (split ',' value).tail := by
    simp [listedTopics, Function.comp_def]
  rw [fields]
  cases shape : split ',' value with
  | nil => exact absurd shape (Text.split_ne_nil ',' value)
  | cons id others =>
      rw [List.headD_cons, List.tail_cons, ← shape, Text.join_split]

theorem listedTopics_ne_nil_of_parse {value : String} {spec : ProjectSpec}
    (read : parse value = .ok spec) : listedTopics value ≠ [] := by
  intro unlisted
  rw [parse, unlisted] at read
  contradiction

/-- What is read from a value can be written. -/
theorem writable_of_parse {value : String} {spec : ProjectSpec} (read : parse value = .ok spec) :
    spec.Writable := by
  have distinct := nodup_topics_of_parse read
  have listed := listedTopics_ne_nil_of_parse read
  rw [parse_of_listed listed] at read
  obtain rfl := Except.ok.inj read
  constructor
  case hasTopic => exact TopicSpec.merged_ne_nil listed
  case distinct => exact distinct
  case id_free =>
    cases shape : split ',' value with
    | nil => exact absurd shape (Text.split_ne_nil ',' value)
    | cons id others =>
        have first : id ∈ split ',' value := by simp [shape]
        exact Text.not_mem_of_mem_split first
  case pieces_free =>
    intro topic member piece pieceMem
    obtain ⟨field, fieldMem, rfl⟩ := List.mem_map.mp (TopicSpec.mem_of_mem_merged member)
    rw [TopicSpec.pieces_ofField] at pieceMem
    have commaFree : ',' ∉ field.toList := Text.not_mem_of_mem_split (List.mem_of_mem_tail fieldMem)
    constructor
    · intro inside
      exact commaFree (Text.mem_of_mem_split pieceMem inside)
    · exact Text.not_mem_of_mem_split pieceMem

/-! ## Reading and writing -/

theorem parse_render {spec : ProjectSpec} (writable : spec.Writable) :
    parse spec.render = .ok spec := by
  have topics := listedTopics_render writable
  have listed : listedTopics spec.render ≠ [] := by
    rw [topics]
    exact writable.hasTopic
  rw [parse_of_listed listed, topics, TopicSpec.merged_of_nodup writable.distinct,
    split_render writable, List.headD_cons]

/-- What is read from a value is written as that value again unless the value lists a topic
twice. -/
theorem render_eq_iff_of_parse {value : String} {spec : ProjectSpec}
    (read : parse value = .ok spec) :
    spec.render = value ↔ ((listedTopics value).map (·.id)).Nodup := by
  have writable := writable_of_parse read
  constructor
  · intro same
    rw [← same, listedTopics_render writable]
    exact writable.distinct
  · intro distinct
    have listed := listedTopics_ne_nil_of_parse read
    rw [parse_of_listed listed, TopicSpec.merged_of_nodup distinct] at read
    obtain rfl := Except.ok.inj read
    exact join_listedTopics value

/-- Reading and writing undo each other.  The projects that can be read are those that can be
written, and each is read from what it is written as.  Only a value without a comma cannot be read,
and any other one is written again from what is read exactly if it lists no topic twice. -/
theorem parse_render_inverse :
    (∀ spec : ProjectSpec, spec.Writable → parse spec.render = .ok spec) ∧
      (∀ value spec, parse value = .ok spec → spec.Writable) ∧
      (∀ value : String, ',' ∈ value.toList → ∃ spec, parse value = .ok spec ∧
        (spec.render = value ↔ ((listedTopics value).map (·.id)).Nodup)) ∧
      ∀ value, (∃ reason, parse value = .error reason) ↔ ',' ∉ value.toList := by
  refine ⟨?_, ?_, ?_, ?_⟩
  · intro spec writable
    exact parse_render writable
  · intro value spec read
    exact writable_of_parse read
  · intro value comma
    have read := parse_of_listed (listedTopics_ne_nil comma)
    exact ⟨_, read, render_eq_iff_of_parse read⟩
  · intro value
    exact parse_eq_error_iff

/-- A topic without an ID and a token without any text are written and read like others, and the
topic that is listed twice is what keeps a value from being written again. -/
theorem parse_render_empty_pieces :
    let spec : ProjectSpec := ⟨"p", [⟨"a", ["s+h|80", ""]⟩, ⟨"", []⟩]⟩
    let value := "p,a:old,,a:s+h|80:"
    spec.Writable ∧ parse spec.render = .ok spec ∧ ',' ∈ value.toList ∧
      parse value = .ok spec ∧ spec.render ≠ value := by
  intro spec value
  obtain ⟨reads, writes, again, -⟩ := parse_render_inverse
  have comma : ',' ∈ value.toList := by decide
  have read : parse value = .ok spec := by decide +kernel
  have writable := writes value spec read
  obtain ⟨other, readOther, same⟩ := again value comma
  obtain rfl := Except.ok.inj (read.symm.trans readOther)
  refine ⟨writable, reads spec writable, comma, read, ?_⟩
  rw [ne_eq, same]
  decide +kernel

end ProjectSpec

end PubSubProvisioning
