import Mathlib.Data.List.Induction
import PubSubProvisioning.Proofs.BatchRun
import PubSubProvisioning.Proofs.ProjectValue
import PubSubProvisioning.Rehearsal

/-!
# Topics that are listed again

A topic of a project stands where a value lists it first and has the tokens that the value lists it
with last.  Each listing in between and the last one itself is reported, as it takes the place of
the ones before it.
-/

namespace PubSubProvisioning

/-- The items of a list in their order, each with the items before it. -/
def withEarlier {α : Type} : List α → List (List α × α)
  | [] => []
  | item :: rest =>
      ([], item) :: (withEarlier rest).map fun (earlier, later) => (item :: earlier, later)

theorem withEarlier_append_singleton {α : Type} (items : List α) (last : α) :
    withEarlier (items ++ [last]) = withEarlier items ++ [(items, last)] := by
  induction items with
  | nil => rfl
  | cons item rest inductionHypothesis => simp [withEarlier, inductionHypothesis]

namespace TopicSpec

/-- The listings of topics that have not been listed before. -/
def firstListings (listed : List TopicSpec) : List TopicSpec :=
  ((withEarlier listed).filter fun (earlier, topic) => topic.id ∉ earlier.map (·.id)).map (·.2)

/-- The listings of topics that have been listed before. -/
def laterListings (listed : List TopicSpec) : List TopicSpec :=
  ((withEarlier listed).filter fun (earlier, topic) => topic.id ∈ earlier.map (·.id)).map (·.2)

/-- A listing is the last one of its topic if no other listing with its ID comes behind it. -/
def IsLastListing (listed : List TopicSpec) (topic : TopicSpec) : Prop :=
  ∃ front back, listed = front ++ topic :: back ∧ topic.id ∉ back.map (·.id)

variable {listed kept : List TopicSpec} {topic other : TopicSpec}

/-! ## Places -/

/-- A listing is a first one unless its ID is listed before, -/
theorem firstListings_append_singleton (listed : List TopicSpec) (topic : TopicSpec) :
    firstListings (listed ++ [topic]) =
      firstListings listed ++ if topic.id ∈ listed.map (·.id) then [] else [topic] := by
  rw [firstListings, withEarlier_append_singleton, List.filter_append, List.map_append,
    firstListings]
  split <;> rename_i again <;> simp only [again, List.filter_cons, List.filter_nil] <;> rfl

/-- and then it is a later one. -/
theorem laterListings_append_singleton (listed : List TopicSpec) (topic : TopicSpec) :
    laterListings (listed ++ [topic]) =
      laterListings listed ++ if topic.id ∈ listed.map (·.id) then [topic] else [] := by
  rw [laterListings, withEarlier_append_singleton, List.filter_append, List.map_append,
    laterListings]
  split <;> rename_i again <;> simp only [again, List.filter_cons, List.filter_nil] <;> rfl

theorem merged_append_singleton (listed : List TopicSpec) (topic : TopicSpec) :
    merged (listed ++ [topic]) = topic.place (merged listed) := by
  simp [merged]

/-- Merging loses no ID. -/
theorem mem_map_id_merged {id : String} :
    id ∈ (merged listed).map (·.id) ↔ id ∈ listed.map (·.id) := by
  induction listed using List.reverseRecOn with
  | nil => simp [merged]
  | append_singleton front last inductionHypothesis =>
      rw [merged_append_singleton, map_id_place, List.map_append, List.mem_append,
        ← inductionHypothesis]
      split
      · rename_i again
        constructor
        · exact .inl
        · rintro (member | isLast)
          · exact member
          · obtain rfl : id = last.id := by simpa using isLast
            exact again
      · simp

/-- Topics stand where they are listed first. -/
theorem map_id_merged (listed : List TopicSpec) :
    (merged listed).map (·.id) = (firstListings listed).map (·.id) := by
  induction listed using List.reverseRecOn with
  | nil => rfl
  | append_singleton front last inductionHypothesis =>
      rw [merged_append_singleton, map_id_place, firstListings_append_singleton, List.map_append,
        ← inductionHypothesis]
      simp only [mem_map_id_merged]
      split <;> simp

/-! ## Tokens -/

/-- A topic that is placed takes away the one with its ID. -/
theorem mem_place_of_nodup (distinct : (kept.map (·.id)).Nodup)
    (member : other ∈ topic.place kept) :
    other = topic ∨ other ∈ kept ∧ topic.id ≠ other.id := by
  induction kept with
  | nil => exact .inl (by simpa [place] using member)
  | cons first rest inductionHypothesis =>
      obtain ⟨fresh, distinctRest⟩ := List.nodup_cons.mp distinct
      rw [place] at member
      split at member
      · rename_i same
        rcases List.mem_cons.mp member with here | later
        · exact .inl here
        · right
          constructor
          · exact List.mem_cons_of_mem first later
          · intro again
            exact fresh (List.mem_map.mpr ⟨other, later, (same.trans again).symm⟩)
      · rename_i different
        rcases List.mem_cons.mp member with rfl | later
        · exact .inr ⟨List.mem_cons_self, Ne.symm different⟩
        · exact (inductionHypothesis distinctRest later).imp_right
            (And.imp_left (List.mem_cons_of_mem first))

/-- Topics have the tokens that they are listed with last. -/
theorem isLastListing_of_mem_merged (member : topic ∈ merged listed) :
    IsLastListing listed topic := by
  induction listed using List.reverseRecOn with
  | nil => contradiction
  | append_singleton front last inductionHypothesis =>
      rw [merged_append_singleton] at member
      rcases mem_place_of_nodup (nodup_map_id_merged front) member with rfl | ⟨kept, different⟩
      · exact ⟨front, [], rfl, List.not_mem_nil⟩
      · obtain ⟨before, behind, rfl, unlisted⟩ := inductionHypothesis kept
        refine ⟨before, behind ++ [last], by simp, ?_⟩
        simpa [unlisted] using Ne.symm different

/-! ## Reports -/

/-- With IDs seen before, the last listing is reported if its ID is one of them or listed before. -/
theorem repeated_append_singleton (seen : List String) (listed : List TopicSpec)
    (last : TopicSpec) :
    repeated seen (listed ++ [last]) =
      repeated seen listed ++
        if last.id ∈ seen ∨ last.id ∈ listed.map (·.id) then [last.id] else [] := by
  induction listed generalizing seen with
  | nil => simp [repeated]
  | cons first rest inductionHypothesis =>
      rw [List.cons_append, repeated, repeated]
      by_cases again : first.id ∈ seen
      · have within : last.id ∈ seen ∨ last.id = first.id ∨ last.id ∈ rest.map (·.id) ↔
            last.id ∈ seen ∨ last.id ∈ rest.map (·.id) := by
          rw [or_left_comm, or_iff_right_of_imp]
          intro same
          exact .inl (same ▸ again)
        simp only [List.contains_iff_mem, again, if_true, inductionHypothesis, List.map_cons,
          List.mem_cons, within, List.cons_append]
      · simp only [List.contains_iff_mem, again, if_false, inductionHypothesis, List.map_cons,
          List.mem_cons, or_assoc, or_left_comm]

/-- What is reported are the later listings. -/
theorem repeated_eq (listed : List TopicSpec) :
    repeated [] listed = (laterListings listed).map (·.id) := by
  induction listed using List.reverseRecOn with
  | nil => rfl
  | append_singleton front last inductionHypothesis =>
      rw [repeated_append_singleton, laterListings_append_singleton, List.map_append,
        inductionHypothesis]
      split <;> simp_all

end TopicSpec

/-! ## Whole values -/

/-- A review reports nothing of the listing of topics. -/
theorem component_of_mem_reviewTokens {topic : String} {seen tokens : List String} {event : Event}
    (member : event ∈ (reviewTokens topic seen tokens).events) : event.component = .validation := by
  induction tokens generalizing seen with
  | nil => contradiction
  | cons token rest inductionHypothesis =>
      rw [reviewTokens] at member
      split at member
      · contradiction
      · rename_i plan _
        rw [Review.andThen_events rfl] at member
        rcases List.mem_append.mp member with own | later
        · obtain ⟨id, delivery⟩ := plan
          simp only [SubscriptionPlan.remarks, List.mem_append] at own
          rcases own with repeated | planned
          · split at repeated
            · obtain rfl := List.mem_singleton.mp repeated
              rfl
            · contradiction
          · split at planned
            · obtain rfl := List.mem_singleton.mp planned
              rfl
            · contradiction
        · exact inductionHypothesis later

theorem component_of_mem_reviewTopics {topics : List TopicSpec} {event : Event}
    (member : event ∈ (reviewTopics topics).events) : event.component = .validation := by
  induction topics with
  | nil => contradiction
  | cons topic rest inductionHypothesis =>
      rw [reviewTopics, Review.andThen] at member
      split at member
      · exact component_of_mem_reviewTokens member
      · rcases List.mem_append.mp member with own | later
        · exact component_of_mem_reviewTokens own
        · exact inductionHypothesis later

namespace ProjectSpec

/-- What is reported of the listing of topics, among all that is remarked on a value. -/
theorem filter_component_remarks (value : String) :
    (remarks value).filter (·.component = .parser) =
      (repeatedTopics value).map .topicRepeated := by
  have own : ∀ event ∈ (repeatedTopics value).map Event.topicRepeated,
      event.component = .parser := by
    intro event member
    obtain ⟨id, -, rfl⟩ := List.mem_map.mp member
    rfl
  rw [remarks, List.filter_append, List.filter_eq_self.mpr (by simpa using own),
    List.append_right_eq_self, List.filter_eq_nil_iff]
  intro event member
  split at member
  · simp [component_of_mem_reviewTopics member]
  · contradiction

/-- A value with a comma stands for one topic of each ID that it lists, in the order of first
listings and with the tokens of last listings.  Whatever the service, each listing of a topic listed
before is reported, in the order of listings and as a detail. -/
theorem parse_merges_listings {value : String} (comma : ',' ∈ value.toList) :
    ∃ spec, parse value = .ok spec ∧
      spec.topics.map (·.id) = (TopicSpec.firstListings (listedTopics value)).map (·.id) ∧
      (∀ topic ∈ spec.topics, TopicSpec.IsLastListing (listedTopics value) topic) ∧
      ∀ (σ : Type) (backend : Backend σ) (state : σ),
        let held := (ProjectVariable.accepted value).hold backend state
        let reports := (Entry.events held.transcript).filter (·.component = .parser)
        reports = (TopicSpec.laterListings (listedTopics value)).map (.topicRepeated ·.id) ∧
          ∀ report ∈ reports, report.level = .debug := by
  refine ⟨_, parse_of_listed (listedTopics_ne_nil comma), TopicSpec.map_id_merged _, ?_, ?_⟩
  · intro topic member
    exact TopicSpec.isLastListing_of_mem_merged member
  · intro σ backend state held reports
    have reported : reports =
        (TopicSpec.laterListings (listedTopics value)).map (.topicRepeated ·.id) := by
      calc
        reports = (remarks value).filter (·.component = .parser) := by
          simp only [reports, held, ProjectVariable.hold_accepted, Entry.events_map_noted]
        _ = (repeatedTopics value).map .topicRepeated := filter_component_remarks value
        _ = (TopicSpec.laterListings (listedTopics value)).map (.topicRepeated ·.id) := by
          rw [repeatedTopics, TopicSpec.repeated_eq, List.map_map]
          rfl
    refine ⟨reported, ?_⟩
    rw [reported]
    intro report member
    obtain ⟨topic, -, rfl⟩ := List.mem_map.mp member
    rfl

/-- A topic without an ID is listed twice and another one three times, around a topic of its own. -/
theorem parse_merges_interleaved_listings :
    let value := "p,a:x,:y,a:z,b,,a:x:w"
    let held := (ProjectVariable.accepted value).hold Rehearsal.backend {}
    ',' ∈ value.toList ∧
      parse value = .ok ⟨"p", [⟨"a", ["x", "w"]⟩, ⟨"", []⟩, ⟨"b", []⟩]⟩ ∧
      TopicSpec.IsLastListing (listedTopics value) ⟨"", []⟩ ∧
      (Entry.events held.transcript).filter (·.component = .parser) =
        [.topicRepeated "a", .topicRepeated "", .topicRepeated "a"] := by
  intro value held
  have comma : ',' ∈ value.toList := by decide
  have concrete : parse value = .ok ⟨"p", [⟨"a", ["x", "w"]⟩, ⟨"", []⟩, ⟨"b", []⟩]⟩ := by
    decide +kernel
  obtain ⟨spec, read, -, last, reports⟩ := parse_merges_listings comma
  obtain rfl := Except.ok.inj (read.symm.trans concrete)
  refine ⟨comma, concrete, last ⟨"", []⟩ (by simp), ?_⟩
  rw [(reports Rehearsal Rehearsal.backend {}).1]
  decide +kernel

end ProjectSpec

end PubSubProvisioning
