import PubSubProvisioning.Project

/-!
# The topics of a value

A value may list a topic several times, but the project that it stands for has each topic once: a
later listing takes the place of the earlier one.
-/

namespace PubSubProvisioning

namespace TopicSpec

/-- A topic that is placed changes no ID, and adds its own at the end if it is new. -/
theorem map_id_place (topic : TopicSpec) (kept : List TopicSpec) :
    (topic.place kept).map (·.id) =
      if topic.id ∈ kept.map (·.id) then kept.map (·.id) else kept.map (·.id) ++ [topic.id] := by
  induction kept with
  | nil => simp [place]
  | cons other rest inductionHypothesis =>
      rw [place]
      by_cases same : other.id = topic.id
      · simp [same]
      · rw [if_neg same, List.map_cons, inductionHypothesis]
        by_cases member : topic.id ∈ rest.map (·.id)
        · simp [member]
        · simp [member, Ne.symm same]

theorem nodup_map_id_place (topic : TopicSpec) {kept : List TopicSpec}
    (distinct : (kept.map (·.id)).Nodup) : ((topic.place kept).map (·.id)).Nodup := by
  rw [map_id_place]
  split
  · exact distinct
  · rename_i fresh
    have apart : ∀ id ∈ kept.map (·.id), ∀ last ∈ [topic.id], id ≠ last := by
      rintro id member _ last rfl
      obtain rfl : id = topic.id := by simpa using last
      exact fresh member
    exact List.nodup_append.mpr ⟨distinct, by simp, apart⟩

/-- Merging keeps one topic of each ID. -/
theorem nodup_map_id_merged (topics : List TopicSpec) : ((merged topics).map (·.id)).Nodup := by
  have keeps : ∀ kept : List TopicSpec, (kept.map (·.id)).Nodup →
      ((topics.foldl (fun kept topic => topic.place kept) kept).map (·.id)).Nodup := by
    induction topics with
    | nil =>
        intro kept distinct
        exact distinct
    | cons topic rest inductionHypothesis =>
        intro kept distinct
        exact inductionHypothesis (topic.place kept) (nodup_map_id_place topic distinct)
  exact keeps [] (by simp)

/-- A topic with a new ID is put at the end. -/
theorem place_of_not_mem {topic : TopicSpec} {kept : List TopicSpec}
    (fresh : topic.id ∉ kept.map (·.id)) : topic.place kept = kept ++ [topic] := by
  induction kept with
  | nil => rfl
  | cons other rest inductionHypothesis =>
      rw [List.map_cons, List.mem_cons, not_or] at fresh
      rw [place, if_neg (Ne.symm fresh.1), inductionHypothesis fresh.2, List.cons_append]

theorem mem_place {topic other : TopicSpec} {kept : List TopicSpec}
    (member : other ∈ topic.place kept) : other = topic ∨ other ∈ kept := by
  induction kept with
  | nil => exact .inl (by simpa [place] using member)
  | cons first rest inductionHypothesis =>
      rw [place] at member
      split at member
      · exact (List.mem_cons.mp member).imp_right (List.mem_cons_of_mem first)
      · rcases List.mem_cons.mp member with rfl | member
        · exact .inr List.mem_cons_self
        · exact (inductionHypothesis member).imp_right (List.mem_cons_of_mem first)

theorem foldl_place_of_nodup {kept topics : List TopicSpec}
    (distinct : ((kept ++ topics).map (·.id)).Nodup) :
    topics.foldl (fun kept topic => topic.place kept) kept = kept ++ topics := by
  induction topics generalizing kept with
  | nil => exact (List.append_nil kept).symm
  | cons topic rest inductionHypothesis =>
      have fresh : topic.id ∉ kept.map (·.id) := by
        intro member
        rw [List.map_append, List.nodup_append] at distinct
        exact distinct.2.2 topic.id member topic.id (by simp) rfl
      have moved : kept ++ topic :: rest = kept ++ [topic] ++ rest := by simp
      rw [moved] at distinct ⊢
      rw [List.foldl_cons, place_of_not_mem fresh]
      exact inductionHypothesis distinct

/-- Topics with different IDs stay as they are listed. -/
theorem merged_of_nodup {topics : List TopicSpec} (distinct : (topics.map (·.id)).Nodup) :
    merged topics = topics :=
  foldl_place_of_nodup distinct

/-- Merging makes no topic up. -/
theorem mem_of_mem_merged {topics : List TopicSpec} {topic : TopicSpec}
    (member : topic ∈ merged topics) : topic ∈ topics := by
  have listed : ∀ kept ∈ merged topics, kept ∈ topics := by
    apply List.foldlRecOn topics (fun kept topic => topic.place kept)
      (motive := fun kept => ∀ topic ∈ kept, topic ∈ topics)
    · exact fun topic none => absurd none List.not_mem_nil
    · intro kept listed next nextMem other otherMem
      rcases mem_place otherMem with rfl | otherMem
      · exact nextMem
      · exact listed other otherMem
  exact listed topic member

theorem place_ne_nil (topic : TopicSpec) (kept : List TopicSpec) : topic.place kept ≠ [] := by
  cases kept with
  | nil => simp [place]
  | cons other rest =>
      rw [place]
      split <;> simp

theorem merged_ne_nil {topics : List TopicSpec} (present : topics ≠ []) : merged topics ≠ [] := by
  obtain ⟨front, last, rfl⟩ := (List.eq_nil_or_concat topics).resolve_left present
  rw [List.concat_eq_append, merged, List.foldl_append]
  exact place_ne_nil last (merged front)

end TopicSpec

/-- The topics of a project that was read from a value have different IDs. -/
theorem ProjectSpec.nodup_topics_of_parse {value : String} {spec : ProjectSpec}
    (read : parse value = .ok spec) : (spec.topics.map (·.id)).Nodup := by
  rw [parse] at read
  split at read
  · contradiction
  · obtain rfl := Except.ok.inj read
    exact TopicSpec.nodup_map_id_merged _

end PubSubProvisioning
