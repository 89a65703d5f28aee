import ClusterAudit.Condition

/-!
Conditions that are set once and again. A condition that already carries an update is left as it is,
whatever the time, so that setting the same conditions a second time changes nothing. Types are
never lost: new ones join the others at the end.
-/

namespace ClusterAudit.Condition

variable {conditions : List Condition} {update : ConditionUpdate} {updates : List ConditionUpdate}
  {policy : UpdatePolicy} {type : ConditionType} {now later : Instant}

/-- A condition has the type, status, reason and message of an update. -/
def carries (condition : Condition) (update : ConditionUpdate) : Prop :=
  condition.type = update.type ∧ condition.status = update.status ∧
    condition.reason = update.reason ∧ condition.message = update.message

/-! ## One update -/

theorem updated_carries (now : Instant) {existing : Condition}
    (sameType : existing.type = update.type) :
    (existing.updated update .ifReasonOrMessageChange now).carries update := by
  rw [updated]
  by_cases otherStatus : existing.status = update.status
  · have sameStatus : (existing.status != update.status) = false := by simp [otherStatus]
    simp only [sameStatus, Bool.false_eq_true, if_false, takesUpdate]
    by_cases sameText : existing.reason = update.reason ∧ existing.message = update.message
    · simp only [sameText.1, sameText.2, bne_self_eq_false, Bool.or_self, Bool.false_eq_true,
        if_false]
      exact ⟨sameType, otherStatus, sameText.1, sameText.2⟩
    · have newText : (existing.reason != update.reason || existing.message != update.message) =
          true := by
        simp only [Bool.or_eq_true, bne_iff_ne]
        by_cases sameReason : existing.reason = update.reason
        · exact Or.inr fun sameMessage => sameText ⟨sameReason, sameMessage⟩
        · exact Or.inl sameReason
      simp only [newText, if_true]
      exact ⟨sameType, otherStatus, rfl, rfl⟩
  · have newStatus : (existing.status != update.status) = true := bne_iff_ne.mpr otherStatus
    simp only [newStatus, if_true]
    exact ⟨rfl, rfl, rfl, rfl⟩

theorem updated_eq_self {existing : Condition} (carried : existing.carries update) :
    existing.updated update .ifReasonOrMessageChange now = existing := by
  obtain ⟨_, sameStatus, sameReason, sameMessage⟩ := carried
  simp [updated, takesUpdate, sameStatus, sameReason, sameMessage]

theorem find?_cons_self {condition : Condition} {rest : List Condition}
    (sameType : condition.type = type) : find? (condition :: rest) type = some condition := by
  simp [find?, sameType]

theorem find?_cons_of_ne {condition : Condition} {rest : List Condition}
    (different : condition.type ≠ type) : find? (condition :: rest) type = find? rest type := by
  simp [find?, different]

theorem type_of_find? {condition : Condition} (found : find? conditions type = some condition) :
    condition.type = type :=
  beq_iff_eq.mp (List.find?_some found :)

theorem type_updated {existing : Condition} (sameType : existing.type = update.type) :
    (existing.updated update policy now).type = update.type := by
  rw [updated]
  split
  · rfl
  · split
    · exact sameType
    · exact sameType

/-- The entry of a type once it has been set, given the entry before, if there was one. -/
def next (entry : Option Condition) (update : ConditionUpdate) (policy : UpdatePolicy)
    (now : Instant) : Condition :=
  match entry with
  | none => fresh update now
  | some existing => existing.updated update policy now

theorem find?_set_self :
    find? (set conditions update policy now) update.type =
      some (next (find? conditions update.type) update policy now) := by
  induction conditions with
  | nil => exact find?_cons_self rfl
  | cons head rest inductionHypothesis =>
      rw [set]
      by_cases sameType : head.type = update.type
      · simp only [beq_iff_eq.mpr sameType, if_true]
        rw [find?_cons_self (type_updated sameType), find?_cons_self sameType]
        rfl
      · simp only [beq_eq_false_iff_ne.mpr sameType, Bool.false_eq_true, if_false]
        rw [find?_cons_of_ne sameType, find?_cons_of_ne sameType]
        exact inductionHypothesis

theorem find?_set_of_ne (different : type ≠ update.type) :
    find? (set conditions update policy now) type = find? conditions type := by
  induction conditions with
  | nil =>
      have other : (fresh update now).type ≠ type := fun same => different same.symm
      rw [set, find?_cons_of_ne other]
  | cons head rest inductionHypothesis =>
      rw [set]
      by_cases sameType : head.type = update.type
      · have headOther : head.type ≠ type := fun same => different (same.symm.trans sameType)
        have newOther : (head.updated update policy now).type ≠ type := by
          intro same
          exact different (same.symm.trans (type_updated sameType))
        simp only [beq_iff_eq.mpr sameType, if_true]
        rw [find?_cons_of_ne newOther, find?_cons_of_ne headOther]
      · simp only [beq_eq_false_iff_ne.mpr sameType, Bool.false_eq_true, if_false]
        by_cases isHead : head.type = type
        · rw [find?_cons_self isHead, find?_cons_self isHead]
        · rw [find?_cons_of_ne isHead, find?_cons_of_ne isHead, inductionHypothesis]

theorem exists_carries_set :
    ∃ condition, find? (set conditions update .ifReasonOrMessageChange now) update.type =
      some condition ∧ condition.carries update := by
  refine ⟨_, find?_set_self, ?_⟩
  cases found : find? conditions update.type with
  | none => exact ⟨rfl, rfl, rfl, rfl⟩
  | some existing => exact updated_carries now (type_of_find? found)

theorem set_eq_self {condition : Condition}
    (found : find? conditions update.type = some condition) (carried : condition.carries update) :
    set conditions update .ifReasonOrMessageChange now = conditions := by
  induction conditions with
  | nil => cases found
  | cons head rest inductionHypothesis =>
      rw [set]
      by_cases sameType : head.type = update.type
      · rw [find?_cons_self sameType] at found
        cases found
        simp only [beq_iff_eq.mpr sameType, if_true, updated_eq_self carried]
      · rw [find?_cons_of_ne sameType] at found
        simp only [beq_eq_false_iff_ne.mpr sameType, Bool.false_eq_true, if_false,
          inductionHypothesis found]

/-! ## All updates of a pass -/

theorem applyUpdates_cons :
    applyUpdates conditions (update :: updates) now =
      applyUpdates (set conditions update .ifReasonOrMessageChange now) updates now := rfl

theorem find?_applyUpdates_of_notMem (absent : type ∉ updates.map ConditionUpdate.type) :
    find? (applyUpdates conditions updates now) type = find? conditions type := by
  induction updates generalizing conditions with
  | nil => rfl
  | cons first rest inductionHypothesis =>
      rw [List.map_cons, List.mem_cons, not_or] at absent
      rw [applyUpdates_cons, inductionHypothesis absent.2, find?_set_of_ne absent.1]

/-- After updates of different types, each of them is carried. -/
theorem exists_carries_applyUpdates (conditions : List Condition) (now : Instant)
    (different : (updates.map ConditionUpdate.type).Nodup) (member : update ∈ updates) :
    ∃ condition, find? (applyUpdates conditions updates now) update.type = some condition ∧
      condition.carries update := by
  induction updates generalizing conditions with
  | nil => cases member
  | cons first rest inductionHypothesis =>
      obtain ⟨firstOnly, restDifferent⟩ := List.nodup_cons.mp different
      rw [applyUpdates_cons]
      rcases List.mem_cons.mp member with isFirst | isLater
      · rw [isFirst, find?_applyUpdates_of_notMem firstOnly]
        exact exists_carries_set
      · exact inductionHypothesis _ restDifferent isLater

theorem applyUpdates_eq_self
    (carried : ∀ update ∈ updates, ∃ condition,
      find? conditions update.type = some condition ∧ condition.carries update) :
    applyUpdates conditions updates now = conditions := by
  induction updates with
  | nil => rfl
  | cons first rest inductionHypothesis =>
      obtain ⟨condition, found, firstCarried⟩ := carried first List.mem_cons_self
      rw [applyUpdates_cons, set_eq_self found firstCarried]
      apply inductionHypothesis
      intro update member
      exact carried update (List.mem_cons_of_mem first member)

/-- Updates of different types change nothing exactly if each of them is carried already. -/
theorem applyUpdates_eq_self_iff (different : (updates.map ConditionUpdate.type).Nodup) :
    applyUpdates conditions updates now = conditions ↔
      ∀ update ∈ updates, ∃ condition,
        find? conditions update.type = some condition ∧ condition.carries update := by
  constructor
  · intro kept update member
    have carried := exists_carries_applyUpdates conditions now different member
    rwa [kept] at carried
  · exact applyUpdates_eq_self

/-- Setting the same conditions again, at any time, changes nothing. -/
theorem applyUpdates_applyUpdates (different : (updates.map ConditionUpdate.type).Nodup) :
    applyUpdates (applyUpdates conditions updates now) updates later =
      applyUpdates conditions updates now := by
  apply applyUpdates_eq_self
  intro update member
  exact exists_carries_applyUpdates conditions now different member

/-! ## Types -/

/-- The types of conditions, in their order. -/
def types (conditions : List Condition) : List ConditionType :=
  conditions.map Condition.type

theorem isSome_find?_iff : (find? conditions type).isSome = true ↔ type ∈ types conditions := by
  simp [find?, types]

/-- Where types are different, each entry is found by its type. -/
theorem find?_of_mem {entry : Condition}
    (different : (types conditions).Nodup) (member : entry ∈ conditions) :
    find? conditions entry.type = some entry := by
  induction conditions with
  | nil => cases member
  | cons head rest inductionHypothesis =>
      obtain ⟨headOnly, restDifferent⟩ := List.nodup_cons.mp different
      rcases List.mem_cons.mp member with rfl | later
      · exact find?_cons_self rfl
      · have otherType : head.type ≠ entry.type := by
          intro same
          exact headOnly (same ▸ List.mem_map_of_mem later)
        rw [find?_cons_of_ne otherType]
        exact inductionHypothesis restDifferent later

/-- Setting a condition appends its type, unless it is there. -/
theorem types_set :
    types (set conditions update policy now) =
      if update.type ∈ types conditions then types conditions
      else types conditions ++ [update.type] := by
  induction conditions with
  | nil => rfl
  | cons head rest inductionHypothesis =>
      rw [set]
      by_cases sameType : head.type = update.type
      · simp [types, sameType, type_updated sameType]
      · have otherType : update.type ≠ head.type := fun same => sameType same.symm
        simp only [beq_eq_false_iff_ne.mpr sameType, Bool.false_eq_true, if_false]
        simp only [types] at inductionHypothesis
        by_cases present : update.type ∈ rest.map Condition.type
        · simp [types, inductionHypothesis, present]
        · simp [types, inductionHypothesis, present, otherType]

/-- Types only ever join at the end. -/
theorem types_prefix_applyUpdates (conditions : List Condition) (updates : List ConditionUpdate)
    (now : Instant) : types conditions <+: types (applyUpdates conditions updates now) := by
  induction updates generalizing conditions with
  | nil => exact List.prefix_refl _
  | cons first rest inductionHypothesis =>
      have joined : types conditions <+:
          types (set conditions first .ifReasonOrMessageChange now) := by
        rw [types_set]
        split
        · exact List.prefix_refl _
        · exact List.prefix_append _ _
      exact joined.trans (inductionHypothesis _)

theorem nodup_types_set (different : (types conditions).Nodup) :
    (types (set conditions update policy now)).Nodup := by
  rw [types_set]
  split
  · exact different
  · rename_i isNew
    refine List.nodup_append.mpr ⟨different, List.nodup_cons.mpr ⟨nofun, List.nodup_nil⟩, ?_⟩
    intro type member appended inAppended same
    rw [List.mem_singleton.mp inAppended] at same
    exact isNew (same ▸ member)

theorem nodup_types_applyUpdates (updates : List ConditionUpdate) (now : Instant)
    (different : (types conditions).Nodup) :
    (types (applyUpdates conditions updates now)).Nodup := by
  induction updates generalizing conditions with
  | nil => exact different
  | cons first rest inductionHypothesis => exact inductionHypothesis (nodup_types_set different)

theorem mem_types_applyUpdates_iff :
    type ∈ types (applyUpdates conditions updates now) ↔
      type ∈ types conditions ∨ type ∈ updates.map ConditionUpdate.type := by
  induction updates generalizing conditions with
  | nil => simp [applyUpdates]
  | cons first rest inductionHypothesis =>
      have joined : type ∈ types (set conditions first .ifReasonOrMessageChange now) ↔
          type ∈ types conditions ∨ type = first.type := by
        rw [types_set]
        split
        · rename_i present
          constructor
          · exact Or.inl
          · rintro (before | rfl)
            · exact before
            · exact present
        · simp
      rw [applyUpdates_cons, inductionHypothesis, joined, List.map_cons, List.mem_cons, or_assoc]

/-- A type that no update is of has reported after the updates if it had before. -/
theorem isSome_find?_applyUpdates_iff :
    (find? (applyUpdates conditions updates now) type).isSome = true ↔
      (find? conditions type).isSome = true ∨ type ∈ updates.map ConditionUpdate.type := by
  rw [isSome_find?_iff, isSome_find?_iff, mem_types_applyUpdates_iff]

end ClusterAudit.Condition
