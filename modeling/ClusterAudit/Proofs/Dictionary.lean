import ClusterAudit.Dictionary

/-!
What lookups find in keyed tables. Two tables that answer every lookup alike are equal, so that a
table is known by its lookups. Readings of lists, which succeed item by item, are told here too.
-/

namespace ClusterAudit

/-! ## Lists -/

section Lists

variable {Item Value : Type} {read : Item → Option Value} {items : List Item}
  {values : List Value}

/-- A list is read if each of its items is. -/
theorem mapM_eq_some_iff : items.mapM read = some values ↔ items.map read = values.map some := by
  induction items generalizing values with
  | nil => cases values <;> simp
  | cons item rest inductionHypothesis =>
      rw [List.mapM_cons]
      cases first : read item with
      | none => cases values <;> simp [first]
      | some value =>
          cases later : rest.mapM read with
          | none =>
              have never : ∀ others : List Value, rest.map read ≠ others.map some := by
                intro others same
                rw [inductionHypothesis.mpr same] at later
                cases later
              cases values with
              | nil => simp
              | cons head others => simp [first, never others]
          | some others =>
              have same := inductionHypothesis.mp later
              cases values with
              | nil => simp
              | cons head tail => simp [first, same, List.map_inj_right]

/-- Where a reading succeeds, so does one that shows a part of what it reads. -/
theorem mapM_eq_some_map {Part : Type} {readPart : Item → Option Part} {part : Value → Part}
    (reads : items.mapM read = some values)
    (shows : ∀ item value, read item = some value → readPart item = some (part value)) :
    items.mapM readPart = some (values.map part) := by
  have each := mapM_eq_some_iff.mp reads
  apply mapM_eq_some_iff.mpr
  clear reads
  induction items generalizing values with
  | nil =>
      obtain rfl : values = [] := by simpa using each.symm
      rfl
  | cons item rest inductionHypothesis =>
      obtain ⟨value, later, rfl⟩ : ∃ value later, values = value :: later := by
        cases values with
        | nil => cases each
        | cons value later => exact ⟨value, later, rfl⟩
      obtain ⟨first, others⟩ := List.cons_eq_cons.mp each
      simp only [List.map_cons, shows item value first, inductionHypothesis others]

theorem exists_of_mem_of_mapM (reads : items.mapM read = some values) {item : Item}
    (member : item ∈ items) : ∃ value ∈ values, read item = some value := by
  have image : read item ∈ values.map some := by
    rw [← mapM_eq_some_iff.mp reads]
    exact List.mem_map_of_mem member
  obtain ⟨value, present, same⟩ := List.mem_map.mp image
  exact ⟨value, present, same.symm⟩

theorem exists_of_mem_values_of_mapM (reads : items.mapM read = some values) {value : Value}
    (member : value ∈ values) : ∃ item ∈ items, read item = some value := by
  have image : some value ∈ items.map read := by
    rw [mapM_eq_some_iff.mp reads]
    exact List.mem_map_of_mem member
  exact List.mem_map.mp image

theorem mapM_eq_filterMap (reads : ∀ item ∈ items, ∃ value, read item = some value) :
    items.mapM read = some (items.filterMap read) := by
  induction items with
  | nil => rfl
  | cons item rest inductionHypothesis =>
      obtain ⟨value, first⟩ := reads item List.mem_cons_self
      have later := inductionHypothesis fun other member =>
        reads other (List.mem_cons_of_mem item member)
      rw [List.mapM_cons, later, List.filterMap_cons, first]
      rfl

/-- Fewer items pass a test if no other item passes it than before, and one does not any more. -/
theorem countP_lt_countP {before after : Item → Bool}
    (still : ∀ item ∈ items, after item = true → before item = true) {item : Item}
    (member : item ∈ items) (passed : before item = true) (fails : after item = false) :
    items.countP after < items.countP before := by
  obtain ⟨left, right, rfl⟩ := List.append_of_mem member
  have leftLess : left.countP after ≤ left.countP before := by
    apply List.countP_mono_left
    intro other inLeft
    exact still other (List.mem_append_left _ inLeft)
  have rightLess : right.countP after ≤ right.countP before := by
    apply List.countP_mono_left
    intro other inRight
    exact still other (List.mem_append_right _ (List.mem_cons_of_mem item inRight))
  rw [List.countP_append, List.countP_append, List.countP_cons, List.countP_cons, passed, fails]
  simp only [if_true, Bool.false_eq_true, if_false]
  omega

end Lists

variable {Key Value : Type}

/-! ## Entries -/

section Lookup

variable [BEq Key] [LawfulBEq Key]

theorem lookup_cons_of_ne {key present : Key} {value : Value} {rest : List (Key × Value)}
    (different : key ≠ present) :
    ((present, value) :: rest).lookup key = rest.lookup key := by
  rw [List.lookup_cons, beq_false_of_ne different]

theorem lookup_filter_fst (entries : List (Key × Value)) (key : Key) (test : Key → Bool) :
    (entries.filter fun entry => test entry.1).lookup key =
      if test key then entries.lookup key else none := by
  induction entries with
  | nil => simp
  | cons head rest inductionHypothesis =>
      obtain ⟨present, old⟩ := head
      by_cases same : key = present
      · subst same
        cases kept : test key with
        | true => simp [kept]
        | false => simpa [List.filter_cons, kept] using inductionHypothesis
      · rw [lookup_cons_of_ne same, ← inductionHypothesis]
        cases kept : test present with
        | true => simp only [List.filter_cons, kept, if_true, lookup_cons_of_ne same]
        | false => simp [kept]

end Lookup

variable [Ord Key] [BEq Key] [LawfulBEq Key]

section Entries

variable [Std.LawfulEqOrd Key] {key other : Key} {value : Value} {entries : List (Key × Value)}

theorem lookup_insertEntry_self :
    (insertEntry key value entries).lookup key = some value := by
  induction entries with
  | nil => simp [insertEntry]
  | cons head rest inductionHypothesis =>
      obtain ⟨present, old⟩ := head
      cases order : compare key present with
      | lt => simp [insertEntry, order]
      | eq => simp [insertEntry, order]
      | gt =>
          have different : key ≠ present := by
            intro same
            simp [same, Std.ReflOrd.compare_self] at order
          simp only [insertEntry, order]
          rw [lookup_cons_of_ne different, inductionHypothesis]

theorem lookup_insertEntry_of_ne (different : other ≠ key) :
    (insertEntry key value entries).lookup other = entries.lookup other := by
  induction entries with
  | nil => exact lookup_cons_of_ne different
  | cons head rest inductionHypothesis =>
      obtain ⟨present, old⟩ := head
      cases order : compare key present with
      | lt =>
          simp only [insertEntry, order]
          rw [lookup_cons_of_ne different]
      | eq =>
          have same : key = present := Std.LawfulEqOrd.eq_of_compare order
          subst same
          simp only [insertEntry, order]
          rw [lookup_cons_of_ne different, lookup_cons_of_ne different]
      | gt =>
          simp only [insertEntry, order, List.lookup_cons, inductionHypothesis]

omit [BEq Key] [LawfulBEq Key] in
/-- A key that a test passes over, whatever its value, does not count. -/
theorem countP_insertEntry_of_false {test : Key × Value → Bool}
    (passedOver : ∀ value, test (key, value) = false) :
    (insertEntry key value entries).countP test = entries.countP test := by
  induction entries with
  | nil => simp [insertEntry, passedOver]
  | cons head rest inductionHypothesis =>
      obtain ⟨present, old⟩ := head
      cases order : compare key present with
      | lt => simp [insertEntry, order, List.countP_cons, passedOver]
      | eq =>
          have same : key = present := Std.LawfulEqOrd.eq_of_compare order
          subst same
          simp [insertEntry, passedOver]
      | gt => simp [insertEntry, order, List.countP_cons, inductionHypothesis]

end Entries

/-- Keys in increasing order stand only once, so that every entry is found by its key. -/
theorem lookup_eq_some_iff_mem [Std.ReflOrd Key] {entries : List (Key × Value)}
    (increase : KeysIncrease entries) {key : Key} {value : Value} :
    entries.lookup key = some value ↔ (key, value) ∈ entries := by
  induction entries with
  | nil => simp
  | cons head rest inductionHypothesis =>
      obtain ⟨present, old⟩ := head
      have first := (List.pairwise_cons.mp increase).1
      have increaseRest := (List.pairwise_cons.mp increase).2
      by_cases same : key = present
      · subst same
        have notLater : (key, value) ∉ rest := by
          intro later
          have before := first (key, value) later
          simp [Std.ReflOrd.compare_self] at before
        simp [notLater, eq_comm]
      · rw [lookup_cons_of_ne same, inductionHypothesis increaseRest]
        simp [same]

omit [BEq Key] [LawfulBEq Key] in
/-- Entries in increasing order of their keys are known by what they hold. -/
theorem eq_of_mem_iff [Std.TransOrd Key] {left right : List (Key × Value)}
    (leftIncrease : KeysIncrease left) (rightIncrease : KeysIncrease right)
    (sameMembers : ∀ entry, entry ∈ left ↔ entry ∈ right) : left = right := by
  induction left generalizing right with
  | nil =>
      cases right with
      | nil => rfl
      | cons head rest => simpa using (sameMembers head).mpr List.mem_cons_self
  | cons first leftRest inductionHypothesis =>
      obtain ⟨leftFirst, leftIncreaseRest⟩ := List.pairwise_cons.mp leftIncrease
      cases right with
      | nil => simpa using (sameMembers first).mp List.mem_cons_self
      | cons head rightRest =>
          obtain ⟨rightFirst, rightIncreaseRest⟩ := List.pairwise_cons.mp rightIncrease
          have sameHead : first = head := by
            rcases List.mem_cons.mp ((sameMembers first).mp List.mem_cons_self) with same | later
            · exact same
            · rcases List.mem_cons.mp ((sameMembers head).mpr List.mem_cons_self) with
                same | laterHead
              · exact same.symm
              · have forwards := rightFirst first later
                have backwards := leftFirst head laterHead
                rw [Std.OrientedCmp.gt_iff_lt.mpr forwards] at backwards
                cases backwards
          subst sameHead
          have absentLeft : first ∉ leftRest := by
            intro member
            have before := leftFirst first member
            simp [Std.ReflOrd.compare_self] at before
          have absentRight : first ∉ rightRest := by
            intro member
            have before := rightFirst first member
            simp [Std.ReflOrd.compare_self] at before
          have sameRest : ∀ entry, entry ∈ leftRest ↔ entry ∈ rightRest := by
            intro entry
            have whole := sameMembers entry
            by_cases isFirst : entry = first
            · subst isFirst
              simp [absentLeft, absentRight]
            · simpa [isFirst] using whole
          rw [inductionHypothesis leftIncreaseRest rightIncreaseRest sameRest]

omit [BEq Key] [LawfulBEq Key] in
/-- A key beyond all others is put at the end. -/
theorem insertEntry_eq_append [Std.OrientedOrd Key] {entries : List (Key × Value)} {key : Key}
    {value : Value} (beyond : ∀ entry ∈ entries, compare entry.1 key = .lt) :
    insertEntry key value entries = entries ++ [(key, value)] := by
  induction entries with
  | nil => rfl
  | cons head rest inductionHypothesis =>
      obtain ⟨present, old⟩ := head
      obtain ⟨first, later⟩ := List.forall_mem_cons.mp beyond
      have order : compare key present = .gt := Std.OrientedCmp.gt_iff_lt.mpr first
      simp only [insertEntry, order, inductionHypothesis later, List.cons_append]

/-! ## Tables -/

namespace Dictionary

omit [BEq Key] [LawfulBEq Key] in
/-- A table is made again from its entries. -/
theorem ofList_entries [Std.TransOrd Key] (table : Dictionary Key Value) :
    ofList table.entries = table := by
  -- The entries are put in from the first to the last, each of them beyond those before it.
  have inserted : ∀ (later : List (Key × Value)) (made : Dictionary Key Value),
      KeysIncrease (made.entries ++ later) →
        (later.foldl (fun table entry => table.insert entry.1 entry.2) made).entries =
          made.entries ++ later := by
    intro later
    induction later with
    | nil => simp
    | cons entry rest inductionHypothesis =>
        intro made increase
        have beyond : ∀ other ∈ made.entries, compare other.1 entry.1 = .lt := by
          intro other member
          exact (List.pairwise_append.mp increase).2.2 other member entry List.mem_cons_self
        have appended : (made.insert entry.1 entry.2).entries = made.entries ++ [entry] :=
          insertEntry_eq_append beyond
        have whole : (made.insert entry.1 entry.2).entries ++ rest =
            made.entries ++ entry :: rest := by
          rw [appended, List.append_assoc, List.singleton_append]
        rw [List.foldl_cons, inductionHypothesis _ (whole ▸ increase), whole]
  obtain ⟨entries, increase⟩ := table
  have same := inserted entries (empty : Dictionary Key Value) increase
  rw [ofList]
  generalize entries.foldl _ (empty : Dictionary Key Value) = made at same
  cases made
  cases same
  rfl

variable {table : Dictionary Key Value} {key other : Key} {value : Value}

theorem mem_entries_iff [Std.ReflOrd Key] :
    (key, value) ∈ table.entries ↔ table.get? key = some value :=
  (lookup_eq_some_iff_mem table.increase).symm

theorem ext_get? [Std.TransOrd Key] {left right : Dictionary Key Value}
    (agree : ∀ key, left.get? key = right.get? key) : left = right := by
  have sameEntries : left.entries = right.entries := by
    refine eq_of_mem_iff left.increase right.increase ?_
    intro entry
    rw [mem_entries_iff, mem_entries_iff, agree]
  cases left
  cases right
  cases sameEntries
  rfl

section

variable [Std.TransOrd Key] [Std.LawfulEqOrd Key]

@[simp]
theorem get?_insert_self : (table.insert key value).get? key = some value :=
  lookup_insertEntry_self

theorem get?_insert_of_ne (different : other ≠ key) :
    (table.insert key value).get? other = table.get? other :=
  lookup_insertEntry_of_ne different

end

@[simp]
theorem get?_erase_self : (table.erase key).get? key = none := by
  have found := lookup_filter_fst table.entries key (· != key)
  simpa [erase, filter, get?] using found

theorem countP_erase_lt {test : Key × Value → Bool} (member : (key, value) ∈ table.entries)
    (passed : test (key, value) = true) :
    (table.erase key).entries.countP test < table.entries.countP test := by
  have kept : (table.erase key).entries.countP test =
      table.entries.countP fun entry => test entry && entry.1 != key :=
    List.countP_filter
  rw [kept]
  refine countP_lt_countP ?_ member passed ?_
  · intro entry _ passedToo
    rw [Bool.and_eq_true] at passedToo
    exact passedToo.1
  · rw [bne_self_eq_false, Bool.and_false]

theorem get?_erase_of_ne (different : other ≠ key) :
    (table.erase key).get? other = table.get? other := by
  have found := lookup_filter_fst table.entries other (· != key)
  simpa [erase, filter, get?, different] using found

end Dictionary

end ClusterAudit
