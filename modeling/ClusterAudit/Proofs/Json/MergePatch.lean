import ClusterAudit.Json.MergePatch
import ClusterAudit.Json.Record
import ClusterAudit.Proofs.Dictionary

/-!
What merging a patch does, against the JSON merge patch of the standard. The two differ only where
an object of the patch meets no object in the target: there the standard merges it into an empty
one, and leaves out its null members at every depth, while merging keeps them. Merging the patch a
second time gives what the standard gives at once, and any further time changes nothing.
-/

namespace ClusterAudit.Json

/-! ## The standard -/

mutual

/-- A value after a JSON merge patch. The members of a patch object are put one by one into the
target, which counts as an empty object if it is none; a null member removes its name. Any other
patch takes the place of the target. -/
def standardPatch (target patch : Json) : Json :=
  match patch with
  | obj changes => obj (standardMembers (target.asMembers?.getD []) changes)
  | patch => patch

/-- The members of an object after the members of a JSON merge patch. -/
def standardMembers (members : Members) : List (String × Json) → Members
  | [] => members
  | (name, value) :: rest =>
      match value with
      | null => standardMembers (members.filter fun entry => entry.1 != name) rest
      | value =>
          standardMembers
            (insertEntry name (standardPatch ((member? members name).getD null) value) members) rest

end

/-! ## Members after changes -/

/-- The members of a value; what is no object has none. -/
abbrev membersOf (json : Json) : Members :=
  json.asMembers?.getD []

/-- Members after one member of a patch, which is merged into the member that it meets. -/
def change (merge : Json → Json → Json) (members : Members) (entry : String × Json) : Members :=
  if entry.2 = null then members.filter fun other => other.1 != entry.1
  else insertEntry entry.1 (merge ((member? members entry.1).getD null) entry.2) members

/-- What stands under a name after a patch, by what stood there and by what the patch has there. -/
def changed (merge : Json → Json → Json) (old : Option Json) : Option Json → Option Json
  | none => old
  | some value => if value = null then none else some (merge (old.getD null) value)

section Changes

variable {merge other : Json → Json → Json} {members changes : Members} {name : String}

theorem lookup_change_self (name : String) (value : Json) :
    (change merge members (name, value)).lookup name =
      changed merge (members.lookup name) (some value) := by
  rw [change, changed]
  split
  · next =>
      rw [lookup_filter_fst members name fun present => present != name]
      simp
  · next => exact lookup_insertEntry_self

theorem lookup_change_of_ne {present : String} (different : name ≠ present) (value : Json) :
    (change merge members (present, value)).lookup name = members.lookup name := by
  rw [change]
  split
  · next =>
      rw [lookup_filter_fst members name fun other => other != present,
        if_pos (bne_iff_ne.mpr different)]
  · next => exact lookup_insertEntry_of_ne different

theorem keysIncrease_foldl_change (increase : KeysIncrease members) :
    KeysIncrease (changes.foldl (change merge) members) := by
  induction changes generalizing members with
  | nil => exact increase
  | cons entry rest inductionHypothesis =>
      apply inductionHypothesis
      rw [change]
      split
      · next => exact increase.filter _
      · next => exact keysIncrease_insertEntry increase

theorem lookup_rest_of_increase {value : Json} {rest : Members}
    (increase : KeysIncrease ((name, value) :: rest)) : rest.lookup name = none := by
  obtain ⟨before, increaseRest⟩ := List.pairwise_cons.mp increase
  cases later : rest.lookup name with
  | none => rfl
  | some value =>
      have order := before _ ((lookup_eq_some_iff_mem increaseRest).mp later)
      simp [Std.ReflOrd.compare_self] at order

/-- The members of a patch, of which no two have one name, do not get into each other's way. -/
theorem lookup_foldl_change (increase : KeysIncrease changes) :
    (changes.foldl (change merge) members).lookup name =
      changed merge (members.lookup name) (changes.lookup name) := by
  induction changes generalizing members with
  | nil => rfl
  | cons first rest inductionHypothesis =>
      obtain ⟨present, value⟩ := first
      rw [List.foldl_cons, inductionHypothesis increase.of_cons]
      by_cases same : name = present
      · subst same
        rw [lookup_rest_of_increase increase, lookup_change_self, List.lookup_cons_self]
        rfl
      · rw [lookup_change_of_ne same, lookup_cons_of_ne same]

/-- Members in increasing order are known by what stands under each name. -/
theorem eq_of_lookup_eq {left right : Members} (leftIncrease : KeysIncrease left)
    (rightIncrease : KeysIncrease right) (agree : ∀ name, left.lookup name = right.lookup name) :
    left = right := by
  let leftTable : Dictionary String Json := ⟨left, leftIncrease⟩
  let rightTable : Dictionary String Json := ⟨right, rightIncrease⟩
  have same : leftTable = rightTable := Dictionary.ext_get? agree
  exact congrArg Dictionary.entries same

/-- Two ways of merging change members alike if they agree wherever they are used. -/
theorem foldl_change_eq_iff (increase : KeysIncrease members)
    (changesIncrease : KeysIncrease changes) :
    changes.foldl (change merge) members = changes.foldl (change other) members ↔
      ∀ entry ∈ changes, entry.2 ≠ null →
        merge ((members.lookup entry.1).getD null) entry.2 =
          other ((members.lookup entry.1).getD null) entry.2 := by
  constructor
  · rintro same ⟨name, value⟩ member notNull
    have found := (lookup_eq_some_iff_mem changesIncrease).mpr member
    have sameHere := congrArg (List.lookup name) same
    rw [lookup_foldl_change changesIncrease, lookup_foldl_change changesIncrease, found] at sameHere
    simpa [changed, notNull] using sameHere
  · intro agree
    refine eq_of_lookup_eq (keysIncrease_foldl_change increase)
      (keysIncrease_foldl_change increase) ?_
    intro name
    rw [lookup_foldl_change changesIncrease, lookup_foldl_change changesIncrease]
    cases found : changes.lookup name with
    | none => rfl
    | some value =>
        by_cases isNull : value = null
        · simp [changed, isNull]
        · have sameHere := agree (name, value)
            ((lookup_eq_some_iff_mem changesIncrease).mp found) isNull
          simp only [changed, if_neg isNull, sameHere]

end Changes

/-! ## Ways of merging -/

/-- A way of merging changes the members of an object by those of a patch object, and puts any other
patch in the place of its target. -/
structure Merges (merge : Json → Json → Json) : Prop where
  objects : ∀ members changes,
    merge (obj members) (obj changes) = obj (changes.foldl (change merge) members)
  others : ∀ target patch, patch.asMembers? = none → merge target patch = patch

theorem mergeMembers_eq_foldl (members changes : Members) :
    mergeMembers members changes = changes.foldl (change mergePatch) members := by
  induction changes generalizing members with
  | nil => rw [mergeMembers, List.foldl_nil]
  | cons entry rest inductionHypothesis =>
      obtain ⟨name, value⟩ := entry
      rw [List.foldl_cons, ← inductionHypothesis]
      cases value with
      | null => rw [mergeMembers, change, if_pos rfl]
      | _ => rw [mergeMembers, change, if_neg nofun]; nofun

theorem standardMembers_eq_foldl (members changes : Members) :
    standardMembers members changes = changes.foldl (change standardPatch) members := by
  induction changes generalizing members with
  | nil => rw [standardMembers, List.foldl_nil]
  | cons entry rest inductionHypothesis =>
      obtain ⟨name, value⟩ := entry
      rw [List.foldl_cons, ← inductionHypothesis]
      cases value with
      | null => rw [standardMembers, change, if_pos rfl]
      | _ => rw [standardMembers, change, if_neg nofun]; nofun

theorem standardPatch_obj (target : Json) (changes : Members) :
    standardPatch target (obj changes) =
      obj (changes.foldl (change standardPatch) (membersOf target)) := by
  rw [standardPatch, standardMembers_eq_foldl]

theorem mergePatch_of_flat_target {target : Json} (flat : target.asMembers? = none)
    (patch : Json) : mergePatch target patch = patch := by
  cases target with
  | obj members => cases flat
  | _ => cases patch <;> rfl

theorem merges_mergePatch : Merges mergePatch where
  objects members changes := by rw [mergePatch, mergeMembers_eq_foldl]
  others target patch flat := by
    cases patch with
    | obj changes => cases flat
    | _ => cases target <;> rfl

theorem merges_standardPatch : Merges standardPatch where
  objects members changes := standardPatch_obj (obj members) changes
  others target patch flat := by
    cases patch with
    | obj changes => cases flat
    | _ => rfl

/-- A patch without objects among its members is merged in one way only. -/
theorem Merges.foldl_change_eq {merge other : Json → Json → Json} (merges : Merges merge)
    (othersToo : Merges other) {changes : Members}
    (flat : ∀ entry ∈ changes, entry.2.asMembers? = none) (members : Members) :
    changes.foldl (change merge) members = changes.foldl (change other) members := by
  induction changes generalizing members with
  | nil => rfl
  | cons entry rest inductionHypothesis =>
      obtain ⟨entryFlat, restFlat⟩ := List.forall_mem_cons.mp flat
      have same : change merge members entry = change other members entry := by
        rw [change, change, merges.others _ _ entryFlat, othersToo.others _ _ entryFlat]
      rw [List.foldl_cons, List.foldl_cons, same, inductionHypothesis restFlat]

/-! ## Values in order -/

/-- The members of an object, and of the objects among them, stand in increasing order. -/
inductive IsOrdered : Json → Prop
  | flat {json : Json} : json.asMembers? = none → IsOrdered json
  | object {members : Members} : KeysIncrease members → (∀ entry ∈ members, IsOrdered entry.2) →
      IsOrdered (obj members)

theorem isOrdered_null : IsOrdered null :=
  .flat rfl

theorem IsOrdered.membersOf {json : Json} (ordered : IsOrdered json) :
    KeysIncrease (membersOf json) ∧ ∀ entry ∈ Json.membersOf json, IsOrdered entry.2 := by
  cases ordered with
  | flat noObject =>
      rw [Json.membersOf, noObject]
      exact ⟨List.Pairwise.nil, nofun⟩
  | object increase members => exact ⟨increase, members⟩

/-- What a patch meets under a name is in order, null if there is nothing. -/
theorem IsOrdered.getD_lookup {json : Json} (ordered : IsOrdered json) (name : String) :
    IsOrdered (((Json.membersOf json).lookup name).getD null) := by
  cases found : (Json.membersOf json).lookup name with
  | none => exact isOrdered_null
  | some value =>
      obtain ⟨increase, members⟩ := ordered.membersOf
      exact members (name, value) ((lookup_eq_some_iff_mem increase).mp found)

/-- Merging keeps the order of members. -/
theorem isOrdered_mergePatch {patch : Json} (patchOrdered : IsOrdered patch) :
    ∀ {target : Json}, IsOrdered target → IsOrdered (mergePatch target patch) := by
  induction patchOrdered with
  | flat noObject =>
      intro target _
      rw [merges_mergePatch.others target _ noObject]
      exact .flat noObject
  | @object changes increase changesOrdered inductionHypothesis =>
      intro target targetOrdered
      cases targetOrdered with
      | flat noObject =>
          rw [mergePatch_of_flat_target noObject]
          exact .object increase changesOrdered
      | @object members membersIncrease membersOrdered =>
          have whole : IsOrdered (obj members) := .object membersIncrease membersOrdered
          have afterIncrease : KeysIncrease (changes.foldl (change mergePatch) members) :=
            keysIncrease_foldl_change membersIncrease
          rw [merges_mergePatch.objects]
          refine .object afterIncrease ?_
          rintro ⟨name, value⟩ member
          have found := (lookup_eq_some_iff_mem afterIncrease).mpr member
          rw [lookup_foldl_change increase] at found
          cases sent : changes.lookup name with
          | none =>
              rw [sent] at found
              exact membersOrdered _ ((lookup_eq_some_iff_mem membersIncrease).mp found)
          | some change =>
              rw [sent, changed] at found
              split at found
              · cases found
              · cases found
                exact inductionHypothesis (name, change)
                  ((lookup_eq_some_iff_mem increase).mp sent) (whole.getD_lookup name)

/-! ## Merging again -/

/-- What a merged patch has put where it has no null: the member that it has met, with its own
merged into it. -/
theorem exists_members_mergePatch {target : Json} {changes : Members}
    (targetOrdered : IsOrdered target) (increase : KeysIncrease changes) :
    ∃ members, mergePatch target (obj changes) = obj members ∧ KeysIncrease members ∧
      (∀ name, changes.lookup name = none →
        members.lookup name = (membersOf target).lookup name) ∧
      ∀ name value, changes.lookup name = some value → value ≠ null →
        members.lookup name =
          some (mergePatch (((membersOf target).lookup name).getD null) value) := by
  cases targetOrdered with
  | flat noObject =>
      have noMembers : membersOf target = [] := by rw [membersOf, noObject, Option.getD_none]
      refine ⟨changes, mergePatch_of_flat_target noObject _, increase, ?_, ?_⟩
      · intro name absent
        rw [absent, noMembers, List.lookup_nil]
      · intro name value sent _
        rw [sent, noMembers, List.lookup_nil, Option.getD_none, mergePatch_of_flat_target rfl]
  | @object members membersIncrease _ =>
      refine ⟨_, merges_mergePatch.objects members changes,
        keysIncrease_foldl_change membersIncrease, ?_, ?_⟩
      · intro name absent
        rw [lookup_foldl_change increase, absent]
        rfl
      · intro name value sent notNull
        rw [lookup_foldl_change increase, sent, changed, if_neg notNull]
        rfl

/-- Whether a patch that has been merged is merged again or put in as the standard has it: the nulls
that were kept now meet objects, and go. -/
theorem Merges.merge_mergePatch {merge : Json → Json → Json} (merges : Merges merge)
    {patch : Json} (patchOrdered : IsOrdered patch) :
    ∀ {target : Json}, IsOrdered target →
      merge (mergePatch target patch) patch = standardPatch target patch := by
  induction patchOrdered with
  | @flat patch noObject =>
      intro target _
      rw [merges.others _ _ noObject, merges_standardPatch.others _ _ noObject]
  | @object changes increase changesOrdered inductionHypothesis =>
      intro target targetOrdered
      obtain ⟨members, merged, membersIncrease, absent, present⟩ :=
        exists_members_mergePatch targetOrdered increase
      rw [merged, merges.objects, standardPatch_obj]
      refine congrArg obj (eq_of_lookup_eq (keysIncrease_foldl_change membersIncrease)
        (keysIncrease_foldl_change targetOrdered.membersOf.1) ?_)
      intro name
      rw [lookup_foldl_change increase, lookup_foldl_change increase]
      cases sent : changes.lookup name with
      | none => exact absent name sent
      | some value =>
          by_cases isNull : value = null
          · rw [changed, changed, if_pos isNull, if_pos isNull]
          · have again := inductionHypothesis (name, value)
              ((lookup_eq_some_iff_mem increase).mp sent) (targetOrdered.getD_lookup name)
            rw [changed, changed, if_neg isNull, if_neg isNull, present name value sent isNull,
              Option.getD_some, again]

/-! ## Nulls that are kept -/

/-- No member is null, nor is one of the objects among the members, at any depth. -/
inductive HoldsNoNull : Json → Prop
  | flat {json : Json} : json.asMembers? = none → HoldsNoNull json
  | object {members : Members} : (∀ entry ∈ members, entry.2 ≠ null) →
      (∀ entry ∈ members, HoldsNoNull entry.2) → HoldsNoNull (obj members)

/-- Every null member of the patch stands in an object that meets one in the target. -/
inductive NullsMeet : Json → Json → Prop
  | flat {target patch : Json} : patch.asMembers? = none → NullsMeet target patch
  | fresh {target patch : Json} : target.asMembers? = none → HoldsNoNull patch →
      NullsMeet target patch
  | object {members changes : Members} :
      (∀ entry ∈ changes, entry.2 ≠ null →
        NullsMeet ((members.lookup entry.1).getD null) entry.2) →
      NullsMeet (obj members) (obj changes)

theorem nullsMeet_obj_iff {members changes : Members} :
    NullsMeet (obj members) (obj changes) ↔
      ∀ entry ∈ changes, entry.2 ≠ null →
        NullsMeet ((members.lookup entry.1).getD null) entry.2 := by
  constructor
  · intro meets
    cases meets with
    | flat noObject => cases noObject
    | fresh noObject _ => cases noObject
    | object each => exact each
  · exact .object

theorem holdsNoNull_obj_iff {members : Members} :
    HoldsNoNull (obj members) ↔ ∀ entry ∈ members, entry.2 ≠ null ∧ HoldsNoNull entry.2 := by
  constructor
  · intro none
    cases none with
    | flat noObject => cases noObject
    | object notNull deeper => exact fun entry member => ⟨notNull entry member, deeper entry member⟩
  · intro each
    exact .object (fun entry member => (each entry member).1) fun entry member =>
      (each entry member).2

theorem nullsMeet_iff_of_flat_target {target patch : Json} (flat : target.asMembers? = none) :
    NullsMeet target patch ↔ HoldsNoNull patch := by
  constructor
  · intro meets
    cases meets with
    | flat noObject => exact .flat noObject
    | fresh _ none => exact none
    | object _ => cases flat
  · exact .fresh flat

/-- The standard takes a patch over as it is exactly if it holds no nulls. -/
theorem standardPatch_eq_self_iff {patch : Json} (patchOrdered : IsOrdered patch) :
    ∀ {target : Json}, target.asMembers? = none →
      (standardPatch target patch = patch ↔ HoldsNoNull patch) := by
  induction patchOrdered with
  | flat noObject =>
      intro target _
      rw [merges_standardPatch.others _ _ noObject]
      exact iff_of_true rfl (.flat noObject)
  | @object changes increase changesOrdered inductionHypothesis =>
      intro target flat
      have noMembers : membersOf target = [] := by rw [membersOf, flat, Option.getD_none]
      rw [standardPatch_obj, noMembers, obj.injEq, holdsNoNull_obj_iff]
      constructor
      · rintro same ⟨name, value⟩ member
        have sent := (lookup_eq_some_iff_mem increase).mpr member
        have sameHere := congrArg (List.lookup name) same
        rw [lookup_foldl_change increase, sent, changed] at sameHere
        split at sameHere
        · cases sameHere
        · next notNull =>
            exact ⟨notNull, (inductionHypothesis _ member rfl).mp (Option.some.inj sameHere)⟩
      · intro each
        refine eq_of_lookup_eq (keysIncrease_foldl_change List.Pairwise.nil) increase ?_
        intro name
        rw [lookup_foldl_change increase]
        cases sent : changes.lookup name with
        | none => rfl
        | some value =>
            have member := (lookup_eq_some_iff_mem increase).mp sent
            obtain ⟨notNull, none⟩ := each _ member
            rw [changed, if_neg notNull]
            exact congrArg some ((inductionHypothesis _ member rfl).mpr none)

theorem mergePatch_eq_standardPatch_iff {patch : Json} (patchOrdered : IsOrdered patch) :
    ∀ {target : Json}, IsOrdered target →
      (mergePatch target patch = standardPatch target patch ↔ NullsMeet target patch) := by
  induction patchOrdered with
  | flat noObject =>
      intro target _
      rw [merges_mergePatch.others _ _ noObject, merges_standardPatch.others _ _ noObject]
      exact iff_of_true rfl (.flat noObject)
  | @object changes increase changesOrdered inductionHypothesis =>
      intro target targetOrdered
      cases targetOrdered with
      | flat noObject =>
          rw [mergePatch_of_flat_target noObject, eq_comm, nullsMeet_iff_of_flat_target noObject]
          exact standardPatch_eq_self_iff (.object increase changesOrdered) noObject
      | @object members membersIncrease membersOrdered =>
          have whole : IsOrdered (obj members) := .object membersIncrease membersOrdered
          rw [merges_mergePatch.objects, merges_standardPatch.objects, obj.injEq,
            foldl_change_eq_iff membersIncrease increase, nullsMeet_obj_iff]
          refine forall₂_congr fun entry member => imp_congr_right fun _ => ?_
          exact inductionHypothesis entry member (whole.getD_lookup entry.1)

/-- A patch is merged as the standard has it exactly if each of its null members stands in an object
that meets one in the target. Merged a second time it always gives what the standard gives, so that
merging it twice is merging it once in these cases and in no others. A third time changes
nothing. -/
theorem mergePatch_again {target patch : Json} (targetOrdered : IsOrdered target)
    (patchOrdered : IsOrdered patch) :
    let once := mergePatch target patch
    let twice := mergePatch once patch
    (once = standardPatch target patch ↔ NullsMeet target patch) ∧
      twice = standardPatch target patch ∧
      (twice = once ↔ NullsMeet target patch) ∧
      mergePatch twice patch = twice := by
  intro once twice
  have asStandard : once = standardPatch target patch ↔ NullsMeet target patch :=
    mergePatch_eq_standardPatch_iff patchOrdered targetOrdered
  have secondTime : twice = standardPatch target patch :=
    merges_mergePatch.merge_mergePatch patchOrdered targetOrdered
  refine ⟨asStandard, secondTime, ?_, ?_⟩
  · rw [secondTime, eq_comm]
    exact asStandard
  · calc mergePatch twice patch
        = standardPatch once patch :=
          merges_mergePatch.merge_mergePatch patchOrdered
            (isOrdered_mergePatch patchOrdered targetOrdered)
      _ = standardPatch target patch :=
          merges_standardPatch.merge_mergePatch patchOrdered targetOrdered
      _ = twice := secondTime.symm

/-- A status with a balancer that has an address. -/
def balanced : Json :=
  obj [("loadBalancer", obj [("ingress", arr [str "10.0.0.1"])])]

/-- A patch that takes the address away, where there is a balancer. -/
def unbalancing : Json :=
  obj [("loadBalancer", obj [("ingress", null)])]

theorem isOrdered_balanced : IsOrdered balanced := by
  refine .object (by decide) (List.forall_mem_singleton.mpr ?_)
  exact .object (by decide) (List.forall_mem_singleton.mpr (.flat rfl))

theorem isOrdered_unbalancing : IsOrdered unbalancing := by
  refine .object (by decide) (List.forall_mem_singleton.mpr ?_)
  exact .object (by decide) (List.forall_mem_singleton.mpr isOrdered_null)

/-- A balancer that is there loses its address at once, and nothing more the second time. -/
theorem mergePatch_again_balanced :
    IsOrdered balanced ∧ IsOrdered unbalancing ∧
      mergePatch balanced unbalancing = standardPatch balanced unbalancing ∧
      mergePatch (mergePatch balanced unbalancing) unbalancing =
        mergePatch balanced unbalancing := by
  have meets : NullsMeet balanced unbalancing := by
    refine .object (List.forall_mem_singleton.mpr fun _ => .object ?_)
    exact List.forall_mem_singleton.mpr fun notNull => absurd rfl notNull
  obtain ⟨asStandard, _, unchanged, _⟩ := mergePatch_again isOrdered_balanced isOrdered_unbalancing
  exact ⟨isOrdered_balanced, isOrdered_unbalancing, asStandard.mpr meets, unchanged.mpr meets⟩

/-- Where there is no balancer the patch leaves one with a null, which merging it again takes
away. -/
theorem exists_null_kept :
    ∃ target patch, IsOrdered target ∧ IsOrdered patch ∧
      mergePatch target patch ≠ standardPatch target patch ∧
      mergePatch (mergePatch target patch) patch ≠ mergePatch target patch :=
  ⟨obj [], unbalancing, .object List.Pairwise.nil nofun, isOrdered_unbalancing, by decide,
    by decide⟩

end ClusterAudit.Json
