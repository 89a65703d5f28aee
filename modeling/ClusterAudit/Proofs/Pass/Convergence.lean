import ClusterAudit.Pass.Convergence
import ClusterAudit.Pass.Outcome
import ClusterAudit.Proofs.Pass.Run

/-!
When a step that brings one object to what is wanted of it changes nothing. It does so exactly when
the object is as it is wanted, and then it leaves the whole store as it was.
-/

namespace ClusterAudit

namespace Store

/-- The object at a place is there, fits its kind, and has what is wanted of it. -/
def holds {kind : Kind} (store : Store) (same : Object kind → Object kind → Bool) (key : Key)
    (desired : Object kind) : Bool :=
  (store.stored? kind key).any fun live => same live desired

theorem holds_iff {kind : Kind} {store : Store} {same : Object kind → Object kind → Bool}
    {key : Key} {desired : Object kind} :
    store.holds same key desired = true ↔
      ∃ live, store.stored? kind key = some live ∧ same live desired = true := by
  simp [holds, Option.any_eq_true]

theorem holds_congr {kind : Kind} {before after : Store} {key : Key}
    (same : after.find? kind key = before.find? kind key)
    (agree : Object kind → Object kind → Bool) (desired : Object kind) :
    after.holds agree key desired = before.holds agree key desired := by
  rw [holds, holds, stored?_congr same]

/-- The answer to a creation says that the place is taken only if it is. -/
theorem isAlreadyExists_create_iff {kind : Kind} {store : Store} (quiet : store.faults = [])
    {object : Object kind} {namespaceName name : String}
    (named : object.metadata.name = some name) (filled : name ≠ "") :
    (∃ error, (store.create kind namespaceName object).1 = .error error ∧
        error.isAlreadyExists = true) ↔
      (store.find? kind { namespaceName, name }).isSome = true := by
  cases place : store.find? kind { namespaceName, name } with
  | some stored =>
      rw [create_of_taken quiet named filled place]
      simp [ClusterError.isAlreadyExists]
  | none =>
      obtain ⟨uid, version, after, created, _⟩ := create_of_free quiet named filled place
      rw [created]
      cases read : (stampedAt { namespaceName, name } version
        (Stored.ofObject (identified object uid))).read? with
      | none => simp [fits, ClusterError.isAlreadyExists]
      | some object => simp [fits]

end Store

theorem Change.isMutation_eq_false_iff {change : Change} :
    change.isMutation = false ↔ change = .unchanged := by
  cases change <;> decide

theorem Outcome.progress_ofChange_eq_done_iff {changed : Bool}
    {condition : Option ConditionUpdate} :
    (Outcome.ofChange changed condition).progress = .done ↔ changed = false := by
  cases changed <;> simp [Outcome.ofChange]

namespace Pass

open Store

variable {images : ImageSource} {store after : Store} {kind : Kind} {namespaceName : String}
  {desired : Object kind} {same : Object kind → Object kind → Bool}
  {merge : Object kind → Object kind → Object kind}

/-- A sequence of which the second part gives a fixed result. -/
theorem runOn_bind_const_eq_done_iff {First Second : Type} {first : Pass First}
    {given result : Second} :
    (first >>= fun _ => (pure given : Pass Second)).runOn images store = (.done result, after) ↔
      (∃ value, first.runOn images store = (.done value, after)) ∧ given = result := by
  rw [runOn_bind_eq_done_iff]
  constructor
  · rintro ⟨value, middle, ended, finished⟩
    cases finished
    exact ⟨⟨value, ended⟩, rfl⟩
  · rintro ⟨⟨value, ended⟩, rfl⟩
    exact ⟨value, after, ended, rfl⟩

/-- A sequence that ends as soon as its first step has an effect is done exactly when the step has
none and the rest is done. -/
theorem runOn_guard_eq_done_iff {step : Pass Change} {rest : Pass Outcome} {outcome : Outcome} :
    ((step >>= fun change => if change.isMutation = true then pure .changed else rest).runOn images
          store = (.done outcome, after) ∧
        outcome.progress = .done) ↔
      ∃ middle, step.runOn images store = (.done .unchanged, middle) ∧
        rest.runOn images middle = (.done outcome, after) ∧ outcome.progress = .done := by
  constructor
  · intro finished
    obtain ⟨finished, isDone⟩ := finished
    obtain ⟨change, middle, stepped, finished⟩ := runOn_bind_eq_done_iff.mp finished
    cases mutated : change.isMutation with
    | true =>
        rw [if_pos mutated] at finished
        cases finished
        cases isDone
    | false =>
        rw [mutated, if_neg Bool.false_ne_true] at finished
        obtain rfl := Change.isMutation_eq_false_iff.mp mutated
        exact ⟨middle, stepped, finished, isDone⟩
  · intro finished
    obtain ⟨middle, stepped, finished, isDone⟩ := finished
    exact ⟨runOn_bind_eq_done_iff.mpr ⟨.unchanged, middle, stepped, finished⟩, isDone⟩

section

variable (quiet : store.faults = [])

include quiet

/-! ## Objects that are wanted -/

theorem runOn_createIfAbsent_eq_existing_iff {live : Object kind} :
    (createIfAbsent namespaceName desired).runOn images store =
        (.done (.existing live), after) ↔
      store.stored? kind { namespaceName, name := desired.displayName } = some live ∧
        after = store := by
  rw [createIfAbsent, runOn_bind_eq_done_iff]
  constructor
  · rintro ⟨found, middle, looked, finished⟩
    obtain ⟨finds, rfl⟩ := (runOn_get_eq_done_iff quiet).mp looked
    cases found with
    | none =>
        obtain ⟨_, different⟩ := runOn_bind_eq_done_iff.mp finished
        obtain ⟨_, _, absurd⟩ := different
        cases absurd
    | some present =>
        cases finished
        exact ⟨finds, rfl⟩
  · rintro ⟨finds, rfl⟩
    exact ⟨some live, after, (runOn_get_eq_done_iff quiet).mpr ⟨finds, rfl⟩, rfl⟩

/-- Where an object cannot be read, the pass fails. -/
theorem runOn_createIfAbsent_of_unreadable {stored : Stored kind}
    (found : store.find? kind { namespaceName, name := desired.displayName } = some stored)
    (unreadable : stored.read? = none) :
    (createIfAbsent namespaceName desired).runOn images store =
      (.failed (.cluster .unfit), store) := by
  have looked : (get kind { namespaceName, name := desired.displayName }).runOn images store =
      (.failed (.cluster .unfit), store) := by
    simp only [get, ask, runOn, answer, Store.get, fault?_eq_none quiet, found, unreadable, fits,
      Except.map]
  exact runOn_bind_of_failed looked

theorem runOn_ensure_eq_unchanged_iff :
    (ensure namespaceName desired same merge).runOn images store = (.done .unchanged, after) ↔
      store.holds same { namespaceName, name := desired.displayName } desired = true ∧
        after = store := by
  rw [ensure, runOn_bind_eq_done_iff, holds_iff]
  constructor
  · rintro ⟨applied, middle, looked, finished⟩
    cases applied with
    | created object => cases finished
    | existing live =>
        obtain ⟨present, rfl⟩ := (runOn_createIfAbsent_eq_existing_iff quiet).mp looked
        cases agree : same live desired with
        | true =>
            simp only [agree, if_true] at finished
            cases finished
            exact ⟨⟨live, present, agree⟩, rfl⟩
        | false =>
            simp only [agree, Bool.false_eq_true, if_false] at finished
            obtain ⟨_, different⟩ := runOn_bind_const_eq_done_iff.mp finished
            cases different
  · rintro ⟨⟨live, present, agree⟩, rfl⟩
    refine ⟨.existing live, after,
      (runOn_createIfAbsent_eq_existing_iff quiet).mpr ⟨present, rfl⟩, ?_⟩
    simp only [agree, if_true]
    rfl

/-- An object that was read under one name and is replaced under another is not found there. -/
theorem runOn_ensure_of_misnamed {live : Object kind}
    (present : store.stored? kind { namespaceName, name := desired.displayName } = some live)
    (drifted : same live desired = false)
    (absent :
      store.find? kind { namespaceName, name := (merge live desired).displayName } = none) :
    ∃ error, (ensure namespaceName desired same merge).runOn images store =
      (.failed error, store) := by
  have looked : (createIfAbsent namespaceName desired).runOn images store =
      (.done (.existing live), store) :=
    (runOn_createIfAbsent_eq_existing_iff quiet).mpr ⟨present, rfl⟩
  have refused : store.Refuses (.replace kind
      { namespaceName, name := (merge live desired).displayName } (merge live desired)) := by
    rcases store.replace_cases kind _ (merge live desired) with refused | ⟨current, found, _⟩
    · exact refused
    · cases absent.symm.trans found
  obtain ⟨error, replaced⟩ := runOn_ask_of_refuses images refused
  refine ⟨.cluster error, ?_⟩
  rw [ensure, runOn_bind_of_done looked]
  simp only [drifted, Bool.false_eq_true, if_false]
  exact runOn_bind_of_failed replaced

theorem runOn_ensureCluster_eq_unchanged_iff :
    (ensureCluster desired same merge).runOn images store = (.done .unchanged, after) ↔
      store.holds same (Key.ofCluster desired.displayName) desired = true ∧ after = store := by
  rw [ensureCluster, runOn_bind_eq_done_iff, holds_iff]
  constructor
  · rintro ⟨found, middle, looked, finished⟩
    obtain ⟨finds, rfl⟩ := (runOn_get_eq_done_iff quiet).mp looked
    cases found with
    | none =>
        obtain ⟨_, different⟩ := runOn_bind_const_eq_done_iff.mp finished
        cases different
    | some live =>
        cases agree : same live desired with
        | true =>
            simp only [agree, if_true] at finished
            cases finished
            exact ⟨⟨live, finds, agree⟩, rfl⟩
        | false =>
            simp only [agree, Bool.false_eq_true, if_false] at finished
            obtain ⟨_, different⟩ := runOn_bind_const_eq_done_iff.mp finished
            cases different
  · rintro ⟨⟨live, present, agree⟩, rfl⟩
    refine ⟨some live, after, (runOn_get_eq_done_iff quiet).mpr ⟨present, rfl⟩, ?_⟩
    simp only [agree, if_true]
    rfl

theorem runOn_guard_ensure_eq_done_iff {rest : Pass Outcome} {outcome : Outcome} :
    ((ensure namespaceName desired same merge >>= fun change =>
          if change.isMutation = true then pure .changed else rest).runOn images store =
            (.done outcome, after) ∧
        outcome.progress = .done) ↔
      store.holds same { namespaceName, name := desired.displayName } desired = true ∧
        rest.runOn images store = (.done outcome, after) ∧ outcome.progress = .done := by
  rw [runOn_guard_eq_done_iff]
  constructor
  · intro finished
    obtain ⟨middle, ensured, finished⟩ := finished
    obtain ⟨present, rfl⟩ := (runOn_ensure_eq_unchanged_iff quiet).mp ensured
    exact ⟨present, finished⟩
  · intro finished
    obtain ⟨present, finished⟩ := finished
    exact ⟨store, (runOn_ensure_eq_unchanged_iff quiet).mpr ⟨present, rfl⟩, finished⟩

theorem runOn_guard_ensureCluster_eq_done_iff {rest : Pass Outcome} {outcome : Outcome} :
    ((ensureCluster desired same merge >>= fun change =>
          if change.isMutation = true then pure .changed else rest).runOn images store =
            (.done outcome, after) ∧
        outcome.progress = .done) ↔
      store.holds same (Key.ofCluster desired.displayName) desired = true ∧
        rest.runOn images store = (.done outcome, after) ∧ outcome.progress = .done := by
  rw [runOn_guard_eq_done_iff]
  constructor
  · intro finished
    obtain ⟨middle, ensured, finished⟩ := finished
    obtain ⟨present, rfl⟩ := (runOn_ensureCluster_eq_unchanged_iff quiet).mp ensured
    exact ⟨present, finished⟩
  · intro finished
    obtain ⟨present, finished⟩ := finished
    exact ⟨store, (runOn_ensureCluster_eq_unchanged_iff quiet).mpr ⟨present, rfl⟩, finished⟩

/-- An object that is offered without a look is not taken if there is one of its name. -/
theorem runOn_createTolerant_eq_false_iff {name : String}
    (named : desired.metadata.name = some name) (filled : name ≠ "") :
    (createTolerant namespaceName desired).runOn images store = (.done false, after) ↔
      (store.find? kind { namespaceName, name }).isSome = true ∧ after = store := by
  rw [createTolerant, runOn_bind_of_done (runOn_attempt _)]
  constructor
  · intro finished
    cases answered : (store.answer (.create kind namespaceName desired)).1 with
    | ok object =>
        rw [answered] at finished
        cases finished
    | error error =>
        rw [answered] at finished
        cases taken : error.isAlreadyExists with
        | false =>
            simp only [taken, Bool.false_eq_true, if_false] at finished
            cases finished
        | true =>
            have present := (isAlreadyExists_create_iff quiet named filled).mp
              ⟨error, answered, taken⟩
            obtain ⟨stored, place⟩ := Option.isSome_iff_exists.mp present
            simp only [taken, if_true] at finished
            have kept : (store.answer (.create kind namespaceName desired)).2 = store := by
              simp only [answer, create_of_taken quiet named filled place]
            cases finished
            exact ⟨present, kept⟩
  · rintro ⟨present, rfl⟩
    obtain ⟨stored, place⟩ := Option.isSome_iff_exists.mp present
    simp only [answer, create_of_taken quiet named filled place, ClusterError.isAlreadyExists,
      if_true]
    rfl

/-- An object that is made from the stored one takes its place. -/
theorem runOn_update_of_revises {key : Key} {object live : Object kind} {current : Stored kind}
    (revises : Revises object current live) (found : store.find? kind key = some current)
    (named : object.displayName = key.name) :
    ∃ version after,
      (update key.namespaceName object).runOn images store =
        (.done {
          metadata := (stampedAt key version (succeed current object)).metadata
          content := kind.contentInSeconds object.content
          status := live.status }, after) ∧
      Alters store after kind key (some (stampedAt key version (succeed current object))) := by
  obtain ⟨version, after, replaced, alters⟩ := replace_of_revises quiet found revises
  rw [update, named]
  exact ⟨version, after, runOn_ask_of_ok replaced, alters⟩

/-! ## Objects that are not wanted -/

theorem runOn_deleteIfPresent_of_free {key : Key} (free : store.find? kind key = none) :
    (deleteIfPresent kind key).runOn images store = (.done false, store) := by
  rw [deleteIfPresent, runOn_bind_of_done (runOn_attempt _)]
  simp only [answer, delete_of_free quiet free, ClusterError.isNotFound, if_true]
  rfl

theorem runOn_deleteIfPresent_of_taken {key : Key} {stored : Stored kind}
    (taken : store.find? kind key = some stored) :
    ∃ after, (deleteIfPresent kind key).runOn images store = (.done true, after) ∧
      Alters store after kind key none := by
  obtain ⟨after, deleted, alters⟩ := delete_of_taken quiet taken
  refine ⟨after, ?_, alters⟩
  rw [deleteIfPresent, runOn_bind_of_done (runOn_attempt _)]
  simp only [answer, deleted]
  rfl

/-- Whatever was there before a deletion, nothing is there after it. -/
theorem alters_of_runOn_deleteIfPresent {key : Key} {deleted : Bool}
    (ended : (deleteIfPresent kind key).runOn images store = (.done deleted, after)) :
    Alters store after kind key none := by
  cases place : store.find? kind key with
  | none =>
      rw [runOn_deleteIfPresent_of_free quiet place] at ended
      cases ended
      rw [← place]
      exact Alters.refl
  | some stored =>
      obtain ⟨middle, removed, alters⟩ := runOn_deleteIfPresent_of_taken quiet place
      rw [removed] at ended
      cases ended
      exact alters

theorem runOn_deleteIfPresent_eq_false_iff {key : Key} :
    (deleteIfPresent kind key).runOn images store = (.done false, after) ↔
      store.find? kind key = none ∧ after = store := by
  cases place : store.find? kind key with
  | none =>
      rw [runOn_deleteIfPresent_of_free quiet place]
      simp [eq_comm]
  | some stored =>
      obtain ⟨middle, deleted, _⟩ := runOn_deleteIfPresent_of_taken quiet place
      rw [deleted]
      simp

end

end Pass

end ClusterAudit
