import ClusterAudit.Proofs.Managed
import ClusterAudit.Proofs.Pass.Convergence

/-!
Steps that bring one object to what is wanted of it, and go through. If no call fails, a step that is
needed changes the one object, and after it the object is as it is wanted, so that the step is not
needed again.
-/

namespace ClusterAudit

open Managed (IsStoredAs Settles)

/-! ## Objects that steps can work with -/

/-- A stored object fits its kind, and is stored under its own name. -/
structure Stored.IsSound {kind : Kind} (key : Key) (stored : Stored kind) : Prop where
  reads : ∃ object, stored.read? = some object
  named : stored.metadata.displayName = key.name

namespace Store

variable {store before after last : Store} {kind : Kind} {key : Key}

/-- If anything is stored at a place, it is sound. -/
def IsSoundAt (store : Store) (kind : Kind) (key : Key) : Prop :=
  ∀ stored, store.find? kind key = some stored → stored.IsSound key

theorem IsSoundAt.congr (sound : before.IsSoundAt kind key)
    (same : after.find? kind key = before.find? kind key) : after.IsSoundAt kind key := by
  intro stored found
  rw [same] at found
  exact sound stored found

theorem IsSoundAt.exists_live (sound : store.IsSoundAt kind key) {stored : Stored kind}
    (found : store.find? kind key = some stored) :
    ∃ live, stored.read? = some live ∧ store.stored? kind key = some live ∧
      live.displayName = key.name := by
  obtain ⟨⟨live, read⟩, named⟩ := sound stored found
  refine ⟨live, read, ?_, ?_⟩
  · rw [stored?, found, Option.bind_some, read]
  · rw [Object.displayName, Stored.metadata_of_read? read, named]

/-- A call changed nothing but one place, where an object now stands that was stored for a given
one. -/
structure Deposits (before after : Store) (kind : Kind) (key : Key) (object result : Object kind) :
    Prop where
  elsewhere : ∀ other place, ¬ (other = kind ∧ place = key) →
    after.find? other place = before.find? other place
  faults : after.faults = before.faults
  present : after.stored? kind key = some result
  isStored : IsStoredAs object result
  named : ∀ stored, after.find? kind key = some stored →
    stored.metadata.displayName = object.displayName

theorem Deposits.otherKind {object result : Object kind}
    (deposits : Deposits before after kind key object result) {other : Kind}
    (different : other ≠ kind) (place : Key) :
    after.find? other place = before.find? other place :=
  deposits.elsewhere other place fun same => different same.1

theorem Deposits.otherPlace {object result : Object kind}
    (deposits : Deposits before after kind key object result) {place : Key}
    (different : place ≠ key) : after.find? kind place = before.find? kind place :=
  deposits.elsewhere kind place fun same => different same.2

theorem Deposits.holds {object result desired : Object kind}
    (deposits : Deposits before after kind key object result)
    {same : Object kind → Object kind → Bool} (agree : same result desired = true) :
    after.holds same key desired = true :=
  holds_iff.mpr ⟨result, deposits.present, agree⟩

theorem Deposits.alters {object result : Object kind}
    (deposits : Deposits before after kind key object result) :
    ∃ stored, stored.read? = some result ∧ Alters before after kind key (some stored) := by
  obtain ⟨stored, found, read⟩ := exists_find?_of_stored? deposits.present
  exact ⟨stored, read, {
    here := found
    elsewhere := deposits.elsewhere
    faults := deposits.faults }⟩

theorem Alters.deposits {stored : Stored kind} {object result : Object kind}
    (alters : Alters before after kind key (some stored)) (read : stored.read? = some result)
    (isStored : IsStoredAs object result)
    (named : stored.metadata.displayName = object.displayName) :
    Deposits before after kind key object result where
  elsewhere := alters.elsewhere
  faults := alters.faults
  present := by rw [stored?, alters.here, Option.bind_some, read]
  isStored
  named := by
    intro other found
    cases alters.here.symm.trans found
    exact named

theorem Deposits.sound {object result : Object kind}
    (deposits : Deposits before after kind key object result)
    (ownName : object.displayName = key.name) : after.IsSoundAt kind key := by
  intro stored found
  obtain ⟨other, otherFound, read⟩ := exists_find?_of_stored? deposits.present
  cases found.symm.trans otherFound
  exact { reads := ⟨result, read⟩, named := (deposits.named stored found).trans ownName }

end Store

namespace Pass

open Store

variable {images : ImageSource} {store : Store} {kind : Kind} {namespaceName name : String}
  {desired : Object kind} {same : Object kind → Object kind → Bool}
  {merge : Object kind → Object kind → Object kind}

section

variable (quiet : store.faults = [])

include quiet

/-! ## Single calls -/

theorem exists_runOn_create (named : desired.metadata.name = some name) (filled : name ≠ "")
    (statusless : desired.status = none)
    (free : store.find? kind { namespaceName, name } = none) :
    ∃ result after, store.create kind namespaceName desired = (.ok result, after) ∧
      Deposits store after kind { namespaceName, name } desired result := by
  obtain ⟨uid, version, after, created, alters⟩ := create_of_free quiet named filled free
  have noStatus : (stampedAt { namespaceName, name } version
      (Stored.ofObject (identified desired uid))).status = none := by
    simp [stampedAt, Stored.ofObject, Object.inSeconds, identified, statusless]
  have read := Stored.read?_of_no_status noStatus
  rw [read] at created
  exact ⟨_, after, created, alters.deposits read { owners := rfl, labels := rfl, content := rfl }
    rfl⟩

theorem exists_runOn_replace {key : Key} {object live : Object kind} {current : Stored kind}
    (found : store.find? kind key = some current) (read : current.read? = some live)
    (version : object.metadata.resourceVersion = live.metadata.resourceVersion)
    (status : object.status = live.status) :
    ∃ result after, store.replace kind key object = (.ok result, after) ∧
      Deposits store after kind key object result := by
  have revises : Revises object current live := {
    read
    version := by rw [version, Stored.metadata_of_read? read]
    status }
  obtain ⟨number, after, replaced, alters⟩ := replace_of_revises quiet found revises
  exact ⟨_, after, replaced, alters.deposits (revises.read?_succeed key number)
    { owners := rfl, labels := rfl, content := rfl } rfl⟩

/-! ## Steps -/

theorem exists_runOn_createIfAbsent (named : desired.metadata.name = some name)
    (filled : name ≠ "") (statusless : desired.status = none)
    (free : store.find? kind { namespaceName, name } = none) :
    ∃ result after,
      (createIfAbsent namespaceName desired).runOn images store =
        (.done (.created result), after) ∧
      Deposits store after kind { namespaceName, name } desired result := by
  obtain ⟨result, after, created, deposits⟩ :=
    exists_runOn_create quiet named filled statusless free
  refine ⟨result, after, ?_, deposits⟩
  have place : desired.displayName = name := by
    rw [Object.displayName, Metadata.displayName, named]
    rfl
  have looked : (get kind { namespaceName, name := desired.displayName }).runOn images store =
      (.done none, store) := by
    rw [place]
    exact (runOn_get_eq_done_iff quiet).mpr ⟨free, rfl⟩
  rw [createIfAbsent, runOn_bind_of_done looked]
  exact runOn_bind_of_done (runOn_ask_of_ok created)

theorem exists_runOn_update {key : Key} {object live : Object kind} {current : Stored kind}
    (found : store.find? kind key = some current) (read : current.read? = some live)
    (named : object.displayName = key.name)
    (version : object.metadata.resourceVersion = live.metadata.resourceVersion)
    (status : object.status = live.status) :
    ∃ result after,
      (update key.namespaceName object).runOn images store = (.done result, after) ∧
      Deposits store after kind key object result := by
  obtain ⟨result, after, replaced, deposits⟩ :=
    exists_runOn_replace quiet found read version status
  rw [update, named]
  exact ⟨result, after, runOn_ask_of_ok replaced, deposits⟩

variable (settles : Settles same merge desired) (named : desired.metadata.name = some name)
  (filled : name ≠ "") (statusless : desired.status = none)

include settles named filled statusless

/-- An object that is not as it is wanted is brought to it. -/
theorem exists_runOn_ensure (sound : store.IsSoundAt kind { namespaceName, name })
    (differs : store.holds same { namespaceName, name } desired = false) :
    ∃ change after object result,
      (ensure namespaceName desired same merge).runOn images store = (.done change, after) ∧
      change.isMutation = true ∧ object.displayName = name ∧
      Deposits store after kind { namespaceName, name } object result ∧
      same result desired = true := by
  have place : desired.displayName = name := by
    rw [Object.displayName, Metadata.displayName, named]
    rfl
  cases found : store.find? kind { namespaceName, name } with
  | none =>
      obtain ⟨result, after, created, deposits⟩ :=
        exists_runOn_createIfAbsent quiet named filled statusless found
      refine ⟨.created, after, desired, result, ?_, rfl, place, deposits,
        settles.created result deposits.isStored⟩
      rw [ensure, runOn_bind_of_done created]
      rfl
  | some current =>
      obtain ⟨live, read, present, liveName⟩ := sound.exists_live found
      have disagree : same live desired = false := by
        rw [holds, present] at differs
        exact differs
      have looked : (createIfAbsent namespaceName desired).runOn images store =
          (.done (.existing live), store) := by
        apply (runOn_createIfAbsent_eq_existing_iff quiet).mpr
        rw [place]
        exact ⟨present, rfl⟩
      obtain ⟨result, after, updated, deposits⟩ :=
        exists_runOn_update quiet found read
          ((settles.named live).trans liveName) (settles.version live) (settles.status live)
      refine ⟨.updated, after, merge live desired, result, ?_, rfl,
        (settles.named live).trans liveName, deposits,
        settles.merged live result deposits.isStored⟩
      rw [ensure, runOn_bind_of_done looked]
      simp only [disagree, Bool.false_eq_true, if_false]
      exact runOn_bind_of_done updated

/-- An object of the whole cluster is replaced under the name that is wanted, whatever its own. -/
theorem exists_runOn_ensureCluster
    (reads : ∀ stored, store.find? kind (Key.ofCluster name) = some stored →
      ∃ live, stored.read? = some live)
    (differs : store.holds same (Key.ofCluster name) desired = false) :
    ∃ change after object result,
      (ensureCluster desired same merge).runOn images store = (.done change, after) ∧
      change.isMutation = true ∧
      Deposits store after kind (Key.ofCluster name) object result ∧
      same result desired = true := by
  have place : desired.displayName = name := by
    rw [Object.displayName, Metadata.displayName, named]
    rfl
  cases found : store.find? kind (Key.ofCluster name) with
  | none =>
      have looked : (get kind (Key.ofCluster desired.displayName)).runOn images store =
          (.done none, store) := by
        rw [place]
        exact (runOn_get_eq_done_iff quiet).mpr ⟨found, rfl⟩
      obtain ⟨result, after, created, deposits⟩ :=
        exists_runOn_create quiet named filled statusless found
      refine ⟨.created, after, desired, result, ?_, rfl, deposits,
        settles.created result deposits.isStored⟩
      rw [ensureCluster, runOn_bind_of_done looked]
      exact runOn_bind_of_done (runOn_ask_of_ok created)
  | some current =>
      obtain ⟨live, read⟩ := reads current found
      have present : store.stored? kind (Key.ofCluster name) = some live := by
        rw [stored?, found, Option.bind_some, read]
      have disagree : same live desired = false := by
        rw [holds, present] at differs
        exact differs
      have looked : (get kind (Key.ofCluster desired.displayName)).runOn images store =
          (.done (some live), store) := by
        rw [place]
        exact (runOn_get_eq_done_iff quiet).mpr ⟨present, rfl⟩
      obtain ⟨result, after, replaced, deposits⟩ :=
        exists_runOn_replace quiet found read (settles.version live) (settles.status live)
      refine ⟨.updated, after, merge live desired, result, ?_, rfl, deposits,
        settles.merged live result deposits.isStored⟩
      rw [ensureCluster, runOn_bind_of_done looked]
      simp only [disagree, Bool.false_eq_true, if_false]
      rw [← place] at replaced
      exact runOn_bind_of_done (runOn_ask_of_ok replaced)

end

end Pass

end ClusterAudit
