import ClusterAudit.Proofs.Converged
import ClusterAudit.Proofs.Pass.Ensure

/-!
Work that is left for passes to do. A feature either finds nothing to do and leaves the cluster, or
does some of its work, keeps to its own objects, and wants another pass to follow.
-/

namespace ClusterAudit

/-- The work that is left of something that may have been done: none, or one pass. -/
def outstanding (isDone : Bool) : Nat :=
  if isDone then 0 else 1

@[simp]
theorem outstanding_true : outstanding true = 0 := rfl

@[simp]
theorem outstanding_false : outstanding false = 1 := rfl

theorem outstanding_le (isDone : Bool) : outstanding isDone ≤ 1 := by
  cases isDone <;> decide

/-- The image that a request is answered with, if it is. -/
def Aim.image (aim : Aim) (request : ImageRequest) : String :=
  (aim.images request).toOption.getD ""

theorem Aim.image_eq {aim : Aim} {request : ImageRequest}
    (resolves : ∃ image, aim.images request = .ok image) :
    aim.images request = .ok (aim.image request) := by
  obtain ⟨image, answered⟩ := resolves
  rw [Aim.image, answered]
  rfl

namespace Store

variable {before middle after : Store} {home : Kind → Key → Prop}

/-- Two stores hold the same outside of some places. -/
structure AgreeOutside (home : Kind → Key → Prop) (before after : Store) : Prop where
  same : ∀ kind key, ¬ home kind key → after.find? kind key = before.find? kind key
  faults : after.faults = before.faults

theorem AgreeOutside.refl : AgreeOutside home before before where
  same _ _ _ := rfl
  faults := rfl

theorem AgreeOutside.trans (first : AgreeOutside home before middle)
    (second : AgreeOutside home middle after) : AgreeOutside home before after where
  same kind key outside := (second.same kind key outside).trans (first.same kind key outside)
  faults := second.faults.trans first.faults

theorem AgreeOutside.mono {larger : Kind → Key → Prop} (agree : AgreeOutside home before after)
    (inside : ∀ kind key, home kind key → larger kind key) : AgreeOutside larger before after where
  same kind key outside := agree.same kind key fun here => outside (inside kind key here)
  faults := agree.faults

theorem AgreeOutside.quiet (agree : AgreeOutside home before after) (quiet : before.faults = []) :
    after.faults = [] :=
  agree.faults.trans quiet

theorem Deposits.agreeOutside {kind : Kind} {key : Key} {object result : Object kind}
    (deposits : Deposits before after kind key object result) (inside : home kind key) :
    AgreeOutside home before after where
  same := by
    intro other place outside
    apply deposits.elsewhere
    intro here
    obtain ⟨rfl, rfl⟩ := here
    exact outside inside
  faults := deposits.faults

theorem Alters.agreeOutside {kind : Kind} {key : Key} {change : Option (Stored kind)}
    (alters : Alters before after kind key change) (inside : home kind key) :
    AgreeOutside home before after where
  same := by
    intro other place outside
    apply alters.elsewhere
    intro here
    obtain ⟨rfl, rfl⟩ := here
    exact outside inside
  faults := alters.faults

/-- One store holds what another one holds, but for some objects of one kind that are gone. -/
structure Thins (before after : Store) (kind : Kind) : Prop where
  otherKind : ∀ other, other ≠ kind → ∀ place, after.find? other place = before.find? other place
  kept : ∀ place stored, after.find? kind place = some stored →
    before.find? kind place = some stored
  faults : after.faults = before.faults

namespace Thins

variable {kind : Kind}

theorem refl : Thins before before kind where
  otherKind _ _ _ := rfl
  kept _ _ found := found
  faults := rfl

theorem trans (first : Thins before middle kind) (second : Thins middle after kind) :
    Thins before after kind where
  otherKind other different place :=
    (second.otherKind other different place).trans (first.otherKind other different place)
  kept place stored found := first.kept place stored (second.kept place stored found)
  faults := second.faults.trans first.faults

theorem free (thins : Thins before after kind) {place : Key}
    (absent : before.find? kind place = none) : after.find? kind place = none := by
  cases found : after.find? kind place with
  | none => rfl
  | some stored =>
      rw [thins.kept place stored found] at absent
      cases absent

theorem agreeOutside (thins : Thins before after kind) (inside : ∀ place, home kind place) :
    AgreeOutside home before after where
  same := by
    intro other place outside
    apply thins.otherKind
    intro sameKind
    rw [sameKind] at outside
    exact outside (inside place)
  faults := thins.faults

end Thins

/-- The deletion of an object leaves all others. -/
theorem Alters.thins {kind : Kind} {key : Key} (alters : Alters before after kind key none) :
    Thins before after kind where
  otherKind _ different place := alters.otherKind different place
  kept := by
    intro place stored found
    by_cases here : place = key
    · rw [here, alters.here] at found
      cases found
    · rw [← alters.otherPlace here]
      exact found
  faults := alters.faults

end Store

namespace Pass

open Store

variable {images : ImageSource} {store after : Store} {home : Kind → Key → Prop}
  {intact : Store → Prop} {work : Store → Nat}

/-- Some work was done on the objects of a feature, and what is left can be worked with. -/
structure Advance (home : Kind → Key → Prop) (intact : Store → Prop) (work : Store → Nat)
    (before after : Store) : Prop where
  agree : AgreeOutside home before after
  intact : intact after
  less : work after < work before

/-- How a part of a pass ends that has no reason to fail. -/
inductive Proceeds (home : Kind → Key → Prop) (intact : Store → Prop) (work : Store → Nat)
    (store : Store) : Ending Outcome × Store → Prop
  | settled (outcome : Outcome) : outcome.progress = .done →
      Proceeds home intact work store (.done outcome, store)
  | advanced (outcome : Outcome) (after : Store) : outcome.progress = .requeue →
      Advance home intact work store after →
      Proceeds home intact work store (.done outcome, after)

theorem Proceeds.bind {Value : Type} {first : Pass Value} {second : Value → Pass Outcome}
    {value : Value} {middle : Store} (ended : first.runOn images store = (.done value, middle))
    (rest : Proceeds home intact work store ((second value).runOn images middle)) :
    Proceeds home intact work store ((first >>= second).runOn images store) := by
  rw [runOn_bind_of_done ended]
  exact rest

/-- A removal does all of its work at once, and none if there is nothing to remove. -/
theorem Proceeds.of_removal {isGone : Store → Bool} {gone : Prop} {pass : Pass Outcome}
    {outcome nothing : Outcome}
    (whenDone : ∀ {result last},
      (pass.runOn images store = (.done result, last) ∧ result.progress = .done) ↔
        gone ∧ result = nothing ∧ last = store)
    (whenGone : isGone store = true → gone)
    (ended : pass.runOn images store = (.done outcome, after))
    (agree : AgreeOutside home store after) (kept : intact after) (goneAfter : isGone after = true) :
    Proceeds home intact (fun store => outstanding (isGone store)) store
      (pass.runOn images store) := by
  rw [ended]
  cases progressed : outcome.progress with
  | done =>
      obtain ⟨_, _, same⟩ := whenDone.mp ⟨ended, progressed⟩
      rw [same]
      exact .settled outcome progressed
  | requeue =>
      -- If everything had been gone before, the pass would have been done.
      have present : isGone store = false := by
        cases before : isGone store with
        | false => rfl
        | true =>
            obtain ⟨finished, isDone⟩ := whenDone.mpr ⟨whenGone before, rfl, rfl⟩
            have same : outcome = nothing :=
              Ending.done.inj (Prod.mk.inj (ended.symm.trans finished)).1
            rw [← same, progressed] at isDone
            cases isDone
      refine .advanced outcome after progressed { agree, intact := kept, less := ?_ }
      rw [goneAfter, present]
      exact Nat.zero_lt_one

/-- A step that brings an object into place comes first: it either takes effect, or leaves the
cluster to what follows. -/
theorem Proceeds.guard {step : Pass Change} {rest : Pass Outcome} {inPlace : Bool}
    (unneeded : inPlace = true → step.runOn images store = (.done .unchanged, store))
    (needed : inPlace = false → ∃ change after,
      step.runOn images store = (.done change, after) ∧ change.isMutation = true ∧
      Advance home intact work store after)
    (follows : inPlace = true → Proceeds home intact work store (rest.runOn images store)) :
    Proceeds home intact work store ((step >>= fun change =>
      if change.isMutation = true then pure .changed else rest).runOn images store) := by
  cases isInPlace : inPlace with
  | true =>
      refine .bind (unneeded isInPlace) ?_
      exact follows isInPlace
  | false =>
      obtain ⟨change, after, ended, mutated, advance⟩ := needed isInPlace
      refine .bind ended ?_
      rw [if_pos mutated]
      exact .advanced _ after rfl advance

section Ensure

variable {kind : Kind} {namespaceName name : String} {desired : Object kind}
  {same : Object kind → Object kind → Bool} {merge : Object kind → Object kind → Object kind}
  {rest : Pass Outcome} (quiet : store.faults = []) (settles : Managed.Settles same merge desired)
  (named : desired.metadata.name = some name) (filled : name ≠ "")
  (statusless : desired.status = none)

include quiet settles named filled statusless

theorem Proceeds.ensure (sound : store.IsSoundAt kind { namespaceName, name })
    (advances : store.holds same { namespaceName, name } desired = false →
      ∀ {after : Store} {object result : Object kind},
        Deposits store after kind { namespaceName, name } object result →
        object.displayName = name → same result desired = true →
        Advance home intact work store after)
    (follows : store.holds same { namespaceName, name } desired = true →
      Proceeds home intact work store (rest.runOn images store)) :
    Proceeds home intact work store ((Pass.ensure namespaceName desired same merge >>= fun change =>
      if change.isMutation = true then pure .changed else rest).runOn images store) := by
  have place : desired.displayName = name := by
    rw [Object.displayName, Metadata.displayName, named]
    rfl
  refine .guard ?_ ?_ follows
  · intro present
    apply (runOn_ensure_eq_unchanged_iff quiet).mpr
    rw [place]
    exact ⟨present, rfl⟩
  · intro missing
    obtain ⟨change, after, object, result, ensured, mutated, ownName, deposits, settled⟩ :=
      exists_runOn_ensure quiet settles named filled statusless sound missing
    exact ⟨change, after, ensured, mutated, advances missing deposits ownName settled⟩

theorem Proceeds.ensureCluster
    (reads : ∀ stored, store.find? kind (Key.ofCluster name) = some stored →
      ∃ live, stored.read? = some live)
    (advances : store.holds same (Key.ofCluster name) desired = false →
      ∀ {after : Store} {object result : Object kind},
        Deposits store after kind (Key.ofCluster name) object result →
        same result desired = true → Advance home intact work store after)
    (follows : store.holds same (Key.ofCluster name) desired = true →
      Proceeds home intact work store (rest.runOn images store)) :
    Proceeds home intact work store ((Pass.ensureCluster desired same merge >>= fun change =>
      if change.isMutation = true then pure .changed else rest).runOn images store) := by
  have place : desired.displayName = name := by
    rw [Object.displayName, Metadata.displayName, named]
    rfl
  refine .guard ?_ ?_ follows
  · intro present
    apply (runOn_ensureCluster_eq_unchanged_iff quiet).mpr
    rw [place]
    exact ⟨present, rfl⟩
  · intro missing
    obtain ⟨change, after, object, result, ensured, mutated, deposits, settled⟩ :=
      exists_runOn_ensureCluster quiet settles named filled statusless reads missing
    exact ⟨change, after, ensured, mutated, advances missing deposits settled⟩

end Ensure

/-- Whatever is at a place, a deletion goes through, and says whether anything was there. -/
theorem exists_runOn_deleteIfPresent (images : ImageSource) (quiet : store.faults = [])
    (kind : Kind) (key : Key) :
    ∃ after,
      (deleteIfPresent kind key).runOn images store =
        (.done (store.find? kind key).isSome, after) ∧
      Alters store after kind key none := by
  cases place : store.find? kind key with
  | none =>
      refine ⟨store, runOn_deleteIfPresent_of_free quiet place, ?_⟩
      rw [← place]
      exact Alters.refl
  | some stored => exact runOn_deleteIfPresent_of_taken quiet place

/-- Whatever is at a place, a step brings the object to what is wanted. -/
theorem exists_runOn_ensure_holds {kind : Kind} {namespaceName name : String}
    {desired : Object kind} {same : Object kind → Object kind → Bool}
    {merge : Object kind → Object kind → Object kind} (images : ImageSource)
    (quiet : store.faults = []) (settles : Managed.Settles same merge desired)
    (named : desired.metadata.name = some name) (filled : name ≠ "")
    (statusless : desired.status = none) (sound : store.IsSoundAt kind { namespaceName, name }) :
    ∃ change after,
      (ensure namespaceName desired same merge).runOn images store = (.done change, after) ∧
      after.holds same { namespaceName, name } desired = true ∧
      after.IsSoundAt kind { namespaceName, name } ∧
      AgreeOutside (fun other place => other = kind ∧ place = { namespaceName, name }) store
        after := by
  cases present : store.holds same { namespaceName, name } desired with
  | false =>
      obtain ⟨change, after, object, result, ensured, _, ownName, deposits, settled⟩ :=
        exists_runOn_ensure quiet settles named filled statusless sound present
      exact ⟨change, after, ensured, deposits.holds settled, deposits.sound ownName,
        deposits.agreeOutside ⟨rfl, rfl⟩⟩
  | true =>
      have place : desired.displayName = name := by
        rw [Object.displayName, Metadata.displayName, named]
        rfl
      refine ⟨.unchanged, store, ?_, present, sound, AgreeOutside.refl⟩
      apply (runOn_ensure_eq_unchanged_iff quiet).mpr
      rw [place]
      exact ⟨present, rfl⟩

end Pass

end ClusterAudit
