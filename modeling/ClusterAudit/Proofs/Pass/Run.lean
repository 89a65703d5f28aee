import ClusterAudit.Proofs.Cluster.Store
import ClusterAudit.World

/-!
Passes that run alone: a pass against a store, with a function that answers requests for images.
Running a part of a pass and then the rest is running the whole, so that what a pass does is told
part by part. The operator at work runs its passes in this way.
-/

namespace ClusterAudit

deriving instance DecidableEq for Ending

abbrev ImageSource := ImageRequest → Except ImageError String

namespace Pass

variable {First Second Result : Type} {images : ImageSource} {store after : Store}

def runOn (images : ImageSource) (store : Store) : Pass Result → Ending Result × Store
  | .done result => (.done result, store)
  | .fail error => (.failed error, store)
  | .crash => (.crashed, store)
  | .call request next =>
      let (reply, store) := store.answer request
      runOn images store (next reply)
  | .image request next => runOn images store (next (images request))
  | .note _ next => runOn images store next

/-! ## Sequences -/

/-- How a sequence ends once its first part has ended. -/
def resume (images : ImageSource) (second : First → Pass Second) :
    Ending First × Store → Ending Second × Store
  | (.done result, store) => runOn images store (second result)
  | (.failed error, store) => (.failed error, store)
  | (.crashed, store) => (.crashed, store)

theorem runOn_bind (first : Pass First) (second : First → Pass Second) (store : Store) :
    (first >>= second).runOn images store =
      resume images second (first.runOn images store) := by
  change (first.andThen second).runOn images store = _
  induction first generalizing store with
  | done result => rfl
  | fail error => rfl
  | crash => rfl
  | call request next inductionHypothesis => exact inductionHypothesis _ _
  | image request next inductionHypothesis => exact inductionHypothesis _ _
  | note feature next inductionHypothesis => exact inductionHypothesis _

@[simp]
theorem runOn_pure (result : Result) (store : Store) :
    (pure result : Pass Result).runOn images store = (.done result, store) := rfl

/-- A sequence is done when both its parts are. -/
theorem runOn_bind_eq_done_iff {first : Pass First} {second : First → Pass Second}
    {result : Second} :
    (first >>= second).runOn images store = (.done result, after) ↔
      ∃ value middle, first.runOn images store = (.done value, middle) ∧
        (second value).runOn images middle = (.done result, after) := by
  rw [runOn_bind]
  constructor
  · intro finished
    cases ended : first.runOn images store with
    | mk ending middle =>
        rw [ended] at finished
        cases ending with
        | done value => exact ⟨value, middle, rfl, finished⟩
        | failed error => cases finished
        | crashed => cases finished
  · rintro ⟨value, middle, ended, finished⟩
    rw [ended]
    exact finished

theorem runOn_bind_of_done {first : Pass First} {second : First → Pass Second} {value : First}
    {middle : Store} (ended : first.runOn images store = (.done value, middle)) :
    (first >>= second).runOn images store = (second value).runOn images middle := by
  rw [runOn_bind, ended]
  rfl

theorem runOn_bind_of_failed {first : Pass First} {second : First → Pass Second}
    {error : ReconcileError} {middle : Store}
    (ended : first.runOn images store = (.failed error, middle)) :
    (first >>= second).runOn images store = (.failed error, middle) := by
  rw [runOn_bind, ended]
  rfl

/-- A sequence whose second part does nothing leaves what its first part leaves. -/
theorem resume_pure_snd {First Second : Type} (images : ImageSource) (result : First → Second)
    (ran : Ending First × Store) :
    (resume images (fun value => pure (result value)) ran).2 = ran.2 := by
  obtain ⟨ending, after⟩ := ran
  cases ending <;> rfl

/-! ## Single steps -/

theorem runOn_attempt (request : Call) :
    (attempt request).runOn images store =
      (.done (store.answer request).1, (store.answer request).2) := rfl

theorem runOn_attempt_eq_done_iff {request : Call} {reply : Except ClusterError request.Reply} :
    (attempt request).runOn images store = (.done reply, after) ↔
      store.answer request = (reply, after) := by
  rw [runOn_attempt, Prod.mk.injEq, Ending.done.injEq, Prod.ext_iff]

theorem runOn_ask_of_ok {request : Call} {reply : request.Reply}
    (answered : store.answer request = (.ok reply, after)) :
    (ask request).runOn images store = (.done reply, after) := by
  simp only [ask, runOn, answered]

theorem runOn_ask_eq_done_iff {request : Call} {reply : request.Reply} :
    (ask request).runOn images store = (.done reply, after) ↔
      store.answer request = (.ok reply, after) := by
  constructor
  · intro finished
    simp only [ask, runOn] at finished
    cases answered : store.answer request with
    | mk answer middle =>
        rw [answered] at finished
        cases answer with
        | error error => cases finished
        | ok value =>
            cases finished
            rfl
  · exact runOn_ask_of_ok

theorem runOn_ask_cases (request : Call) (images : ImageSource) (store : Store) :
    (∃ reply after, store.answer request = (.ok reply, after) ∧
      (ask request).runOn images store = (.done reply, after)) ∨
    ∃ error after, store.answer request = (.error error, after) ∧
      (ask request).runOn images store = (.failed (.cluster error), after) := by
  cases answered : store.answer request with
  | mk answer after =>
      cases answer with
      | ok reply => exact Or.inl ⟨reply, after, rfl, runOn_ask_of_ok answered⟩
      | error error =>
          refine Or.inr ⟨error, after, rfl, ?_⟩
          simp only [ask, runOn, answered]

theorem runOn_ask_snd (images : ImageSource) (store : Store) (request : Call) :
    ((ask request).runOn images store).2 = (store.answer request).2 := by
  simp only [ask, runOn]
  cases (store.answer request).1 <;> rfl

theorem runOn_ask_of_refuses (images : ImageSource) {request : Call}
    (refused : store.Refuses request) :
    ∃ error, (ask request).runOn images store = (.failed (.cluster error), store) := by
  obtain ⟨same, error, failed⟩ := refused
  refine ⟨error, ?_⟩
  simp only [ask, runOn, failed, same]

theorem runOn_resolve_eq_done_iff {request : ImageRequest} {image : String} :
    (resolve request).runOn images store = (.done image, after) ↔
      images request = .ok image ∧ after = store := by
  simp only [resolve, runOn]
  cases images request with
  | error error => simp [runOn]
  | ok found => simp [runOn, eq_comm]

theorem runOn_configured_eq_done_iff {Value : Type} {read : Except Misconfiguration Value}
    {value : Value} :
    (configured read).runOn images store = (.done value, after) ↔
      read = .ok value ∧ after = store := by
  cases read with
  | error cause => simp [configured, runOn]
  | ok found => simp [configured, runOn, eq_comm]

section Reads

variable {kind : Kind} {key : Key} (quiet : store.faults = [])

include quiet

theorem runOn_get_eq_done_iff {found : Option (Object kind)} :
    (get kind key).runOn images store = (.done found, after) ↔
      store.Finds kind key found ∧ after = store := by
  rw [get, runOn_ask_eq_done_iff, ← Store.get_eq_ok_iff quiet]
  simp [Store.answer, eq_comm (a := store)]

theorem runOn_list_eq_done_iff {namespaceName selector : String} {objects : List (Object kind)} :
    (list kind namespaceName selector).runOn images store = (.done objects, after) ↔
      store.Lists kind namespaceName selector objects ∧ after = store := by
  rw [list, runOn_ask_eq_done_iff, ← Store.list_eq_ok_iff quiet]
  simp [Store.answer, eq_comm (a := store)]

end Reads

end Pass

/-! ## Whole passes -/

/-- One pass over a configuration, with a token from the store's supply. -/
def Store.reconcile (store : Store) (images : ImageSource) (policyName : String) (key : Key)
    (now : Instant) : Ending Progress × Store :=
  let (token, store) := store.freshIdentifier
  (Pass.reconcile policyName key now token).runOn images store

namespace ImageCatalog

def source (catalog : ImageCatalog) : ImageSource := fun request => (catalog.resolve request).1

/-- What a catalog was asked for does not change what it answers. -/
theorem source_resolve (catalog : ImageCatalog) (request : ImageRequest) :
    (catalog.resolve request).2.source = catalog.source := by
  funext other
  simp only [source, resolve]
  cases ImageReference.parse request.name request.tag with
  | error error => rfl
  | ok reference => cases ImageReference.parse other.name other.tag <;> rfl

end ImageCatalog

namespace World

theorem run_eq_runOn {Result : Type} (pass : Pass Result) (world : World) :
    ((world.run pass).1, (world.run pass).2.store) =
      pass.runOn world.catalog.source world.store := by
  induction pass generalizing world with
  | done result => rfl
  | fail error => rfl
  | crash => rfl
  | call request next inductionHypothesis => exact inductionHypothesis _ _
  | image request next inductionHypothesis =>
      have sameSource := ImageCatalog.source_resolve world.catalog request
      have sameAnswer : world.catalog.source request = (world.catalog.resolve request).1 := rfl
      cases resolved : world.catalog.resolve request with
      | mk answer catalog =>
          rw [resolved] at sameSource sameAnswer
          have followed := inductionHypothesis answer { world with catalog }
          simp only [sameSource] at followed
          simp only [run, Pass.runOn, resolved, sameAnswer]
          exact followed
  | note feature next inductionHypothesis => exact inductionHypothesis _

/-- A pass of the operator is a pass against its store, with the images of its catalog. -/
theorem reconcile_eq_reconcile (world : World) (key : Key) (now : Instant) :
    ((world.reconcile key now).1, (world.reconcile key now).2.store) =
      world.store.reconcile world.catalog.source world.policyName key now := by
  have run := run_eq_runOn
    (Pass.reconcile world.policyName key now world.freshIdentifier.1) world.freshIdentifier.2
  change _ = (Pass.reconcile world.policyName key now world.freshIdentifier.1).runOn
    world.freshIdentifier.2.catalog.source world.freshIdentifier.2.store
  rw [← run]
  simp only [World.reconcile, recordEnding]
  cases resultName _ <;> rfl

end World

end ClusterAudit
