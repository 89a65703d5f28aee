import ClusterAudit.Proofs.Converged

/-!
The workload scanner in a pass that changes nothing. The pass is done with the scanner exactly when
it is in place, or, if it is not wanted, when it is gone.
-/

namespace ClusterAudit.Pass.Workloads

open Store

variable {context : PassContext} {images : ImageSource} {store after : Store}
  {live desired : Deployment} {outcome : Outcome}

/-- No scanner of an earlier release is left that the configuration owns. -/
def IsWithoutLegacy (owner : Owner) (store : Store) : Prop :=
  ∃ found : Option Deployment,
    store.Finds .deployment (owner.key (Naming.legacyWorkloadDeployment owner.name)) found ∧
      found.any (fun legacy => legacy.metadata.isOwnedBy owner.reference.uid) = false

/-- The scanner is in place, all that a pass looks at reads well, and the pass reports on it. -/
structure Settled (aim : Aim) (store : Store) (report : ConditionUpdate) : Prop where
  configMap :
    store.holds Managed.sameConfigMap (aim.owner.key (Naming.workloadConfigMap aim.owner.name))
      (Template.Workloads.configMap aim.owner (inventory aim.owner)) = true
  deployment :
    ∃ image live, aim.images (request aim) = .ok image ∧
      store.stored? .deployment (aim.owner.key (Naming.workloadDeployment aim.owner.name)) =
        some live ∧
      Managed.sameDeploymentAndResources live
        (Template.Workloads.deployment aim.spec aim.owner image (inventory aim.owner)) = true ∧
      Template.Workloads.podRevision? live = some (Inventory.revision (inventory aim.owner)) ∧
      report = condition live
  legacy :
    aim.policy.disableLegacyWorkloadCleanup = false → IsWithoutLegacy aim.owner store

section

variable (quiet : store.faults = [])

include quiet

/-! ## In place -/

theorem runOn_removeLegacy_eq_false_iff :
    (removeLegacy context).runOn images store = (.done false, after) ↔
      IsWithoutLegacy context.owner store ∧ after = store := by
  rw [removeLegacy, runOn_bind_eq_done_iff]
  constructor
  · rintro ⟨found, middle, looked, finished⟩
    obtain ⟨finds, rfl⟩ := (runOn_get_eq_done_iff quiet).mp looked
    cases found with
    | none =>
        cases finished
        exact ⟨⟨none, finds, rfl⟩, rfl⟩
    | some legacy =>
        cases owned : legacy.metadata.isOwnedBy context.owner.reference.uid with
        | false =>
            simp only [owned, Bool.false_eq_true, if_false] at finished
            cases finished
            exact ⟨⟨some legacy, finds, owned⟩, rfl⟩
        | true =>
            simp only [owned, if_true] at finished
            obtain ⟨free, _⟩ := (runOn_deleteIfPresent_eq_false_iff quiet).mp finished
            have absent : middle.stored? .deployment
                (context.key (Naming.legacyWorkloadDeployment context.name)) = none := by
              rw [stored?, free, Option.bind_none]
            rw [Finds, absent] at finds
            cases finds
  · rintro ⟨⟨found, finds, notOwned⟩, rfl⟩
    refine ⟨found, after, (runOn_get_eq_done_iff quiet).mpr ⟨finds, rfl⟩, ?_⟩
    cases found with
    | none => rfl
    | some legacy =>
        have notOwned : legacy.metadata.isOwnedBy context.owner.reference.uid = false := notOwned
        simp only [notOwned, Bool.false_eq_true, if_false]
        rfl

theorem runOn_settle_eq_done_iff :
    ((settle context live).runOn images store = (.done outcome, after) ∧
        outcome.progress = .done) ↔
      (context.policy.disableLegacyWorkloadCleanup = false →
          IsWithoutLegacy context.owner store) ∧
        outcome = .settled (condition live) ∧ after = store := by
  cases disabled : context.policy.disableLegacyWorkloadCleanup with
  | true =>
      simp only [settle, disabled, if_true, runOn_pure]
      constructor
      · rintro ⟨finished, _⟩
        cases finished
        exact ⟨nofun, rfl, rfl⟩
      · rintro ⟨_, rfl, rfl⟩
        exact ⟨rfl, rfl⟩
  | false =>
      simp only [settle, disabled, Bool.false_eq_true, if_false, runOn_bind_eq_done_iff]
      constructor
      · rintro ⟨⟨removed, middle, ended, finished⟩, isDone⟩
        cases finished
        cases removed with
        | true => cases isDone
        | false =>
            obtain ⟨without, rfl⟩ := (runOn_removeLegacy_eq_false_iff quiet).mp ended
            exact ⟨fun _ => without, rfl, rfl⟩
      · rintro ⟨without, rfl, rfl⟩
        refine ⟨⟨false, after, ?_, rfl⟩, rfl⟩
        exact (runOn_removeLegacy_eq_false_iff quiet).mpr ⟨without trivial, rfl⟩

theorem runOn_converge_eq_done_iff {inventory : String} :
    ((converge context live desired inventory).runOn images store = (.done outcome, after) ∧
        outcome.progress = .done) ↔
      Managed.sameDeploymentAndResources live desired = true ∧
        Template.Workloads.podRevision? live = some (Inventory.revision inventory) ∧
        (context.policy.disableLegacyWorkloadCleanup = false →
          IsWithoutLegacy context.owner store) ∧
        outcome = .settled (condition live) ∧ after = store := by
  cases agree : Managed.sameDeploymentAndResources live desired with
  | false =>
      simp only [converge, agree, Bool.not_false, if_true, runOn_bind_const_eq_done_iff]
      constructor
      · rintro ⟨⟨_, rfl⟩, isDone⟩
        cases isDone
      · rintro ⟨different, _⟩
        cases different
  | true =>
      simp only [converge, agree, Bool.not_true, Bool.false_eq_true, if_false, true_and]
      by_cases current :
          Template.Workloads.podRevision? live = some (Inventory.revision inventory)
      · simp only [current, bne_self_eq_false, Bool.false_eq_true, if_false, true_and]
        exact runOn_settle_eq_done_iff quiet
      · have outdated : (Template.Workloads.podRevision? live !=
            some (Inventory.revision inventory)) = true := by
          simpa using current
        simp only [outdated, if_true, runOn_bind_const_eq_done_iff]
        constructor
        · rintro ⟨⟨_, rfl⟩, isDone⟩
          cases isDone
        · rintro ⟨same, _⟩
          exact absurd same current

/-- A pass is done with the scanner exactly when it is in place. -/
theorem runOn_reconcile_eq_done_iff :
    ((reconcile context).runOn images store = (.done outcome, after) ∧
        outcome.progress = .done) ↔
      (∃ report, Settled (context.aim images) store report ∧ outcome = .settled report) ∧
        after = store := by
  constructor
  · intro reconciled
    obtain ⟨configMap, finished, isDone⟩ := (runOn_guard_ensure_eq_done_iff quiet).mp reconciled
    simp only [runOn_bind_eq_done_iff] at finished
    obtain ⟨image, second, resolved, applied, third, looked, finished⟩ := finished
    obtain ⟨answered, rfl⟩ := runOn_resolve_eq_done_iff.mp resolved
    cases applied with
    | created object =>
        cases finished
        cases isDone
    | existing live =>
        obtain ⟨present, rfl⟩ := (runOn_createIfAbsent_eq_existing_iff quiet).mp looked
        obtain ⟨agree, current, legacy, rfl, rfl⟩ :=
          (runOn_converge_eq_done_iff quiet).mp ⟨finished, isDone⟩
        exact ⟨⟨condition live, {
          configMap
          deployment := ⟨image, live, answered, present, agree, current, rfl⟩
          legacy }, rfl⟩, rfl⟩
  · intro settled
    obtain ⟨⟨report, settled, rfl⟩, rfl⟩ := settled
    obtain ⟨image, live, answered, present, agree, current, rfl⟩ := settled.deployment
    apply (runOn_guard_ensure_eq_done_iff quiet).mpr
    refine ⟨settled.configMap, ?_, rfl⟩
    simp only [runOn_bind_eq_done_iff]
    refine ⟨image, after, runOn_resolve_eq_done_iff.mpr ⟨answered, rfl⟩, .existing live, after,
      (runOn_createIfAbsent_eq_existing_iff quiet).mpr ⟨present, rfl⟩, ?_⟩
    exact ((runOn_converge_eq_done_iff quiet).mpr
      ⟨agree, current, settled.legacy, rfl, rfl⟩).1

/-! ## Gone -/

/-- A pass is done with a scanner that is not wanted exactly when it is gone. -/
theorem runOn_tearDown_eq_done_iff :
    ((tearDown context).runOn images store = (.done outcome, after) ∧
        outcome.progress = .done) ↔
      Gone context.owner store ∧
        outcome = .ofChange false (context.disabled .workloadScanningDegraded
          "WorkloadScanningDisabled" "Workload scanning is disabled") ∧ after = store := by
  simp only [tearDown, runOn_bind_eq_done_iff]
  constructor
  · rintro ⟨⟨deployment, first, deleted, configMap, second, deletedToo, finished⟩, isDone⟩
    cases finished
    have unchanged := Outcome.progress_ofChange_eq_done_iff.mp isDone
    obtain ⟨rfl, rfl⟩ := Bool.or_eq_false_iff.mp unchanged
    obtain ⟨deploymentFree, rfl⟩ := (runOn_deleteIfPresent_eq_false_iff quiet).mp deleted
    obtain ⟨configMapFree, rfl⟩ := (runOn_deleteIfPresent_eq_false_iff quiet).mp deletedToo
    exact ⟨{ deployment := deploymentFree, configMap := configMapFree }, rfl, rfl⟩
  · rintro ⟨gone, rfl, rfl⟩
    exact ⟨⟨false, after, runOn_deleteIfPresent_of_free quiet gone.deployment, false, after,
      runOn_deleteIfPresent_of_free quiet gone.configMap, rfl⟩, rfl⟩

end

/-! ## Seen from outside -/

theorem IsWithoutLegacy.congr {owner : Owner} (without : IsWithoutLegacy owner store)
    (same : ∀ key, after.find? .deployment key = store.find? .deployment key) :
    IsWithoutLegacy owner after := by
  obtain ⟨found, finds, notOwned⟩ := without
  exact ⟨found, (finds_congr (same _)).mpr finds, notOwned⟩

theorem Settled.congr {aim : Aim} {report : ConditionUpdate} (settled : Settled aim store report)
    (sameConfigMaps : ∀ key, after.find? .configMap key = store.find? .configMap key)
    (sameDeployments : ∀ key, after.find? .deployment key = store.find? .deployment key) :
    Settled aim after report where
  configMap := by
    rw [holds_congr (sameConfigMaps _)]
    exact settled.configMap
  deployment := by
    rw [stored?_congr (sameDeployments _)]
    exact settled.deployment
  legacy := fun cleaned => (settled.legacy cleaned).congr sameDeployments

theorem Gone.congr {owner : Owner} (gone : Gone owner store)
    (sameConfigMaps : ∀ key, after.find? .configMap key = store.find? .configMap key)
    (sameDeployments : ∀ key, after.find? .deployment key = store.find? .deployment key) :
    Gone owner after where
  deployment := (sameDeployments _).trans gone.deployment
  configMap := (sameConfigMaps _).trans gone.configMap

theorem Settled.inPlace {aim : Aim} {report : ConditionUpdate}
    (settled : Settled aim store report) : InPlace aim store where
  configMap := settled.configMap
  deployment := by
    obtain ⟨image, live, answered, present, agree, current, _⟩ := settled.deployment
    exact ⟨image, live, answered, present, agree, current⟩
  legacy := by
    intro cleaned stored place
    obtain ⟨found, finds, notOwned⟩ := settled.legacy cleaned
    cases found with
    | none =>
        rw [Finds, place] at finds
        cases finds
    | some legacy =>
        have read : stored.read? = some legacy := by
          simpa [Finds, stored?, place] using finds
        rw [← Stored.metadata_of_read? read]
        exact notOwned

end ClusterAudit.Pass.Workloads
