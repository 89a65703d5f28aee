import ClusterAudit.Proofs.Converged
import ClusterAudit.Proofs.Naming

/-!
The scan API in a pass that changes nothing. The pass is done with it exactly when it is in place,
or, if it is not wanted, when it is gone.
-/

namespace ClusterAudit.Pass.ScanApi

open Store

variable {context : PassContext} {images : ImageSource} {store after : Store}
  {desired : Deployment} {outcome : Outcome}

/-- The scan API is in place, and a pass reports on it. -/
structure Settled (aim : Aim) (store : Store) (report : ConditionUpdate) : Prop where
  secret :
    (store.find? .secret (aim.owner.key (Naming.scanApiSecret aim.owner.name))).isSome = true
  deployment :
    ∃ image live, aim.images (request aim) = .ok image ∧
      store.stored? .deployment (aim.owner.key (Naming.scanApi aim.owner.name)) = some live ∧
      Managed.sameDeploymentAndResources live
        (Template.ScanApi.deployment aim.spec aim.owner image) = true ∧
      report = condition (live.status.getD {})
  service :
    store.holds Managed.sameService (aim.owner.key (Naming.scanApi aim.owner.name))
      (Template.ScanApi.service aim.owner) = true

section

variable (quiet : store.faults = [])

include quiet

theorem runOn_deploy_eq_false_iff {owner : Owner} {token : String} :
    (deploy owner token desired).runOn images store = (.done false, after) ↔
      (store.find? .secret (owner.key (Naming.scanApiSecret owner.name))).isSome = true ∧
        store.holds Managed.sameDeploymentAndResources (owner.key desired.displayName)
          desired = true ∧
        store.holds Managed.sameService (owner.key (Naming.scanApi owner.name))
          (Template.ScanApi.service owner) = true ∧
        after = store := by
  have named : (Template.ScanApi.tokenSecret owner token).metadata.name =
      some (Naming.scanApiSecret owner.name) := rfl
  have filled : Naming.scanApiSecret owner.name ≠ "" := Naming.append_ne_empty (by decide)
  simp only [deploy, runOn_bind_eq_done_iff]
  constructor
  · rintro ⟨secret, first, offered, deployment, second, ensured, service, third, ensuredToo,
      finished⟩
    simp only [runOn_pure, Prod.mk.injEq, Ending.done.injEq, Bool.or_eq_false_iff,
      Change.isMutation_eq_false_iff] at finished
    obtain ⟨⟨⟨rfl, rfl⟩, rfl⟩, rfl⟩ := finished
    obtain ⟨present, rfl⟩ := (runOn_createTolerant_eq_false_iff quiet named filled).mp offered
    obtain ⟨deploymentHolds, rfl⟩ := (runOn_ensure_eq_unchanged_iff quiet).mp ensured
    obtain ⟨serviceHolds, rfl⟩ := (runOn_ensure_eq_unchanged_iff quiet).mp ensuredToo
    exact ⟨present, deploymentHolds, serviceHolds, rfl⟩
  · rintro ⟨present, deploymentHolds, serviceHolds, rfl⟩
    exact ⟨false, after,
      (runOn_createTolerant_eq_false_iff quiet named filled).mpr ⟨present, rfl⟩,
      .unchanged, after, (runOn_ensure_eq_unchanged_iff quiet).mpr ⟨deploymentHolds, rfl⟩,
      .unchanged, after, (runOn_ensure_eq_unchanged_iff quiet).mpr ⟨serviceHolds, rfl⟩, rfl⟩

/-- A pass is done with the scan API exactly when it is in place. -/
theorem runOn_reconcile_eq_done_iff :
    ((reconcile context).runOn images store = (.done outcome, after) ∧
        outcome.progress = .done) ↔
      (∃ report, Settled (context.aim images) store report ∧ outcome = .settled report) ∧
        after = store := by
  simp only [reconcile, runOn_bind_eq_done_iff]
  constructor
  · rintro ⟨⟨image, first, resolved, changed, second, deployed, finished⟩, isDone⟩
    obtain ⟨answered, rfl⟩ := runOn_resolve_eq_done_iff.mp resolved
    cases changed with
    | true =>
        cases finished
        cases isDone
    | false =>
        obtain ⟨secret, deployment, service, rfl⟩ :=
          (runOn_deploy_eq_false_iff quiet).mp deployed
        simp only [Bool.false_eq_true, if_false, runOn_bind_eq_done_iff] at finished
        obtain ⟨found, third, looked, finished⟩ := finished
        obtain ⟨finds, rfl⟩ := (runOn_get_eq_done_iff quiet).mp looked
        obtain ⟨live, present, agree⟩ := holds_iff.mp deployment
        obtain rfl := finds.eq_some present
        cases finished
        exact ⟨⟨_, {
          secret
          deployment := ⟨image, live, answered, present, agree, rfl⟩
          service }, rfl⟩, rfl⟩
  · rintro ⟨⟨report, settled, rfl⟩, rfl⟩
    obtain ⟨image, live, answered, present, agree, rfl⟩ := settled.deployment
    refine ⟨⟨image, after, runOn_resolve_eq_done_iff.mpr ⟨answered, rfl⟩, false, after,
      (runOn_deploy_eq_false_iff quiet).mpr
        ⟨settled.secret, holds_iff.mpr ⟨live, present, agree⟩, settled.service, rfl⟩, ?_⟩, rfl⟩
    simp only [Bool.false_eq_true, if_false, runOn_bind_eq_done_iff]
    exact ⟨some live, after, (runOn_get_eq_done_iff quiet).mpr ⟨present, rfl⟩, rfl⟩

theorem runOn_cleanup_eq_false_iff {owner : Owner} :
    (cleanup owner).runOn images store = (.done false, after) ↔
      Gone owner store ∧ after = store := by
  simp only [cleanup, runOn_bind_eq_done_iff]
  constructor
  · rintro ⟨secret, first, deleted, deployment, second, deletedNext, service, third, deletedLast,
      finished⟩
    simp only [runOn_pure, Prod.mk.injEq, Ending.done.injEq, Bool.or_eq_false_iff] at finished
    obtain ⟨⟨⟨rfl, rfl⟩, rfl⟩, rfl⟩ := finished
    obtain ⟨secretFree, rfl⟩ := (runOn_deleteIfPresent_eq_false_iff quiet).mp deleted
    obtain ⟨deploymentFree, rfl⟩ := (runOn_deleteIfPresent_eq_false_iff quiet).mp deletedNext
    obtain ⟨serviceFree, rfl⟩ := (runOn_deleteIfPresent_eq_false_iff quiet).mp deletedLast
    exact ⟨{ secret := secretFree, deployment := deploymentFree, service := serviceFree }, rfl⟩
  · rintro ⟨gone, rfl⟩
    exact ⟨false, after, runOn_deleteIfPresent_of_free quiet gone.secret, false, after,
      runOn_deleteIfPresent_of_free quiet gone.deployment, false, after,
      runOn_deleteIfPresent_of_free quiet gone.service, rfl⟩

/-- A pass is done with a scan API that is not wanted exactly when it is gone. -/
theorem runOn_tearDown_eq_done_iff :
    ((tearDown context).runOn images store = (.done outcome, after) ∧
        outcome.progress = .done) ↔
      Gone context.owner store ∧
        outcome = .ofChange false
          (context.disabled .scanApiDegraded "ScanApiDisabled" "Scan API is disabled") ∧
        after = store := by
  simp only [tearDown, runOn_bind_eq_done_iff]
  constructor
  · rintro ⟨⟨deleted, middle, cleaned, finished⟩, isDone⟩
    cases finished
    cases deleted with
    | true => cases isDone
    | false =>
        obtain ⟨gone, rfl⟩ := (runOn_cleanup_eq_false_iff quiet).mp cleaned
        exact ⟨gone, rfl, rfl⟩
  · rintro ⟨gone, rfl, rfl⟩
    exact ⟨⟨false, after, (runOn_cleanup_eq_false_iff quiet).mpr ⟨gone, rfl⟩, rfl⟩, rfl⟩

end

/-! ## Seen from outside -/

section

variable
  (sameSecrets : ∀ key, after.find? .secret key = store.find? .secret key)
  (sameDeployments : ∀ key, after.find? .deployment key = store.find? .deployment key)
  (sameServices : ∀ key, after.find? .service key = store.find? .service key)

include sameSecrets sameDeployments sameServices

theorem Settled.congr {aim : Aim} {report : ConditionUpdate}
    (settled : Settled aim store report) : Settled aim after report where
  secret := by
    rw [sameSecrets]
    exact settled.secret
  deployment := by
    rw [stored?_congr (sameDeployments _)]
    exact settled.deployment
  service := by
    rw [holds_congr (sameServices _)]
    exact settled.service

theorem Gone.congr {owner : Owner} (gone : Gone owner store) : Gone owner after where
  secret := (sameSecrets _).trans gone.secret
  deployment := (sameDeployments _).trans gone.deployment
  service := (sameServices _).trans gone.service

end

theorem Settled.inPlace {aim : Aim} {report : ConditionUpdate}
    (settled : Settled aim store report) : InPlace aim store where
  secret := settled.secret
  deployment := by
    obtain ⟨image, live, answered, present, agree, _⟩ := settled.deployment
    exact ⟨image, answered, holds_iff.mpr ⟨live, present, agree⟩⟩
  service := settled.service

end ClusterAudit.Pass.ScanApi
