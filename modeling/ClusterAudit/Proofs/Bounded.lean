import ClusterAudit.Proofs.Pass.Status
import ClusterAudit.Proofs.Reached
import ClusterAudit.Proofs.Work.Features

/-!
Passes that follow one another bring the cluster to what its configuration asks after a bounded
number of them. Each pass that is not done has done some of the work, and no pass undoes any. The
objects that passes read must be readable, and those that they update must stand under their own
names.
-/

namespace ClusterAudit

open Store

namespace Aim

variable {aim : Aim} {policyName : String} {store after : Store}

/-- Passes that have this aim can work with a cluster. -/
structure IsReady (aim : Aim) (policyName : String) (store : Store) : Prop where
  quiet : store.faults = []
  policy : store.policy policyName = aim.policy
  fits : ∀ feature : Feature, feature.Fits aim store
  pods :
    ∀ stored ∈ store.selected .pod aim.owner.namespaceName (aim.owner.selector .workloads),
      ∃ pod, stored.read? = some pod

namespace IsReady

variable (ready : aim.IsReady policyName store)

include ready

theorem drawn : aim.IsReady policyName store.drawn where
  quiet := ready.quiet
  policy := ready.policy
  fits feature := by
    have same : feature.Agrees aim store store.drawn := Feature.Agrees.ofSame fun _ _ _ => rfl
    exact Feature.Fits.congr same (ready.fits feature)
  pods := ready.pods

theorem current : aim.IsCurrent store :=
  Feature.isCurrent_of_fits (ready.fits .admission)

theorem ofAdvance {feature : Feature}
    (advance : Pass.Advance (feature.IsHome aim.owner) (feature.Fits aim) (feature.work aim) store
      after) :
    aim.IsReady policyName after where
  quiet := advance.agree.quiet ready.quiet
  policy := by
    have same := advance.agree.same .operatorConfig (Key.ofCluster policyName)
      Feature.not_isHome_operatorConfig
    exact (policy_congr same).trans ready.policy
  fits := fits_of_advance advance ready.fits
  pods := by
    rw [selected_congr fun key => advance.agree.same .pod key Feature.not_isHome_pod]
    exact ready.pods

theorem ofDiffersInStatus (differs : DiffersInStatus store after aim.owner.configKey)
    (current : aim.IsCurrent after) : aim.IsReady policyName after where
  quiet := differs.faults.trans ready.quiet
  policy := (policy_congr (differs.otherKind (by decide) _)).trans ready.policy
  fits feature :=
    Feature.Fits.congr (Feature.Agrees.ofDiffersInStatus differs ready.current current)
      (ready.fits feature)
  pods := by
    have same : ∀ key, after.find? .pod key = store.find? .pod key := differs.otherKind nofun
    rw [selected_congr same]
    exact ready.pods

end IsReady

/-- What passes read can be read, and what they update stands under its own name. -/
structure Fits (aim : Aim) (store : Store) : Prop where
  workloads : Feature.workloads.isEnabled aim.spec = true → Pass.Workloads.Fits aim store
  nodes : Feature.nodes.isEnabled aim.spec = true → Pass.Nodes.Fits aim store
  scans : Pass.Nodes.AreReadable aim.owner store
  admission : Feature.admission.isEnabled aim.spec = true → Pass.Admission.Fits aim store
  scanApi : Feature.scanApi.isEnabled aim.spec = true → Pass.ScanApi.Fits aim store
  pods :
    ∀ stored ∈ store.selected .pod aim.owner.namespaceName (aim.owner.selector .workloads),
      ∃ pod, stored.read? = some pod

theorem Fits.isReady (fits : aim.Fits store) (quiet : store.faults = [])
    (policy : store.policy policyName = aim.policy) (named : Pass.Nodes.IsNamed aim.owner store)
    (current : aim.IsCurrent store) : aim.IsReady policyName store where
  quiet
  policy
  fits := by
    intro feature
    cases enabled : feature.isEnabled aim.spec with
    | true =>
        rw [Feature.Fits, if_pos enabled]
        cases feature with
        | workloads => exact fits.workloads enabled
        | nodes => exact { fits.nodes enabled, named with }
        | admission => exact { fits.admission enabled with current }
        | scanApi => exact fits.scanApi enabled
    | false =>
        rw [Feature.Fits, if_neg (Bool.eq_false_iff.mp enabled)]
        cases feature with
        | workloads => exact trivial
        | nodes => exact fits.scans
        | admission => exact current
        | scanApi => exact trivial
  pods := fits.pods

/-- The images that the features ask for are found. -/
def Resolves (aim : Aim) : Prop :=
  ∀ feature : Feature, feature.isEnabled aim.spec = true →
    ∃ image, aim.images (feature.request aim) = .ok image

end Aim

namespace Pass

variable {aim : Aim} {images : ImageSource} {policyName : String} {store after : Store}
  {context : PassContext} {updates : List ConditionUpdate} {now : Instant}

/-- A report is written, whatever the features have changed, and changes nothing else. -/
theorem exists_runOn_persistStatus (quiet : store.faults = [])
    (readable : ∀ stored ∈ store.selected .pod context.owner.namespaceName
      (context.owner.selector .workloads), ∃ pod, stored.read? = some pod)
    (civil : (context.config.status.getD {}).IsCivil) (nowCivil : context.now.IsCivil)
    (current : (context.aim images).IsCurrent store) :
    ∃ after, (persistStatus context updates).runOn images store = (.done (), after) ∧
      DiffersInStatus store after context.owner.configKey ∧
      (context.aim images).IsCurrent after := by
  obtain ⟨config, present, isOf⟩ := current
  obtain ⟨stored, found, read⟩ := exists_find?_of_stored? present
  obtain ⟨pods, lists⟩ : ∃ pods,
      store.Lists .pod context.owner.namespaceName (context.owner.selector .workloads) pods :=
    ⟨_, mapM_eq_filterMap readable⟩
  have nextCivil : (nextStatus context updates pods).IsCivil :=
    isCivil_nextStatus civil nowCivil pods
  by_cases kept : nextStatus context updates pods = context.config.status.getD {}
  · refine ⟨store, ?_, DiffersInStatus.refl, config, present, isOf⟩
    exact (runOn_persistStatus_eq_done_iff quiet).mpr ⟨pods, lists, Or.inl ⟨kept, rfl⟩⟩
  · obtain ⟨after, patched, _, alters⟩ :=
      patchStatus_of_taken quiet (nextStatus context updates pods).toJson found
    have reported : (context.aim images).IsOf
        { config with status := some (nextStatus context updates pods) } :=
      { owned := isOf.owned, content := isOf.content, stays := isOf.stays }
    refine ⟨after, ?_, DiffersInStatus.ofAlters found alters, _, ?_, reported⟩
    · exact (runOn_persistStatus_eq_done_iff quiet).mpr ⟨pods, lists, Or.inr ⟨kept, patched⟩⟩
    · rw [stored?, alters.here, Option.bind_some]
      exact Stored.read?_patchedStatus read nextCivil

/-- The features of a pass that is ready go through, and its report is written. If the cluster was
changed, there is less to do. -/
theorem exists_runOn_features (ready : (context.aim images).IsReady policyName store)
    (plain : Selector.isPlain context.name = true) (resolves : (context.aim images).Resolves)
    (current : store.stored? .auditConfig context.owner.configKey = some context.config)
    (nowCivil : context.now.IsCivil) :
    ∃ progress updates middle after,
      (runFeatures context Feature.all).runOn images store = (.done (progress, updates), middle) ∧
      (persistStatus context updates).runOn images middle = (.done (), after) ∧
      (context.aim images).IsReady policyName after ∧
      (progress = .requeue → (context.aim images).work after < (context.aim images).work store) := by
  have isOf : (context.aim images).IsOf context.config := by
    obtain ⟨config, present, isOf⟩ := ready.current
    cases present.symm.trans current
    exact isOf
  obtain ⟨stored, found, read⟩ := exists_find?_of_stored? current
  have civil := Stored.isCivil_of_read? read
  obtain ⟨progress, updates, middle, ended, finished⟩ :=
    exists_runOn_runFeatures ready.quiet plain current isOf resolves ready.fits Feature.all
  have worked : (context.aim images).IsReady policyName middle ∧
      (progress = .requeue →
        (context.aim images).work middle < (context.aim images).work store) := by
    rcases finished with nothing | something
    · obtain ⟨isDone, rfl⟩ := nothing
      refine ⟨ready, ?_⟩
      intro wantsMore
      rw [isDone] at wantsMore
      cases wantsMore
    · obtain ⟨_, feature, advance⟩ := something
      exact ⟨ready.ofAdvance advance, fun _ => Aim.work_lt_of_advance advance⟩
  obtain ⟨middleReady, less⟩ := worked
  obtain ⟨after, persisted, differs, currentAfter⟩ :=
    exists_runOn_persistStatus middleReady.quiet middleReady.pods civil nowCivil
      middleReady.current
  -- The report changes a status, which belongs to no feature.
  have sameWork : (context.aim images).work after = (context.aim images).work middle :=
    Aim.work_congr fun _ =>
      Feature.Agrees.ofDiffersInStatus differs middleReady.current currentAfter
  refine ⟨progress, updates, middle, after, ended, persisted,
    middleReady.ofDiffersInStatus differs currentAfter, ?_⟩
  rw [sameWork]
  exact less

/-- A pass that is ready goes through, and leaves the cluster ready for another one. If that is to
follow, it has less to do. -/
theorem exists_reconcile_of_isReady (ready : aim.IsReady policyName store)
    (plain : Selector.isPlain aim.owner.name = true) (resolves : aim.Resolves)
    (nowCivil : now.IsCivil) :
    ∃ progress after,
      store.reconcile aim.images policyName aim.owner.configKey now = (.done progress, after) ∧
      aim.IsReady policyName after ∧ (progress = .requeue → aim.work after < aim.work store) := by
  obtain ⟨config, current, isOf⟩ := ready.current
  have sameAim : (store.context policyName config aim.owner now).aim aim.images = aim := by
    simp only [PassContext.aim, PassContext.spec, Store.context, isOf.content, ready.policy]
  have identified : (configured (Owner.of config)).runOn aim.images store.drawn =
      (.done aim.owner, store.drawn) :=
    runOn_configured_eq_done_iff.mpr ⟨isOf.owned, rfl⟩
  have drawnReady : ((store.context policyName config aim.owner now).aim aim.images).IsReady
      policyName store.drawn := by
    rw [sameAim]
    exact ready.drawn
  have resolvesAll : ((store.context policyName config aim.owner now).aim
      aim.images).Resolves := by
    rw [sameAim]
    exact resolves
  obtain ⟨progress, updates, middle, after, ended, persisted, afterReady, less⟩ :=
    exists_runOn_features drawnReady plain resolvesAll current nowCivil
  rw [sameAim] at afterReady less
  have drawnWork : aim.work store.drawn = aim.work store :=
    Aim.work_congr fun _ => Feature.Agrees.ofSame fun _ _ _ => rfl
  rw [drawnWork] at less
  refine ⟨progress, after, ?_, afterReady, less⟩
  rw [reconcile_of_stays ready.quiet current isOf.stays, runOn_bind_of_done identified]
  refine (runOn_bind_of_done ended).trans ?_
  exact runOn_bind_of_done persisted

end Pass

/-! ## Passes in a row -/

namespace Store

variable (images : ImageSource) (policyName : String) (key : Key) (clock : Nat → Instant)

/-- The cluster after a number of passes over a configuration, at the times of a clock. -/
def afterPasses (store : Store) : Nat → Store
  | 0 => store
  | passes + 1 =>
      ((store.afterPasses passes).reconcile images policyName key (clock passes)).2

/-- How the pass ends that follows a number of others. -/
def passEnding (store : Store) (passes : Nat) : Ending Progress :=
  ((store.afterPasses images policyName key clock passes).reconcile images policyName key
    (clock passes)).1

end Store

namespace Aim

variable {aim : Aim} {policyName : String} {store : Store} {clock : Nat → Instant}

/-- After some passes one of them has been done, or each has done some of the work. -/
theorem exists_done_or_worked (ready : aim.IsReady policyName store)
    (plain : Selector.isPlain aim.owner.name = true) (resolves : aim.Resolves)
    (civil : ∀ pass, (clock pass).IsCivil) (passes : Nat) :
    (∃ last < passes,
      (∀ earlier < last,
        store.passEnding aim.images policyName aim.owner.configKey clock earlier =
          .done .requeue) ∧
      store.passEnding aim.images policyName aim.owner.configKey clock last = .done .done) ∨
    ((∀ earlier < passes,
        store.passEnding aim.images policyName aim.owner.configKey clock earlier =
          .done .requeue) ∧
      aim.IsReady policyName
        (store.afterPasses aim.images policyName aim.owner.configKey clock passes) ∧
      aim.work (store.afterPasses aim.images policyName aim.owner.configKey clock passes) +
        passes ≤ aim.work store) := by
  -- The work that is left and the passes that were run never exceed the work at the start.
  induction passes with
  | zero =>
      right
      refine ⟨?_, ready, Nat.le_refl _⟩
      intro earlier before
      cases before
  | succ passes inductionHypothesis =>
      rcases inductionHypothesis with finished | worked
      · obtain ⟨last, before, rest⟩ := finished
        exact Or.inl ⟨last, Nat.lt_succ_of_lt before, rest⟩
      · obtain ⟨requeued, readyNow, spent⟩ := worked
        obtain ⟨progress, after, ended, readyAfter, less⟩ :=
          Pass.exists_reconcile_of_isReady readyNow plain resolves (civil passes)
        have endedWith : store.passEnding aim.images policyName aim.owner.configKey clock passes =
            .done progress := congrArg Prod.fst ended
        cases progress with
        | done => exact Or.inl ⟨passes, Nat.lt_succ_self passes, requeued, endedWith⟩
        | requeue =>
            have next : store.afterPasses aim.images policyName aim.owner.configKey clock
                (passes + 1) = after := congrArg Prod.snd ended
            have fewer := less rfl
            right
            rw [next]
            refine ⟨?_, readyAfter, by omega⟩
            intro earlier before
            rcases Nat.lt_succ_iff_lt_or_eq.mp before with earlierStill | isThis
            · exact requeued earlier earlierStill
            · rw [isThis]
              exact endedWith

end Aim

/-- Passes over a configuration, one after the other, are done after a bounded number of them: one
for every node, one for every scan that carries its labels, and ten. Until then each wants another
one to follow. -/
theorem exists_done_within {store : Store} {images : ImageSource} {policyName : String}
    {config : AuditConfig} {owner : Owner} {clock : Nat → Instant} (quiet : store.faults = [])
    (current : store.stored? .auditConfig owner.configKey = some config)
    (stays : config.metadata.deletionTimestamp = none) (owned : Owner.of config = .ok owner)
    (valid : Naming.isValid owner.name = true) (named : Pass.Nodes.IsNamed owner store)
    (fits : (store.aim policyName config owner images).Fits store)
    (resolves : (store.aim policyName config owner images).Resolves)
    (civil : ∀ pass, (clock pass).IsCivil) :
    ∃ passes < (store.among .node "").length + Pass.Nodes.marked owner store + 10,
      (∀ earlier < passes,
        store.passEnding images policyName owner.configKey clock earlier = .done .requeue) ∧
      store.passEnding images policyName owner.configKey clock passes = .done .done := by
  have isCurrent : (store.aim policyName config owner images).IsCurrent store :=
    ⟨config, current, { owned, content := rfl, stays }⟩
  have ready : (store.aim policyName config owner images).IsReady policyName store :=
    fits.isReady quiet rfl named isCurrent
  have plain : Selector.isPlain owner.name = true := Naming.isPlain_of_isValid valid
  have bound : (store.aim policyName config owner images).work store ≤
      (store.among .node "").length + Pass.Nodes.marked owner store + 9 :=
    Aim.work_le _ store
  -- With one pass more than there is work, the passes cannot all have done some.
  rcases Aim.exists_done_or_worked ready plain resolves civil
      ((store.aim policyName config owner images).work store + 1) with finished | worked
  · obtain ⟨passes, before, rest⟩ := finished
    exact ⟨passes, by omega, rest⟩
  · obtain ⟨_, _, spent⟩ := worked
    omega

/-! ## A cluster without any scanner yet -/

def fullConfig : AuditConfig :=
  { bareConfig with
    content := {
      workloads := { enable := true }
      nodes := { enable := true }
      admission := { enable := true } } }

/-- A cluster with one node and a configuration that asks for everything. -/
def freshCluster : Store where
  tables
    | .auditConfig =>
        .ofList [(bareOwner.configKey,
          { metadata := fullConfig.metadata, content := fullConfig.content, status := none })]
    | .node =>
        .ofList [(Key.ofCluster "worker",
          { metadata := { name := some "worker" }, content := none, status := none })]
    | _ => Dictionary.empty
  version := 2

theorem freshCluster_free {kind : Kind} (notConfig : kind ≠ .auditConfig) (notNode : kind ≠ .node)
    (key : Key) : freshCluster.find? kind key = none := by
  cases kind <;> first | rfl | contradiction

theorem among_freshCluster :
    freshCluster.among .node "" =
      [{ metadata := { name := some "worker" }, content := none, status := none }] := rfl

theorem fits_freshCluster (images : ImageSource) :
    (freshCluster.aim "default" fullConfig bareOwner images).Fits freshCluster := by
  have sound : ∀ kind key, kind ≠ .auditConfig → kind ≠ .node →
      freshCluster.IsSoundAt kind key := by
    intro kind key notConfig notNode stored found
    cases (freshCluster_free notConfig notNode key).symm.trans found
  have noScan : ∀ place stored, freshCluster.find? .cronJob place ≠ some stored := by
    intro place stored found
    cases (freshCluster_free (by decide) (by decide) place).symm.trans found
  refine {
    workloads := ?_
    nodes := ?_
    scans := ?_
    admission := ?_
    scanApi := ?_
    pods := ?_ }
  · intro _
    refine {
      configMap := sound _ _ (by decide) (by decide)
      deployment := sound _ _ (by decide) (by decide)
      legacy := ?_ }
    intro _ stored found
    exact (sound .deployment _ (by decide) (by decide) stored found).reads
  · intro _
    refine {
      configMap := sound _ _ (by decide) (by decide)
      nodes := ?_
      scans := ?_ }
    · intro stored member
      rw [among_freshCluster] at member
      rw [List.mem_singleton.mp member]
      exact ⟨_, rfl⟩
    · intro place stored found
      exact absurd found (noScan place stored)
  · intro place stored found
    exact absurd found (noScan place stored)
  · intro _
    refine {
      deployment := sound _ _ (by decide) (by decide)
      service := sound _ _ (by decide) (by decide)
      registration := ?_ }
    intro stored found
    exact (sound .webhookConfiguration _ (by decide) (by decide) stored found).reads
  · intro _
    exact {
      deployment := sound _ _ (by decide) (by decide)
      service := sound _ _ (by decide) (by decide) }
  · intro stored member
    obtain ⟨⟨key, _, found⟩, _⟩ := mem_selected_iff.mp member
    exact (sound .pod key (by decide) (by decide) stored found).reads

theorem isNamed_freshCluster : Pass.Nodes.IsNamed bareOwner freshCluster := by
  have nodes : Pass.Nodes.nodeNames freshCluster = ["worker"] := rfl
  have worker : Naming.nodeCronJob? bareOwner.name "worker" = some "audit-node-worker" := by
    decide
  refine { named := ?_, distinct := ?_, kept := ?_ }
  · intro node member
    rw [nodes] at member
    rw [List.mem_singleton.mp member]
    exact ⟨_, worker⟩
  · rw [Pass.Nodes.scanNames, nodes, List.filterMap_cons, worker]
    exact List.nodup_singleton _
  · intro name _ stored found
    cases (freshCluster_free (by decide) (by decide) _).symm.trans found

/-- Everything is set up in that cluster after less than eleven passes. -/
theorem exists_done_within_freshCluster :
    ∃ passes < 11,
      (∀ earlier < passes,
        freshCluster.passEnding (fun _ => .ok "image") "default" bareOwner.configKey
          (fun _ => { seconds := 0, nanos := 0 }) earlier = .done .requeue) ∧
      freshCluster.passEnding (fun _ => .ok "image") "default" bareOwner.configKey
        (fun _ => { seconds := 0, nanos := 0 }) passes = .done .done := by
  have civil : Instant.IsCivil { seconds := 0, nanos := 0 } :=
    { named := by decide, nanos := by decide }
  have resolves : (freshCluster.aim "default" fullConfig bareOwner
      (fun _ => .ok "image")).Resolves := fun _ _ => ⟨"image", rfl⟩
  have bound : (freshCluster.among .node "").length +
      Pass.Nodes.marked bareOwner freshCluster + 10 = 11 := rfl
  rw [← bound]
  exact exists_done_within rfl rfl rfl rfl (by decide) isNamed_freshCluster (fits_freshCluster _)
    resolves fun _ => civil

/-! ## Passes without an end -/

/-- A cluster that holds the same as another one and has logged the same, and whose calls do not
fail. -/
structure Store.IsLike (reference store : Store) : Prop where
  quiet : store.faults = []
  tables : store.tables = reference.tables
  log : store.log = reference.log

theorem Store.IsLike.find?_eq {reference store : Store} (alike : reference.IsLike store)
    (kind : Kind) (key : Key) : store.find? kind key = reference.find? kind key := by
  rw [find?, alike.tables]
  rfl

theorem Store.IsLike.drawn {reference store : Store} (alike : reference.IsLike store) :
    reference.IsLike store.drawn where
  quiet := alike.quiet
  tables := alike.tables
  log := alike.log

/-- If a pass over any such cluster does nothing but draw a token, so does every pass. -/
theorem isLike_afterPasses {reference : Store} {images : ImageSource}
    (quiet : reference.faults = [])
    (standstill : ∀ store now, reference.IsLike store →
      (store.reconcile images "default" bareOwner.configKey now).2 = store.drawn)
    (clock : Nat → Instant) (passes : Nat) :
    reference.IsLike
      (reference.afterPasses images "default" bareOwner.configKey clock passes) := by
  induction passes with
  | zero => exact { quiet, tables := rfl, log := rfl }
  | succ passes inductionHypothesis =>
      rw [afterPasses, standstill _ _ inductionHypothesis]
      exact inductionHypothesis.drawn

/-- A ConfigMap is as it is wanted if it was made so. -/
theorem holds_configMap_of_made {store : Store} {key : Key} {desired : ConfigMap}
    (made : store.find? .configMap key = some (Stored.ofObject desired)) :
    store.holds Managed.sameConfigMap key desired = true := by
  have present := congrArg (Option.bind · Stored.read?) made
  refine holds_iff.mpr ⟨_, present, ?_⟩
  exact (Managed.settles_configMap _).created _ { owners := rfl, labels := rfl, content := rfl }

namespace Pass

variable {images : ImageSource} {store after : Store} {policyName : String} {key : Key}
  {config : AuditConfig} {owner : Owner} {context : PassContext} {now : Instant}

/-- A scanner that cannot be read stops the pass before it has changed anything. -/
theorem Workloads.runOn_reconcile_of_unreadable (quiet : store.faults = [])
    (inPlace : store.holds Managed.sameConfigMap
      (context.owner.key (Naming.workloadConfigMap context.owner.name))
      (Template.Workloads.configMap context.owner (inventory context.owner)) = true)
    (resolves : ∃ image, images (request (context.aim images)) = .ok image)
    {scanner : Stored .deployment}
    (found : store.find? .deployment
      (context.owner.key (Naming.workloadDeployment context.owner.name)) = some scanner)
    (unreadable : scanner.read? = none) :
    (reconcile context).runOn images store = (.failed (.cluster .unfit), store) := by
  obtain ⟨image, answered⟩ := resolves
  have looked : (createIfAbsent context.namespaceName (Template.Workloads.deployment context.spec
      context.owner image (Workloads.inventory context.owner))).runOn images store =
        (.failed (.cluster .unfit), store) :=
    runOn_createIfAbsent_of_unreadable quiet found unreadable
  refine (runOn_bind_of_done ((runOn_ensure_eq_unchanged_iff quiet).mpr ⟨inPlace, rfl⟩)).trans ?_
  refine (runOn_bind_of_done (runOn_resolve_eq_done_iff.mpr ⟨answered, rfl⟩)).trans ?_
  exact runOn_bind_of_failed looked

/-- So does an inventory that is not as it is wanted and goes by a name that is not there. -/
theorem Workloads.exists_runOn_reconcile_of_misnamed (quiet : store.faults = []) {live : ConfigMap}
    (present : store.stored? .configMap
      (context.owner.key (Naming.workloadConfigMap context.owner.name)) = some live)
    (drifted : Managed.sameConfigMap live
      (Template.Workloads.configMap context.owner (inventory context.owner)) = false)
    (absent : store.find? .configMap (context.owner.key live.displayName) = none) :
    ∃ error, (reconcile context).runOn images store = (.failed error, store) := by
  obtain ⟨error, ensured⟩ : ∃ error, (ensure context.namespaceName
      (Template.Workloads.configMap context.owner (Workloads.inventory context.owner))
      Managed.sameConfigMap Managed.mergeConfigMap).runOn images store = (.failed error, store) :=
    runOn_ensure_of_misnamed quiet present drifted absent
  exact ⟨error, runOn_bind_of_failed ensured⟩

/-- A pass that fails with its first feature ends there. -/
theorem reconcile_of_failed_workloads (quiet : store.faults = [])
    (current : store.stored? .auditConfig key = some config)
    (stays : config.metadata.deletionTimestamp = none) (owned : Owner.of config = .ok owner)
    (enabled : Feature.workloads.isEnabled config.content = true) {error : ReconcileError}
    (failed : (Workloads.reconcile (store.context policyName config owner now)).runOn images
      store.drawn = (.failed error, after)) :
    store.reconcile images policyName key now = (.failed error, after) := by
  have identified : (configured (Owner.of config)).runOn images store.drawn =
      (.done owner, store.drawn) :=
    runOn_configured_eq_done_iff.mpr ⟨owned, rfl⟩
  have ran : (Feature.workloads.run (store.context policyName config owner now)).runOn images
      store.drawn = (.failed error, after) := by
    have enabledHere :
        Feature.workloads.isEnabled (store.context policyName config owner now).spec = true :=
      enabled
    rw [Feature.run, if_pos enabledHere]
    exact failed
  have features : (runFeatures (store.context policyName config owner now) Feature.all).runOn
      images store.drawn = (.failed error, after) := runOn_bind_of_failed ran
  rw [reconcile_of_stays quiet current stays, runOn_bind_of_done identified]
  exact runOn_bind_of_failed features

end Pass

/-- A configuration that asks for the workload scanner. -/
def workloadsConfig : AuditConfig :=
  { bareConfig with content := { workloads := { enable := true } } }

/-- A cluster with that configuration, an object in the place of the scanner's inventory, and
scanners. -/
def scannerCluster (inventory : Stored .configMap) (scanners : List (Key × Stored .deployment)) :
    Store where
  tables
    | .auditConfig => .ofList [(bareOwner.configKey, Stored.ofObject workloadsConfig)]
    | .configMap =>
        .ofList [(bareOwner.key (Naming.workloadConfigMap bareOwner.name), inventory)]
    | .deployment => .ofList scanners
    | _ => Dictionary.empty
  version := 3

/-- A scanner whose status counts its replicas in words. -/
def wordyScanner : Stored .deployment where
  metadata := {
    name := some (Naming.workloadDeployment bareOwner.name)
    namespaceName := some bareOwner.namespaceName
    uid := some "uid-scanner"
    resourceVersion := some "3" }
  content := none
  status := some (.obj [("replicas", .str "many")])

/-- The inventory is in place, but the scanner cannot be read. -/
def unreadableCluster : Store :=
  scannerCluster
    (Stored.ofObject (Template.Workloads.configMap bareOwner (Pass.Workloads.inventory bareOwner)))
    [(bareOwner.key (Naming.workloadDeployment bareOwner.name), wordyScanner)]

/-- A ConfigMap without an inventory that goes by a name of its own. -/
def misplacedInventory : Stored .configMap where
  metadata := {
    name := some "other"
    namespaceName := some bareOwner.namespaceName
    uid := some "uid-inventory"
    resourceVersion := some "3" }
  content := {}
  status := none

/-- The ConfigMap in the place of the inventory goes by another name. -/
def misnamedCluster : Store :=
  scannerCluster misplacedInventory []

/-- Where the scanner makes every pass fail and none of them changes anything, none is done. -/
theorem passEnding_ne_done_of_stuck {reference : Store} {images : ImageSource}
    (quiet : reference.faults = [])
    (current : reference.stored? .auditConfig bareOwner.configKey = some workloadsConfig)
    (stuck : ∀ store context, reference.IsLike store → context.owner = bareOwner →
      ∃ error, (Pass.Workloads.reconcile context).runOn images store = (.failed error, store))
    (clock : Nat → Instant) (passes : Nat) :
    reference.passEnding images "default" bareOwner.configKey clock passes ≠ .done .done := by
  have fails : ∀ store now, reference.IsLike store → ∃ error,
      store.reconcile images "default" bareOwner.configKey now = (.failed error, store.drawn) := by
    intro store now alike
    have here : store.stored? .auditConfig bareOwner.configKey = some workloadsConfig :=
      (stored?_congr (alike.find?_eq _ _)).trans current
    obtain ⟨error, failed⟩ :=
      stuck store.drawn (store.context "default" workloadsConfig bareOwner now) alike.drawn rfl
    exact ⟨error, Pass.reconcile_of_failed_workloads alike.quiet here rfl rfl rfl failed⟩
  have standstill : ∀ store now, reference.IsLike store →
      (store.reconcile images "default" bareOwner.configKey now).2 = store.drawn := by
    intro store now alike
    obtain ⟨error, failed⟩ := fails store now alike
    rw [failed]
  obtain ⟨error, failed⟩ :=
    fails _ (clock passes) (isLike_afterPasses quiet standstill clock passes)
  rw [passEnding, failed]
  nofun

theorem isNamed_scannerCluster (inventory : Stored .configMap)
    (scanners : List (Key × Stored .deployment)) :
    Pass.Nodes.IsNamed bareOwner (scannerCluster inventory scanners) where
  named := by
    intro node member
    cases member
  distinct := List.nodup_nil
  kept := by
    intro name member
    cases member

theorem stuck_unreadableCluster {images : ImageSource}
    (resolves : ∀ request, ∃ image, images request = .ok image) (store : Store)
    (context : PassContext) (alike : unreadableCluster.IsLike store)
    (owned : context.owner = bareOwner) :
    ∃ error, (Pass.Workloads.reconcile context).runOn images store = (.failed error, store) := by
  have unreadable : wordyScanner.read? = none := by decide
  have made : store.find? .configMap
      (context.owner.key (Naming.workloadConfigMap context.owner.name)) =
        some (Stored.ofObject (Template.Workloads.configMap context.owner
          (Pass.Workloads.inventory context.owner))) := by
    rw [owned, alike.find?_eq]
    rfl
  have found : store.find? .deployment
      (context.owner.key (Naming.workloadDeployment context.owner.name)) = some wordyScanner := by
    rw [owned, alike.find?_eq]
    rfl
  exact ⟨_, Pass.Workloads.runOn_reconcile_of_unreadable alike.quiet (holds_configMap_of_made made)
    (resolves _) found unreadable⟩

theorem stuck_misnamedCluster {images : ImageSource} (store : Store) (context : PassContext)
    (alike : misnamedCluster.IsLike store) (owned : context.owner = bareOwner) :
    ∃ error, (Pass.Workloads.reconcile context).runOn images store = (.failed error, store) := by
  have present : store.stored? .configMap
      (context.owner.key (Naming.workloadConfigMap context.owner.name)) =
        some {
          metadata := misplacedInventory.metadata
          content := misplacedInventory.content } := by
    rw [owned, stored?_congr (alike.find?_eq _ _)]
    rfl
  have absent : store.find? .configMap (context.owner.key "other") = none := by
    rw [owned, alike.find?_eq]
    rfl
  refine Pass.Workloads.exists_runOn_reconcile_of_misnamed alike.quiet present ?_ absent
  rw [owned]
  rfl

/-- A scanner whose status is not one keeps all passes from being done, though there are no nodes.
So does an inventory that is not as it is wanted and goes by another name than its place. -/
theorem exists_never_done :
    workloadsConfig.metadata.deletionTimestamp = none ∧ Owner.of workloadsConfig = .ok bareOwner ∧
      Naming.isValid bareOwner.name = true ∧
      ∀ store ∈ [unreadableCluster, misnamedCluster],
        store.faults = [] ∧
        store.stored? .auditConfig bareOwner.configKey = some workloadsConfig ∧
        Pass.Nodes.IsNamed bareOwner store ∧
        (store.aim "default" workloadsConfig bareOwner (fun _ => .ok "image")).Resolves ∧
        ∀ passes, store.passEnding (fun _ => .ok "image") "default" bareOwner.configKey
          (fun _ => { seconds := 0, nanos := 0 }) passes ≠ .done .done := by
  refine ⟨rfl, rfl, by decide, ?_⟩
  simp only [List.forall_mem_cons]
  refine ⟨?_, ?_, List.forall_mem_nil _⟩
  · exact ⟨rfl, rfl, isNamed_scannerCluster _ _, fun _ _ => ⟨"image", rfl⟩,
      passEnding_ne_done_of_stuck rfl rfl (stuck_unreadableCluster fun _ => ⟨"image", rfl⟩) _⟩
  · exact ⟨rfl, rfl, isNamed_scannerCluster _ _, fun _ _ => ⟨"image", rfl⟩,
      passEnding_ne_done_of_stuck rfl rfl stuck_misnamedCluster _⟩

end ClusterAudit
