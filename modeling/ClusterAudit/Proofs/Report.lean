import ClusterAudit.Proofs.Again
import ClusterAudit.Proofs.Scans

/-!
What the status says after a pass that is done. For every feature that is switched on it says
whether the feature is degraded, for every other one that it is switched off, if it had ever
reported; and it names the pods of the workload scanner. The pass writes it only if it says
something new.
-/

namespace ClusterAudit

open Store

/-! ## What there is to say -/

/-- A deployment is there, and the pods that its status counts are not all ready. What the status
does not say counts as zero. -/
def Store.isUnready (store : Store) (key : Key) : Bool :=
  (store.stored? .deployment key).any fun live =>
    (live.status.bind DeploymentStatus.replicas).getD 0 !=
      (live.status.bind DeploymentStatus.readyReplicas).getD 0

namespace Feature

def isDegraded (owner : Owner) (store : Store) : Feature → Bool
  | workloads => store.isUnready (owner.key (Naming.workloadDeployment owner.name))
  | nodes =>
      (owner.labelled .nodes .cronJob store).any fun stored =>
        stored.read?.any Template.Nodes.isFailing
  | admission => store.isUnready (owner.key (Naming.webhookDeployment owner.name))
  | scanApi => store.isUnready (owner.key (Naming.scanApi owner.name))

def disabledReason : Feature → String
  | workloads => "WorkloadScanningDisabled"
  | nodes => "NodeScanningDisabled"
  | admission => "AdmissionDisabled"
  | scanApi => "ScanApiDisabled"

end Feature

/-- A status tells how a configuration's features are in a cluster, where an earlier status has been
before it. -/
structure AuditConfigStatus.IsTruthful (reported loaded : AuditConfigStatus)
    (spec : AuditConfigSpec) (owner : Owner) (store : Store) : Prop where
  enabled : ∀ feature : Feature, feature.isEnabled spec = true →
    ∃ condition, Condition.find? reported.conditions feature.conditionType = some condition ∧
      condition.status = .ofBool (feature.isDegraded owner store)
  disabled : ∀ feature : Feature, feature.isEnabled spec = false →
    ((Condition.find? reported.conditions feature.conditionType).isSome = true ↔
      (Condition.find? loaded.conditions feature.conditionType).isSome = true) ∧
    ∀ condition, Condition.find? reported.conditions feature.conditionType = some condition →
      condition.status = .fails ∧ condition.reason = feature.disabledReason
  sorted : reported.pods.Pairwise (· ≤ ·)
  pods : reported.pods.Perm
    ((owner.labelled .workloads .pod store).map fun stored => stored.metadata.displayName)

/-! ## Reports of features -/

namespace Pass

theorem isUnready_of_stored? {store : Store} {key : Key} {live : Deployment}
    (present : store.stored? .deployment key = some live) :
    store.isUnready key = (live.status.getD {}).isDegraded := by
  rw [Store.isUnready, present, Option.any_some]
  cases live.status <;> rfl

theorem Nodes.status_condition (desired live : List CronJob) :
    (Nodes.condition desired live).status = .ofBool (live.any Template.Nodes.isFailing) := by
  rw [condition]
  cases failing : live.filter Template.Nodes.isFailing with
  | nil =>
      have none : live.any Template.Nodes.isFailing = false := by
        rw [← Bool.not_eq_true, List.any_eq_true]
        rintro ⟨scan, member, fails⟩
        have kept := List.mem_filter.mpr ⟨member, fails⟩
        rw [failing] at kept
        cases kept
      rw [none]
      rfl
  | cons first rest =>
      have some : live.any Template.Nodes.isFailing = true := by
        have member : first ∈ live.filter Template.Nodes.isFailing := by
          rw [failing]
          exact List.mem_cons_self
        obtain ⟨listed, fails⟩ := List.mem_filter.mp member
        exact List.any_eq_true.mpr ⟨first, listed, fails⟩
      rw [some]
      rfl

end Pass

namespace Feature

variable {context : PassContext} {images : ImageSource} {store after : Store} {feature : Feature}

/-- A feature that is in place is reported on as it is. -/
theorem status_of_stands {aim : Aim} {guarded : Bool} {report : ConditionUpdate}
    (plain : Selector.isPlain aim.owner.name = true)
    (stands : feature.Stands aim guarded store report) :
    report.status = .ofBool (feature.isDegraded aim.owner store) := by
  cases feature with
  | workloads =>
      obtain ⟨image, live, _, present, _, _, rfl⟩ := Pass.Workloads.Settled.deployment stands
      rw [isDegraded, Pass.isUnready_of_stored? present, Pass.Workloads.condition]
      split <;> simp_all [ConditionUpdate.ofDegraded]
  | nodes =>
      obtain ⟨image, nodes, desired, live, _, _, _, lists, _, rfl⟩ :=
        Pass.Nodes.Settled.scans stands
      have reads : (aim.owner.labelled .nodes .cronJob store).map Stored.read? = live.map some := by
        rw [← Pass.Nodes.selected_eq_labelled plain]
        exact mapM_eq_some_iff.mp lists
      have sameFailing : (aim.owner.labelled .nodes .cronJob store).any
          (fun stored => stored.read?.any Template.Nodes.isFailing) =
            live.any Template.Nodes.isFailing := by
        have mapped := congrArg (List.any · (Option.any Template.Nodes.isFailing)) reads
        rwa [List.any_map, List.any_map] at mapped
      rw [Pass.Nodes.status_condition, isDegraded, sameFailing]
  | admission =>
      obtain ⟨image, live, _, present, _, rfl⟩ := Pass.Admission.Settled.deployment stands
      rw [isDegraded, Pass.isUnready_of_stored? present, Pass.Admission.condition]
      split <;> simp_all [ConditionUpdate.ofDegraded]
  | scanApi =>
      obtain ⟨image, live, _, present, _, rfl⟩ := Pass.ScanApi.Settled.deployment stands
      rw [isDegraded, Pass.isUnready_of_stored? present, Pass.ScanApi.condition]
      split <;> simp_all [ConditionUpdate.ofDegraded]

theorem status_of_reportDisabled {report : ConditionUpdate}
    (reported : feature.reportDisabled context = some report) :
    report.status = .fails ∧ report.reason = feature.disabledReason := by
  have made : ∀ {type : ConditionType} {reason message : String},
      context.disabled type reason message = some report →
        report.status = .fails ∧ report.reason = reason := by
    intro type reason message reported
    rw [PassContext.disabled] at reported
    split at reported
    · cases reported
      exact ⟨rfl, rfl⟩
    · cases reported
  cases feature <;> exact made reported

/-- A report does not change what there is to report. -/
theorem isDegraded_congr {owner : Owner}
    (same : ∀ kind key, kind ≠ .auditConfig → after.find? kind key = store.find? kind key) :
    feature.isDegraded owner after = feature.isDegraded owner store := by
  have deployments : ∀ key, after.isUnready key = store.isUnready key := by
    intro key
    rw [Store.isUnready, Store.isUnready, stored?_congr (same .deployment key (by decide))]
  cases feature with
  | workloads => exact deployments _
  | nodes =>
      rw [isDegraded, isDegraded, Owner.labelled, Owner.labelled,
        among_congr fun key => same .cronJob key (by decide)]
  | admission => exact deployments _
  | scanApi => exact deployments _

end Feature

/-! ## The report of a pass -/

namespace PassContext.AllSettled

variable {context : PassContext} {images : ImageSource} {store : Store}
  {features : List Feature} {updates : List ConditionUpdate}

theorem exists_report_of_mem (settled : context.AllSettled images store features updates)
    {feature : Feature} (member : feature ∈ features) :
    ∃ report, feature.Settled context images store report ∧
      ∀ update ∈ report, update ∈ updates := by
  induction features generalizing updates with
  | nil => cases member
  | cons first rest inductionHypothesis =>
      obtain ⟨report, later, firstSettled, restSettled, rfl⟩ := settled
      cases member with
      | head =>
          refine ⟨report, firstSettled, ?_⟩
          intro update reported
          exact List.mem_append_left later (Option.mem_toList.mpr reported)
      | tail _ inRest =>
          obtain ⟨found, foundSettled, collected⟩ := inductionHypothesis restSettled inRest
          refine ⟨found, foundSettled, ?_⟩
          intro update reported
          exact List.mem_append_right _ (collected update reported)

/-- What a pass collects of a feature, its next status carries. -/
theorem exists_condition (settled : context.AllSettled images store Feature.all updates)
    {update : ConditionUpdate} (member : update ∈ updates) (pods : List (Object .pod)) :
    ∃ condition,
      Condition.find? (Pass.nextStatus context updates pods).conditions update.type =
        some condition ∧
      condition.status = update.status ∧ condition.reason = update.reason := by
  obtain ⟨condition, found, _, sameStatus, sameReason, _⟩ :=
    Condition.exists_carries_applyUpdates context.conditions context.now settled.types_nodup member
  exact ⟨condition, found, sameStatus, sameReason⟩

theorem condition_of_enabled (settled : context.AllSettled images store Feature.all updates)
    (plain : Selector.isPlain context.owner.name = true) (pods : List (Object .pod))
    {feature : Feature} (enabled : feature.isEnabled context.spec = true) :
    ∃ condition,
      Condition.find? (Pass.nextStatus context updates pods).conditions feature.conditionType =
        some condition ∧
      condition.status = .ofBool (feature.isDegraded context.owner store) := by
  obtain ⟨report, featureSettled, collected⟩ := settled.exists_report_of_mem feature.mem_all
  simp only [Feature.Settled, enabled, if_true] at featureSettled
  obtain ⟨update, stands, rfl⟩ := featureSettled
  obtain ⟨condition, found, sameStatus, _⟩ := settled.exists_condition (collected update rfl) pods
  rw [Feature.type_of_stands stands] at found
  have sameOwner : (context.aim images).owner = context.owner := rfl
  refine ⟨condition, found, ?_⟩
  rw [sameStatus, Feature.status_of_stands plain stands, sameOwner]

/-- A feature that is switched off has a condition exactly if it had one. -/
theorem isSome_condition_of_disabled
    (settled : context.AllSettled images store Feature.all updates) (pods : List (Object .pod))
    {feature : Feature} (disabled : feature.isEnabled context.spec = false) :
    (Condition.find? (Pass.nextStatus context updates pods).conditions
        feature.conditionType).isSome = true ↔
      (Condition.find? context.conditions feature.conditionType).isSome = true := by
  constructor
  · intro reported
    rcases Condition.isSome_find?_applyUpdates_iff.mp reported with before | updated
    · exact before
    · exact settled.reported_before disabled updated
  · intro before
    exact Condition.isSome_find?_applyUpdates_iff.mpr (Or.inl before)

theorem condition_of_disabled (settled : context.AllSettled images store Feature.all updates)
    {pods : List (Object .pod)} {feature : Feature}
    (disabled : feature.isEnabled context.spec = false) {condition : Condition}
    (found : Condition.find? (Pass.nextStatus context updates pods).conditions
      feature.conditionType = some condition) :
    condition.status = .fails ∧ condition.reason = feature.disabledReason := by
  obtain ⟨report, featureSettled, collected⟩ := settled.exists_report_of_mem feature.mem_all
  simp only [Feature.Settled, disabled, Bool.false_eq_true, if_false] at featureSettled
  obtain ⟨_, rfl⟩ := featureSettled
  have before := (settled.isSome_condition_of_disabled pods disabled).mp (by rw [found]; rfl)
  obtain ⟨update, reported⟩ :=
    Option.isSome_iff_exists.mp (Feature.reportDisabled_isSome_iff.mpr before)
  obtain ⟨carried, foundCarried, sameStatus, sameReason⟩ :=
    settled.exists_condition (collected update reported) pods
  rw [Feature.type_of_reportDisabled reported, found] at foundCarried
  cases foundCarried
  rw [sameStatus, sameReason]
  exact Feature.status_of_reportDisabled reported

/-- The status that a pass collects from features that are as the configuration asks is true. -/
theorem isTruthful (settled : context.AllSettled images store Feature.all updates)
    (plain : Selector.isPlain context.owner.name = true) {pods : List (Object .pod)}
    (lists : store.Lists .pod context.owner.namespaceName (context.owner.selector .workloads)
      pods) :
    (Pass.nextStatus context updates pods).IsTruthful (context.config.status.getD {}) context.spec
      context.owner store where
  enabled _ enabled := settled.condition_of_enabled plain pods enabled
  disabled _ disabled :=
    ⟨settled.isSome_condition_of_disabled pods disabled,
      fun _ found => settled.condition_of_disabled disabled found⟩
  sorted := by
    have transitive : ∀ first second third : String, decide (first ≤ second) = true →
        decide (second ≤ third) = true → decide (first ≤ third) = true := by
      intro first second third below above
      exact decide_eq_true (String.le_trans (of_decide_eq_true below) (of_decide_eq_true above))
    have total : ∀ first second : String,
        (decide (first ≤ second) || decide (second ≤ first)) = true := by
      intro first second
      simpa using String.le_total first second
    have pairwise := List.pairwise_mergeSort transitive total (pods.map Object.displayName)
    exact pairwise.imp of_decide_eq_true
  pods := by
    have names : pods.map Object.displayName =
        (context.owner.labelled .workloads .pod store).map
          fun stored => stored.metadata.displayName := by
      rw [← Pass.Nodes.selected_eq_labelled plain]
      exact map_displayName_of_mapM lists
    rw [← names]
    exact List.mergeSort_perm _ _

end PassContext.AllSettled

theorem AuditConfigStatus.IsTruthful.congr {reported loaded : AuditConfigStatus}
    {spec : AuditConfigSpec} {owner : Owner} {store after : Store}
    (truthful : reported.IsTruthful loaded spec owner store)
    (same : ∀ kind key, kind ≠ .auditConfig → after.find? kind key = store.find? kind key) :
    reported.IsTruthful loaded spec owner after where
  enabled := by
    intro feature enabled
    rw [Feature.isDegraded_congr same]
    exact truthful.enabled feature enabled
  disabled := truthful.disabled
  sorted := truthful.sorted
  pods := by
    rw [Owner.labelled, among_congr fun key => same .pod key (by decide)]
    exact truthful.pods

theorem Pass.Publishes.log_eq {context : PassContext} {next : AuditConfigStatus}
    {before after : Store} (publishes : Publishes context next before after) :
    after.log = before.log ++
      if next = context.config.status.getD {} then []
      else [{ verb := .patchStatus, kind := .auditConfig, key := context.owner.configKey }] := by
  rcases publishes with ⟨kept, rfl⟩ | ⟨different, patched⟩
  · rw [if_pos kept, List.append_nil]
  · rw [if_neg different]
    have answered : before.answer (.patchStatus .auditConfig context.owner.configKey next.toJson) =
        (.ok (), after) := patched
    exact (logs_of_answer_ok rfl answered).log

/-- After a pass that is done, the stored status tells how the features are. The pass has written it
exactly if it is not the one that was there. -/
theorem isTruthful_of_reconcile_done {store after : Store} {images : ImageSource}
    {policyName : String} {config : AuditConfig} {owner : Owner} {now : Instant}
    (quiet : store.faults = [])
    (current : store.stored? .auditConfig owner.configKey = some config)
    (stays : config.metadata.deletionTimestamp = none) (owned : Owner.of config = .ok owner)
    (valid : Naming.isValid owner.name = true) (civil : now.IsCivil)
    (finished : store.reconcile images policyName owner.configKey now = (.done .done, after)) :
    ∃ reported, after.stored? .auditConfig owner.configKey = some reported ∧
      (reported.status.getD {}).IsTruthful (config.status.getD {}) config.content owner after ∧
      after.log = store.log ++
        if reported.status.getD {} = config.status.getD {} then []
        else [{ verb := .patchStatus, kind := .auditConfig, key := owner.configKey }] := by
  obtain ⟨updates, pods, settled, lists, publishes⟩ :=
    (Pass.reconcile_eq_done_iff quiet current stays owned).mp finished
  have quietDrawn : store.drawn.faults = [] := quiet
  have currentDrawn : store.drawn.stored? .auditConfig owner.configKey = some config := current
  obtain ⟨stored, found, read⟩ := exists_find?_of_stored? currentDrawn
  have differs : DiffersInStatus store.drawn after owner.configKey := publishes.differsInStatus
  have nextCivil :
      (Pass.nextStatus (store.context policyName config owner now) updates pods).IsCivil :=
    Pass.isCivil_nextStatus (Stored.isCivil_of_read? read) civil pods
  obtain ⟨reported, there, _, _, written⟩ :=
    publishes.exists_stored? quietDrawn currentDrawn nextCivil
  refine ⟨reported, there, ?_, ?_⟩
  · rw [written]
    have truthful := settled.isTruthful (Naming.isPlain_of_isValid valid) lists
    exact truthful.congr fun kind key different => differs.otherKind different key
  · rw [written]
    exact publishes.log_eq

/-- The first report on this cluster is that the scans are scheduled. -/
theorem isTruthful_scannedCluster : ∃ after reported,
    scannedCluster.reconcile (fun _ => .ok "image") "default" bareOwner.configKey
      { seconds := 0, nanos := 0 } = (.done .done, after) ∧
    after.stored? .auditConfig bareOwner.configKey = some reported ∧
    (reported.status.getD {}).IsTruthful {} nodesConfig.content bareOwner after := by
  obtain ⟨after, ran⟩ := exists_done_of_scheduled { seconds := 0, nanos := 0 }
    (fun _ _ _ => rfl) rfl areScheduled_wantedScan rfl
  have current : scannedCluster.stored? .auditConfig bareOwner.configKey = some nodesConfig := rfl
  have owned : Owner.of nodesConfig = .ok bareOwner := rfl
  have civil : Instant.IsCivil { seconds := 0, nanos := 0 } :=
    { named := by decide, nanos := by decide }
  obtain ⟨reported, there, truthful, _⟩ :=
    isTruthful_of_reconcile_done rfl current rfl owned (by decide) civil ran
  exact ⟨after, reported, ran, there, truthful⟩

open Pass (aliasConfig aliasOwner aliasedCluster)

/-- A pass may be done and leave a status that names a pod which is not there. -/
theorem exists_done_with_false_report :
    aliasedCluster.faults = [] ∧
      aliasedCluster.stored? .auditConfig (aliasOwner.key "alias") = some aliasConfig ∧
      aliasConfig.metadata.deletionTimestamp = none ∧ Owner.of aliasConfig = .ok aliasOwner ∧
      Naming.isValid aliasOwner.name = true ∧
      ∃ after reported,
        aliasedCluster.reconcile (fun _ => .ok "image") "default" (aliasOwner.key "alias")
          { seconds := 0, nanos := 0 } = (.done .done, after) ∧
        after.stored? .auditConfig (aliasOwner.key "alias") = some reported ∧
        ¬ (reported.status.getD {}).IsTruthful (aliasConfig.status.getD {}) aliasConfig.content
          aliasOwner after := by
  obtain ⟨after, ran, aliased, _⟩ := Pass.isAliased_aliasedCluster.reconcile
  have there : after.stored? .auditConfig (aliasOwner.key "alias") = some aliasConfig := by
    rw [stored?, aliased.other]
    rfl
  refine ⟨rfl, rfl, rfl, rfl, by decide, after, aliasConfig, ran, there, ?_⟩
  intro truthful
  have noPods : aliasOwner.labelled .workloads .pod after = [] := by
    apply List.eq_nil_iff_forall_not_mem.mpr
    intro pod member
    rw [← Pass.Nodes.selected_eq_labelled (by decide), mem_selected_iff] at member
    obtain ⟨place, _, found⟩ := member.1
    cases found.symm.trans (aliased.bare .pod place (by decide))
  have named := truthful.pods
  rw [noPods] at named
  exact List.cons_ne_nil _ _ named.eq_nil

end ClusterAudit
