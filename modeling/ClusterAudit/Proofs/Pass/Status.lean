import ClusterAudit.Proofs.AuditConfig.Status
import ClusterAudit.Proofs.Condition
import ClusterAudit.Proofs.Pass.Reconcile

/-!
Reports that passes write. What a pass writes reads back as what it meant to write, and a later pass
that finds the same features as they were writes the same again.
-/

namespace ClusterAudit

open Store

namespace Stored

variable {stored : Stored .auditConfig} {config : AuditConfig}

theorem isCivil_of_read? (read : stored.read? = some config) :
    (config.status.getD {}).IsCivil := by
  obtain ⟨status, readStatus, rfl⟩ := Option.map_eq_some_iff.mp read
  rw [Kind.readStatus?] at readStatus
  split at readStatus
  · cases readStatus
    intro condition member
    cases member
  · obtain ⟨value, readValue, rfl⟩ := Option.map_eq_some_iff.mp readStatus
    exact AuditConfigStatus.isCivil_of_ofJson? readValue

/-- A configuration whose status was patched reads with the new status. -/
theorem read?_patchedStatus (read : stored.read? = some config) {next : AuditConfigStatus}
    (civil : next.IsCivil) :
    Stored.read? { stored with status := some (patchedStatus stored.status next.toJson) } =
      some { config with status := some next } := by
  have merged : ∃ members, patchedStatus stored.status next.toJson =
      Json.mergePatch (.obj members) next.toJson := by
    unfold patchedStatus
    split
    · exact ⟨_, rfl⟩
    · exact ⟨[], rfl⟩
  obtain ⟨members, merged⟩ := merged
  have readBack : AuditConfigStatus.ofJson? (patchedStatus stored.status next.toJson) =
      some next := by
    rw [merged]
    exact AuditConfigStatus.ofJson?_mergePatch civil members
  have notNull : patchedStatus stored.status next.toJson ≠ .null := by
    intro null
    rw [null] at readBack
    cases readBack
  have metadata := metadata_of_read? read
  have content := content_of_read? read
  obtain ⟨_, _, _⟩ := config
  cases metadata
  cases content
  simp only [read?, Option.getD_some, Kind.readStatus?, if_neg notNull, readBack, Option.map_some]

end Stored

namespace Pass

variable {store after : Store} {context : PassContext} {updates : List ConditionUpdate}

theorem isCivil_nextStatus (civil : (context.config.status.getD {}).IsCivil)
    (nowCivil : context.now.IsCivil) (pods : List (Object .pod)) :
    (nextStatus context updates pods).IsCivil :=
  Condition.isCivil_applyUpdates nowCivil civil

/-- After a report the configuration is what it was, with the reported status. -/
theorem Publishes.exists_stored? {next : AuditConfigStatus} (quiet : store.faults = [])
    (current : store.stored? .auditConfig context.owner.configKey = some context.config)
    (civil : next.IsCivil) (publishes : Publishes context next store after) :
    ∃ config, after.stored? .auditConfig context.owner.configKey = some config ∧
      config.metadata = context.config.metadata ∧ config.content = context.config.content ∧
      config.status.getD {} = next := by
  rcases publishes with kept | written
  · obtain ⟨kept, rfl⟩ := kept
    exact ⟨context.config, current, rfl, rfl, kept.symm⟩
  · obtain ⟨stored, found, read⟩ := exists_find?_of_stored? current
    obtain ⟨middle, patched, _, alters⟩ := patchStatus_of_taken quiet next.toJson found
    have same := patched.symm.trans written.2
    cases same
    refine ⟨{ context.config with status := some next }, ?_, rfl, rfl, rfl⟩
    rw [stored?, alters.here, Option.bind_some]
    exact Stored.read?_patchedStatus read civil

/-! ## Reports of features -/

theorem Workloads.type_condition (live : Deployment) :
    (Workloads.condition live).type = .workloadScanningDegraded := by
  rw [Workloads.condition]
  split <;> rfl

theorem Nodes.type_condition (desired live : List CronJob) :
    (Nodes.condition desired live).type = .nodeScanningDegraded := by
  rw [Nodes.condition]
  split <;> rfl

theorem Admission.type_condition (status : DeploymentStatus) :
    (Admission.condition status).type = .admissionDegraded := by
  rw [Admission.condition]
  split <;> rfl

theorem ScanApi.type_condition (status : DeploymentStatus) :
    (ScanApi.condition status).type = .scanApiDegraded := by
  rw [ScanApi.condition]
  split <;> rfl

end Pass

namespace Feature

variable {context : PassContext} {images : ImageSource} {store : Store} {feature : Feature}

theorem conditionType_injective {other : Feature}
    (same : feature.conditionType = other.conditionType) : feature = other := by
  cases feature <;> cases other <;> first | rfl | cases same

theorem type_of_stands {aim : Aim} {guarded : Bool} {report : ConditionUpdate}
    (stands : feature.Stands aim guarded store report) :
    report.type = feature.conditionType := by
  cases feature with
  | workloads =>
      obtain ⟨image, live, _, _, _, _, rfl⟩ := Pass.Workloads.Settled.deployment stands
      exact Pass.Workloads.type_condition live
  | nodes =>
      obtain ⟨image, nodes, desired, live, _, _, _, _, _, rfl⟩ := Pass.Nodes.Settled.scans stands
      exact Pass.Nodes.type_condition desired live
  | admission =>
      obtain ⟨image, live, _, _, _, rfl⟩ := Pass.Admission.Settled.deployment stands
      exact Pass.Admission.type_condition _
  | scanApi =>
      obtain ⟨image, live, _, _, _, rfl⟩ := Pass.ScanApi.Settled.deployment stands
      exact Pass.ScanApi.type_condition _

theorem reportDisabled_isSome_iff :
    (feature.reportDisabled context).isSome = true ↔
      (Condition.find? context.conditions feature.conditionType).isSome = true := by
  cases feature <;>
    simp only [reportDisabled, PassContext.disabled, conditionType] <;>
    split <;> simp_all

theorem type_of_reportDisabled {report : ConditionUpdate}
    (reported : feature.reportDisabled context = some report) :
    report.type = feature.conditionType := by
  have made : ∀ {type : ConditionType} {reason message : String},
      context.disabled type reason message = some report → report.type = type := by
    intro type reason message reported
    rw [PassContext.disabled] at reported
    split at reported
    · cases reported
      rfl
    · cases reported
  cases feature <;> exact made reported

/-- What a feature that is switched off reports depends on nothing but whether it has reported
before. -/
theorem reportDisabled_congr {other : PassContext}
    (same : (Condition.find? other.conditions feature.conditionType).isSome =
      (Condition.find? context.conditions feature.conditionType).isSome) :
    feature.reportDisabled other = feature.reportDisabled context := by
  have made : ∀ {type : ConditionType} (reason message : String),
      (Condition.find? other.conditions type).isSome =
        (Condition.find? context.conditions type).isSome →
      other.disabled type reason message = context.disabled type reason message := by
    intro type reason message same
    rw [PassContext.disabled, PassContext.disabled, same]
  cases feature <;> exact made _ _ same

theorem Settled.type_eq {report : Option ConditionUpdate} {update : ConditionUpdate}
    (settled : feature.Settled context images store report) (member : update ∈ report) :
    update.type = feature.conditionType := by
  cases enabled : feature.isEnabled context.spec with
  | true =>
      simp only [Settled, enabled, if_true] at settled
      obtain ⟨other, stands, rfl⟩ := settled
      cases member
      exact type_of_stands stands
  | false =>
      simp only [Settled, enabled, Bool.false_eq_true, if_false] at settled
      exact type_of_reportDisabled (settled.2.symm.trans member)

end Feature

namespace PassContext.AllSettled

variable {context : PassContext} {images : ImageSource} {store : Store}
  {features : List Feature} {updates : List ConditionUpdate}

/-- The conditions of a pass have the types of its features, in their order. -/
theorem types_sublist (settled : context.AllSettled images store features updates) :
    (updates.map ConditionUpdate.type).Sublist (features.map Feature.conditionType) := by
  induction features generalizing updates with
  | nil =>
      rw [AllSettled] at settled
      rw [settled]
      exact List.Sublist.slnil
  | cons feature rest inductionHypothesis =>
      obtain ⟨report, later, featureSettled, restSettled, rfl⟩ := settled
      have restTypes := inductionHypothesis restSettled
      cases report with
      | none => exact List.Sublist.cons _ restTypes
      | some update =>
          have sameType : update.type = feature.conditionType := featureSettled.type_eq rfl
          rw [Option.toList_some, List.singleton_append, List.map_cons, List.map_cons, sameType]
          exact List.Sublist.cons_cons _ restTypes

theorem types_nodup (settled : context.AllSettled images store Feature.all updates) :
    (updates.map ConditionUpdate.type).Nodup := by
  have different : (Feature.all.map Feature.conditionType).Nodup := by decide
  exact settled.types_sublist.nodup different

/-- A feature that is switched off is only reported on if it had reported before. -/
theorem reported_before (settled : context.AllSettled images store features updates)
    {feature : Feature} (disabled : feature.isEnabled context.spec = false)
    (member : feature.conditionType ∈ updates.map ConditionUpdate.type) :
    (Condition.find? context.conditions feature.conditionType).isSome = true := by
  induction features generalizing updates with
  | nil =>
      rw [AllSettled] at settled
      rw [settled] at member
      cases member
  | cons first rest inductionHypothesis =>
      obtain ⟨report, later, firstSettled, restSettled, rfl⟩ := settled
      rw [List.map_append, List.mem_append] at member
      rcases member with inFirst | inLater
      · obtain ⟨update, updateMember, sameType⟩ := List.mem_map.mp inFirst
        have reported : update ∈ report := Option.mem_toList.mp updateMember
        have isFirst : first = feature :=
          Feature.conditionType_injective ((firstSettled.type_eq reported).symm.trans sameType)
        subst isFirst
        simp only [Feature.Settled, disabled, Bool.false_eq_true, if_false] at firstSettled
        apply Feature.reportDisabled_isSome_iff.mp
        rw [← firstSettled.2, Option.mem_def.mp reported]
        rfl
      · exact inductionHypothesis restSettled inLater

end PassContext.AllSettled

end ClusterAudit
