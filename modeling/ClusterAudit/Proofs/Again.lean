import ClusterAudit.Proofs.Pass.Status
import ClusterAudit.Proofs.Reached

/-!
A pass that follows one that is done is done as well, and changes nothing, at whatever time it runs.
What the first pass wrote is what the second one would write. This needs a configuration that is
stored under its own name, since a pass writes under the name that it has read.
-/

namespace ClusterAudit

open Store

namespace Pass

variable {images : ImageSource} {store after : Store} {policyName : String} {key : Key}
  {config : AuditConfig} {owner : Owner} {now later : Instant}

/-! ## Configurations that stay -/

/-- What a pass has found of a feature, a later pass finds again. -/
theorem settled_again {context again : PassContext} {feature : Feature}
    {report : Option ConditionUpdate}
    (settled : feature.Settled context images store report)
    (sameAim : again.aim images = context.aim images)
    (sameReport : feature.isEnabled context.spec = false →
      feature.reportDisabled again = feature.reportDisabled context)
    (sameFinalizer : Admission.hasFinalizer again.config = Admission.hasFinalizer context.config)
    (same : ∀ kind key, kind ≠ .auditConfig → after.find? kind key = store.find? kind key) :
    feature.Settled again images after report := by
  have sameSpec : again.spec = context.spec := congrArg Aim.spec sameAim
  have sameOwner : again.owner = context.owner := congrArg Aim.owner sameAim
  cases enabled : feature.isEnabled context.spec with
  | true =>
      simp only [Feature.Settled, sameSpec, enabled, if_true, sameAim, sameFinalizer] at settled ⊢
      obtain ⟨update, stands, reported⟩ := settled
      exact ⟨update, stands.congr same, reported⟩
  | false =>
      simp only [Feature.Settled, sameSpec, enabled, Bool.false_eq_true, if_false, sameOwner,
        sameFinalizer] at settled ⊢
      obtain ⟨removed, reported⟩ := settled
      exact ⟨removed.congr same, reported.trans (sameReport enabled).symm⟩

theorem allSettled_again {context again : PassContext} {features : List Feature}
    {updates : List ConditionUpdate}
    (settled : context.AllSettled images store features updates)
    (sameAim : again.aim images = context.aim images)
    (sameReports : ∀ feature : Feature, feature.isEnabled context.spec = false →
      feature.reportDisabled again = feature.reportDisabled context)
    (sameFinalizer : Admission.hasFinalizer again.config = Admission.hasFinalizer context.config)
    (same : ∀ kind key, kind ≠ .auditConfig → after.find? kind key = store.find? kind key) :
    again.AllSettled images after features updates := by
  induction features generalizing updates with
  | nil => exact settled
  | cons feature rest inductionHypothesis =>
      obtain ⟨report, others, featureSettled, restSettled, rfl⟩ := settled
      exact ⟨report, others,
        settled_again featureSettled sameAim (sameReports feature) sameFinalizer same,
        inductionHypothesis restSettled, rfl⟩

/-- A pass over a configuration that stays finds again what it has left. -/
theorem reconcile_again_of_stays (quiet : store.faults = [])
    (current : store.stored? .auditConfig owner.configKey = some config)
    (stays : config.metadata.deletionTimestamp = none) (owned : Owner.of config = .ok owner)
    (civil : now.IsCivil)
    (finished : store.reconcile images policyName owner.configKey now = (.done .done, after)) :
    after.reconcile images policyName owner.configKey later = (.done .done, after.drawn) := by
  obtain ⟨updates, pods, settled, lists, publishes⟩ :=
    (reconcile_eq_done_iff quiet current stays owned).mp finished
  have quietDrawn : store.drawn.faults = [] := quiet
  have currentDrawn : store.drawn.stored? .auditConfig owner.configKey = some config := current
  obtain ⟨stored, found, read⟩ := exists_find?_of_stored? currentDrawn
  have differs : DiffersInStatus store.drawn after owner.configKey := publishes.differsInStatus
  have nextCivil : (nextStatus (store.context policyName config owner now) updates pods).IsCivil :=
    isCivil_nextStatus (Stored.isCivil_of_read? read) civil pods
  obtain ⟨newConfig, newCurrent, sameMetadata, sameContent, newStatus⟩ :=
    publishes.exists_stored? quietDrawn currentDrawn nextCivil
  have newCurrent : after.stored? .auditConfig owner.configKey = some newConfig := newCurrent
  have sameElsewhere : ∀ kind place, kind ≠ .auditConfig →
      after.find? kind place = store.drawn.find? kind place := by
    intro kind place different
    exact differs.otherKind different place
  have newStays : newConfig.metadata.deletionTimestamp = none := by
    rw [sameMetadata]
    exact stays
  have newOwned : Owner.of newConfig = .ok owner := by
    rw [← owned, Owner.of, Owner.of, Object.displayName, Object.displayName, sameMetadata]
    rfl
  have samePolicy : after.policy policyName = store.policy policyName := by
    have place := sameElsewhere .operatorConfig (Key.ofCluster policyName) (by decide)
    rw [Store.policy, Store.policy, stored?_congr place]
    rfl
  have sameAim : (after.context policyName newConfig owner later).aim images =
      (store.context policyName config owner now).aim images := by
    rw [PassContext.aim, PassContext.aim, PassContext.spec, PassContext.spec]
    simp only [Store.context, samePolicy]
    rw [show newConfig.content = config.content from sameContent]
  have conditions : (after.context policyName newConfig owner later).conditions =
      Condition.applyUpdates (store.context policyName config owner now).conditions updates now :=
    congrArg AuditConfigStatus.conditions newStatus
  have sameReports : ∀ feature : Feature,
      feature.isEnabled (store.context policyName config owner now).spec = false →
      feature.reportDisabled (after.context policyName newConfig owner later) =
        feature.reportDisabled (store.context policyName config owner now) := by
    intro feature disabled
    apply Feature.reportDisabled_congr
    rw [conditions, Bool.eq_iff_iff, Condition.isSome_find?_applyUpdates_iff]
    constructor
    · intro reported
      rcases reported with before | updated
      · exact before
      · exact settled.reported_before disabled updated
    · intro before
      exact Or.inl before
  have sameFinalizer : Admission.hasFinalizer newConfig = Admission.hasFinalizer config := by
    rw [Admission.hasFinalizer, Admission.hasFinalizer, Admission.finalizers,
      Admission.finalizers, sameMetadata]
    rfl
  have settledAgain : (after.context policyName newConfig owner later).AllSettled images
      after.drawn Feature.all updates :=
    allSettled_again settled sameAim sameReports sameFinalizer sameElsewhere
  have quietAfter : after.faults = [] := differs.faults.trans quiet
  apply (reconcile_eq_done_iff quietAfter newCurrent newStays newOwned).mpr
  refine ⟨updates, pods, settledAgain, ?_, Or.inl ⟨?_, rfl⟩⟩
  · exact (lists_congr fun place => sameElsewhere .pod place (by decide)).mpr lists
  · rw [nextStatus]
    rw [conditions, Condition.applyUpdates_applyUpdates settled.types_nodup]
    exact newStatus.symm

/-! ## Configurations that go -/

/-- A configuration that has lost its finalizer is still being deleted, and a pass leaves it. -/
theorem stored?_of_finalize (quiet : store.faults = [])
    (current : store.stored? .auditConfig key = some config)
    (named : config.displayName = key.name)
    (placed : config.metadata.namespaceName = some key.namespaceName)
    (finished : (Admission.finalize config).runOn images store = (.done (), after)) :
    ∃ newConfig, after.stored? .auditConfig key = some newConfig ∧
      newConfig.metadata.deletionTimestamp.isSome =
        config.metadata.deletionTimestamp.isSome ∧
      Admission.hasFinalizer newConfig = false ∧ after.faults = [] := by
  obtain ⟨stored, found, read⟩ := exists_find?_of_stored? current
  cases guarded : Admission.hasFinalizer config with
  | false =>
      simp only [Admission.finalize, guarded, Bool.false_eq_true, if_false] at finished
      cases finished
      exact ⟨config, current, rfl, guarded, quiet⟩
  | true =>
      have namespaceOf : (configured (Admission.namespaceOf config)).runOn images store =
          (.done key.namespaceName, store) := by
        rw [Admission.namespaceOf, placed]
        rfl
      simp only [Admission.finalize, guarded, if_true] at finished
      rw [runOn_bind_of_done namespaceOf, runOn_bind_eq_done_iff] at finished
      obtain ⟨deleted, middle, ended, finished⟩ := finished
      have removed := alters_of_runOn_deleteIfPresent quiet ended
      have quietMiddle : middle.faults = [] := removed.faults.trans quiet
      have otherKind : Kind.auditConfig ≠ Kind.webhookConfiguration := by decide
      have foundMiddle : middle.find? .auditConfig key = some stored :=
        (removed.otherKind otherKind key).trans found
      have namespaceOfMiddle : (configured (Admission.namespaceOf config)).runOn images middle =
          (.done key.namespaceName, middle) := by
        rw [Admission.namespaceOf, placed]
        rfl
      rw [Admission.removeFinalizer, runOn_bind_of_done namespaceOfMiddle,
        runOn_bind_const_eq_done_iff] at finished
      obtain ⟨⟨reply, updated⟩, _⟩ := finished
      have revises : Revises (Admission.withFinalizers config
          ((Admission.finalizers config).filter (· != Admission.finalizer))) stored config :=
        { read, version := by rw [← Stored.metadata_of_read? read]; rfl, status := rfl }
      obtain ⟨version, last, replaced, alters⟩ :=
        runOn_update_of_revises quietMiddle revises foundMiddle named
      rw [replaced] at updated
      cases updated
      have newStored : after.stored? .auditConfig key = (stampedAt key version (succeed stored
          (Admission.withFinalizers config
            ((Admission.finalizers config).filter (· != Admission.finalizer))))).read? := by
        rw [stored?, alters.here, Option.bind_some]
      refine ⟨_, newStored.trans (revises.read?_succeed key version), ?_, ?_,
        alters.faults.trans quietMiddle⟩
      · simp [stampedAt, stamp, succeed, Stored.ofObject, Metadata.inSeconds,
          Admission.withFinalizers]
      · simp [Admission.hasFinalizer, Admission.finalizers, stampedAt, stamp, succeed,
          Stored.ofObject, Metadata.inSeconds, Admission.withFinalizers, List.contains_eq_mem]

/-- After a pass that is done, another one is done too, and draws a token but changes nothing else.
A configuration that is there must be stored under its own name. -/
theorem reconcile_again (quiet : store.faults = [])
    (own : ∀ config, store.stored? .auditConfig key = some config →
      config.displayName = key.name ∧ config.metadata.namespaceName = some key.namespaceName)
    (civil : now.IsCivil)
    (finished : store.reconcile images policyName key now = (.done .done, after)) :
    after.reconcile images policyName key later = (.done .done, after.drawn) ∧
      after.drawn.log = after.log := by
  refine ⟨?_, rfl⟩
  cases place : store.find? .auditConfig key with
  | none =>
      rw [reconcile_of_absent quiet place] at finished
      cases finished
      have quietDrawn : store.drawn.faults = [] := quiet
      have absent : store.drawn.find? .auditConfig key = none := place
      exact reconcile_of_absent quietDrawn absent
  | some stored =>
      cases read : stored.read? with
      | none =>
          -- A configuration that cannot be read ends a pass with an error.
          have quietDrawn : store.drawn.faults = [] := quiet
          change (reconcile policyName key now _).runOn images store.drawn = _ at finished
          rw [reconcile, runOn_bind_eq_done_iff] at finished
          obtain ⟨found, _, looked, _⟩ := finished
          have finds := ((runOn_get_eq_done_iff quietDrawn).mp looked).1
          have unread : store.drawn.stored? .auditConfig key = none := by
            change (store.find? .auditConfig key).bind Stored.read? = none
            rw [place, Option.bind_some, read]
          cases found with
          | none => cases place.symm.trans finds
          | some object => cases unread.symm.trans finds
      | some config =>
          have current : store.stored? .auditConfig key = some config := by
            rw [stored?, place, Option.bind_some, read]
          obtain ⟨named, placed⟩ := own config current
          cases deleted : config.metadata.deletionTimestamp with
          | some time =>
              have isDeleted : config.metadata.deletionTimestamp.isSome = true := by
                rw [deleted]
                rfl
              rw [reconcile_of_deleted quiet current isDeleted, runOn_bind_const_eq_done_iff]
                at finished
              obtain ⟨⟨_, finalized⟩, _⟩ := finished
              have quietDrawn : store.drawn.faults = [] := quiet
              have currentDrawn : store.drawn.stored? .auditConfig key = some config := current
              obtain ⟨newConfig, newCurrent, stillDeleted, unguarded, newQuiet⟩ :=
                stored?_of_finalize quietDrawn currentDrawn named placed finalized
              have newDeleted := stillDeleted.trans isDeleted
              rw [reconcile_of_deleted newQuiet newCurrent newDeleted]
              simp only [Admission.finalize, unguarded, Bool.false_eq_true, if_false]
              rfl
          | none =>
              cases owned : Owner.of config with
              | error cause =>
                  rw [reconcile_of_stays quiet current deleted, owned] at finished
                  cases finished
              | ok owner =>
                  have here := Owner.eq_configKey owned named placed
                  subst here
                  exact reconcile_again_of_stays quiet current deleted owned civil finished

/-- Over the guarded cluster the first pass writes a report, and the second one, a minute later, has
nothing to add. -/
theorem guardedCluster_reconcile_again : ∃ after,
    guardedCluster.reconcile (fun _ => .ok "image") "default" bareOwner.configKey
      { seconds := 0, nanos := 0 } = (.done .done, after) ∧
    after.log = [{ verb := .patchStatus, kind := .auditConfig, key := bareOwner.configKey }] ∧
    after.reconcile (fun _ => .ok "image") "default" bareOwner.configKey
      { seconds := 60, nanos := 0 } = (.done .done, after.drawn) ∧
    after.drawn.log = after.log := by
  obtain ⟨after, finished, logged⟩ := exists_done_guardedCluster { seconds := 0, nanos := 0 }
  have own : ∀ config,
      guardedCluster.stored? .auditConfig bareOwner.configKey = some config →
      config.displayName = bareOwner.configKey.name ∧
        config.metadata.namespaceName = some bareOwner.configKey.namespaceName := by
    intro config current
    have isGuardedConfig : some guardedConfig = some config := current
    cases isGuardedConfig
    exact ⟨rfl, rfl⟩
  have civil : Instant.IsCivil { seconds := 0, nanos := 0 } :=
    { named := by decide, nanos := by decide }
  exact ⟨after, finished, logged, reconcile_again rfl own civil finished⟩

/-! ## A configuration under another name -/

/-- A configuration that is stored under another name than its own, with a report of a pod that is
no longer there. -/
def aliasConfig : AuditConfig where
  metadata := {
    name := some "audit"
    namespaceName := some "security"
    uid := some "uid-alias"
    resourceVersion := some "3" }
  content := {}
  status := some { conditions := [], pods := ["old"] }

def aliasOwner : Owner where
  name := "audit"
  namespaceName := "security"
  reference := {
    apiVersion := Kind.auditConfig.apiVersion
    kind := Kind.auditConfig.name
    name := "audit"
    uid := "uid-alias"
    controller := some true }

def storedAlias : Stored .auditConfig where
  metadata := aliasConfig.metadata
  content := aliasConfig.content
  status := some (.obj [("conditions", .arr []), ("pods", .arr [.str "old"])])

/-- A cluster with that configuration and the one whose name it has. -/
def aliasedCluster : Store where
  tables
    | .auditConfig =>
        .ofList [(aliasOwner.key "alias", storedAlias), (aliasOwner.configKey,
          { metadata := bareConfig.metadata, content := bareConfig.content, status := none })]
    | _ => Dictionary.empty
  version := 3

/-- A cluster that holds the two configurations and nothing else, whatever was reported on the
one. -/
structure IsAliased (store : Store) : Prop where
  quiet : store.faults = []
  other : store.find? .auditConfig (aliasOwner.key "alias") = some storedAlias
  own : ∃ stored, store.find? .auditConfig aliasOwner.configKey = some stored ∧
    stored.metadata = bareConfig.metadata
  bare : ∀ kind key, kind ≠ .auditConfig → store.find? kind key = none

theorem isAliased_aliasedCluster : IsAliased aliasedCluster where
  quiet := rfl
  other := rfl
  own := ⟨_, rfl, rfl⟩
  bare := by
    intro kind key notConfig
    cases kind <;> first | rfl | contradiction

/-- A pass over the configuration under the other name reports on the one whose name it has. -/
theorem IsAliased.reconcile (aliased : IsAliased store) :
    ∃ after, store.reconcile images "default" (aliasOwner.key "alias") now = (.done .done, after) ∧
      IsAliased after ∧
      after.log = store.log ++
        [{ verb := .patchStatus, kind := .auditConfig, key := aliasOwner.configKey }] := by
  obtain ⟨quiet, other, ⟨stored, own, sameMetadata⟩, bare⟩ := aliased
  have current : store.stored? .auditConfig (aliasOwner.key "alias") = some aliasConfig := by
    rw [stored?, other]
    rfl
  have owned : Owner.of aliasConfig = .ok aliasOwner := rfl
  have noScans : store.drawn.selected .cronJob aliasOwner.namespaceName
      (aliasOwner.selector .nodes) = [] := by
    apply List.eq_nil_iff_forall_not_mem.mpr
    intro scan member
    obtain ⟨place, _, found⟩ := (mem_selected_iff.mp member).1
    have absent : store.find? .cronJob place = none := bare .cronJob place (by decide)
    cases found.symm.trans absent
  have noPods : store.drawn.selected .pod aliasOwner.namespaceName
      (aliasOwner.selector .workloads) = [] := by
    apply List.eq_nil_iff_forall_not_mem.mpr
    intro pod member
    obtain ⟨place, _, found⟩ := (mem_selected_iff.mp member).1
    have absent : store.find? .pod place = none := bare .pod place (by decide)
    cases found.symm.trans absent
  have settled : (store.context "default" aliasConfig aliasOwner now).AllSettled images
      store.drawn Feature.all [] := by
    have bareDrawn : ∀ kind key, kind ≠ .auditConfig → kind ≠ .cronJob →
        store.drawn.find? kind key = none := by
      intro kind key notConfig _
      exact bare kind key notConfig
    have scans : ∃ live : List CronJob, store.drawn.Lists .cronJob aliasOwner.namespaceName
        (aliasOwner.selector .nodes) live ∧
        ∀ scan ∈ live, store.drawn.find? .cronJob (aliasOwner.key scan.displayName) = none := by
      refine ⟨[], ?_, ?_⟩
      · rw [Store.Lists, noScans]
        rfl
      · intro scan member
        cases member
    exact allSettled_of_bare rfl rfl rfl bareDrawn scans
  have quietDrawn : store.drawn.faults = [] := quiet
  obtain ⟨after, patched, logged, alters⟩ :=
    patchStatus_of_taken quietDrawn (AuditConfigStatus.toJson {}) own
  refine ⟨after, ?_, ?_, logged⟩
  · apply (reconcile_eq_done_iff quiet current rfl owned).mpr
    refine ⟨[], [], settled, ?_, Or.inr ⟨?_, ?_⟩⟩
    · rw [Store.Lists, noPods]
      rfl
    · rw [nextStatus_of_bare rfl]
      intro same
      cases congrArg AuditConfigStatus.pods same
    · rw [nextStatus_of_bare rfl]
      exact patched
  · have otherKey : aliasOwner.key "alias" ≠ aliasOwner.configKey := by decide
    exact {
      quiet := alters.faults.trans quietDrawn
      other := (alters.otherPlace otherKey).trans other
      own := ⟨_, alters.here, sameMetadata⟩
      bare := by
        intro kind key notConfig
        exact (alters.otherKind notConfig key).trans (bare kind key notConfig) }

/-- Two passes in a row may both be done and both write a report. -/
theorem exists_done_twice_with_report :
    ∃ after last,
      aliasedCluster.reconcile (fun _ => .ok "image") "default" (aliasOwner.key "alias")
          { seconds := 0, nanos := 0 } = (.done .done, after) ∧
      after.reconcile (fun _ => .ok "image") "default" (aliasOwner.key "alias")
          { seconds := 60, nanos := 0 } = (.done .done, last) ∧
      aliasedCluster.faults = [] ∧ last.log ≠ after.log := by
  obtain ⟨after, first, aliased, _⟩ := isAliased_aliasedCluster.reconcile
  obtain ⟨last, second, _, logged⟩ := aliased.reconcile
  refine ⟨after, last, first, second, rfl, ?_⟩
  intro same
  rw [same] at logged
  have lengths := congrArg List.length logged
  rw [List.length_append, List.length_singleton] at lengths
  omega

end Pass

end ClusterAudit
