import ClusterAudit.Proofs.Managed
import ClusterAudit.Proofs.Naming
import ClusterAudit.Proofs.Pass.Reconcile

/-!
A pass that is done leaves the cluster as its configuration asks, whatever the cluster was like
before and wherever the configuration is stored. Of node scans that are not wanted only those go that
are stored under their own names, since the pass lists them by their labels and deletes them by their
names.
-/

namespace ClusterAudit

open Store

/-- What a configuration of the store asks of the cluster. -/
def Store.aim (store : Store) (policyName : String) (config : AuditConfig) (owner : Owner)
    (images : ImageSource) : Aim where
  spec := config.content
  owner
  policy := store.policy policyName
  images

namespace Feature

variable {context : PassContext} {images : ImageSource} {store : Store} {feature : Feature}
  {report : Option ConditionUpdate}

/-- What a pass is done with is as the configuration asks, which is at home where it was read. -/
theorem Settled.reached {home : Key} (plain : Selector.isPlain context.owner.name = true)
    (settled : feature.Settled context images store report)
    (known : Pass.Admission.isGuarded store home =
      Pass.Admission.hasFinalizer context.config) :
    if feature.isEnabled context.spec then feature.InPlace (context.aim images) home store
    else feature.Gone context.owner home store := by
  cases enabled : feature.isEnabled context.spec with
  | true =>
      simp only [Settled, enabled, if_true] at settled ⊢
      obtain ⟨update, stands, _⟩ := settled
      exact stands.inPlace plain known
  | false =>
      simp only [Settled, enabled, Bool.false_eq_true, if_false] at settled ⊢
      exact settled.1.gone plain known

theorem Settled.congr {after : Store} (settled : feature.Settled context images store report)
    (same : ∀ kind key, kind ≠ .auditConfig → after.find? kind key = store.find? kind key) :
    feature.Settled context images after report := by
  cases enabled : feature.isEnabled context.spec with
  | true =>
      simp only [Settled, enabled, if_true] at settled ⊢
      obtain ⟨update, stands, sameReport⟩ := settled
      exact ⟨update, stands.congr same, sameReport⟩
  | false =>
      simp only [Settled, enabled, Bool.false_eq_true, if_false] at settled ⊢
      exact ⟨settled.1.congr same, settled.2⟩

end Feature

theorem Feature.mem_all (feature : Feature) : feature ∈ Feature.all := by
  cases feature <;> decide

/-- After a pass that is done, every feature that its configuration switches on is in place, and
every other one is gone, under whichever name the configuration is stored. -/
theorem isReached_of_reconcile_done {store after : Store} {images : ImageSource}
    {policyName : String} {key : Key} {config : AuditConfig} {owner : Owner} {now : Instant}
    (quiet : store.faults = []) (current : store.stored? .auditConfig key = some config)
    (stays : config.metadata.deletionTimestamp = none) (owned : Owner.of config = .ok owner)
    (valid : Naming.isValid owner.name = true)
    (finished : store.reconcile images policyName key now = (.done .done, after)) :
    (store.aim policyName config owner images).IsReached key after := by
  obtain ⟨updates, pods, settled, _, publishes⟩ :=
    (Pass.reconcile_eq_done_iff quiet current stays owned).mp finished
  have currentDrawn : store.drawn.stored? .auditConfig key = some config := current
  obtain ⟨stored, found, _⟩ := exists_find?_of_stored? currentDrawn
  have differs : DiffersInStatus store.drawn after owner.configKey := publishes.differsInStatus
  -- The report may be about another configuration, but takes the finalizer of none.
  have known : Pass.Admission.isGuarded after key = Pass.Admission.hasFinalizer config :=
    (differs.isGuarded found).trans (Pass.Admission.isGuarded_of_stored? currentDrawn)
  have plain : Selector.isPlain owner.name = true := Naming.isPlain_of_isValid valid
  intro feature
  obtain ⟨report, featureSettled⟩ := settled.settled_of_mem feature.mem_all
  have settledAfter := featureSettled.congr fun kind key different =>
    differs.otherKind different key
  exact settledAfter.reached plain known

/-! ## A cluster that is as its configuration asks -/

def bareConfig : AuditConfig where
  metadata := {
    name := some "audit"
    namespaceName := some "security"
    uid := some "uid-audit"
    resourceVersion := some "1" }
  content := {}

def bareOwner : Owner where
  name := "audit"
  namespaceName := "security"
  reference := {
    apiVersion := Kind.auditConfig.apiVersion
    kind := Kind.auditConfig.name
    name := "audit"
    uid := "uid-audit"
    controller := some true }

def nodesConfig : AuditConfig :=
  { bareConfig with content := { nodes := { enable := true } } }

def workerNode : Object .node where
  metadata := { name := some "worker" }
  content := none

/-- The scan of a node, as a pass makes it. -/
def wantedScan : CronJob :=
  (Template.Nodes.cronJob? nodesConfig.content bareOwner "image" "worker").getD { content := none }

theorem areScheduled_wantedScan : Pass.Nodes.AreScheduled [wantedScan] [wantedScan] where
  noneMissing := by decide +kernel
  noneDrifted := by decide +kernel
  noneLeft := by decide +kernel

/-- A configuration that asks for node scans and for the webhook, and with it for the scan API. -/
def guardedConfig : AuditConfig :=
  { bareConfig with
    metadata := { bareConfig.metadata with finalizers := some [Pass.Admission.finalizer] }
    content := { nodes := { enable := true }, admission := { enable := true } } }

/-- A cluster with a node in which all is as that configuration asks, but only the scan and the
registration have labels. -/
def guardedCluster : Store where
  tables
    | .auditConfig => .ofList [(bareOwner.configKey, Stored.ofObject guardedConfig)]
    | .node =>
        .ofList [(Key.ofCluster "worker",
          { metadata := { name := some "worker" }, content := none, status := none })]
    | .cronJob => .ofList [(bareOwner.key "audit-node-worker", Stored.ofObject wantedScan)]
    | .webhookConfiguration =>
        .ofList [(Pass.Admission.registrationKey bareOwner,
          Stored.ofObject (Template.Admission.registration guardedConfig.content bareOwner))]
    | .configMap => bare [Template.Nodes.configMap bareOwner (Pass.Nodes.inventory bareOwner)]
    | .secret => bare [Template.ScanApi.tokenSecret bareOwner "token"]
    | .deployment => bare [
        Template.Admission.deployment guardedConfig.content bareOwner "image",
        Template.ScanApi.deployment guardedConfig.content bareOwner "image"]
    | .service => bare [Template.Admission.service bareOwner, Template.ScanApi.service bareOwner]
    | _ => Dictionary.empty
  version := 10
where
  bare {kind : Kind} (objects : List (Object kind)) : Dictionary Key (Stored kind) :=
    .ofList (objects.map fun object =>
      (bareOwner.key object.displayName, Stored.ofObject (Managed.relabelled none object)))

section

open Managed

theorem settled_nodes_guardedCluster (now : Instant) :
    Feature.nodes.Settled (guardedCluster.context "default" guardedConfig bareOwner now)
      (fun _ => .ok "image") guardedCluster.drawn
        (some (Pass.Nodes.condition [wantedScan] [wantedScan])) := by
  have configMap := (settles_configMap
    (Template.Nodes.configMap bareOwner (Pass.Nodes.inventory bareOwner))).same_relabelled
      ignoresLabels_sameConfigMap none rfl
  have lists : guardedCluster.drawn.Lists .cronJob bareOwner.namespaceName
      (bareOwner.selector .nodes) [wantedScan] := by
    rw [Store.Lists, Pass.Nodes.selected_eq_labelled (by decide)]
    rfl
  have listsNodes : guardedCluster.drawn.Lists .node "" "" [workerNode] := by
    rw [Store.Lists, Pass.Nodes.selected_empty_selector]
    rfl
  exact ⟨_, {
    configMap := holds_iff.mpr ⟨_, rfl, configMap⟩
    scans := ⟨"image", [workerNode], [wantedScan], [wantedScan], rfl, listsNodes, rfl, lists,
      areScheduled_wantedScan, rfl⟩ }, rfl⟩

theorem settled_admission_guardedCluster (now : Instant) :
    Feature.admission.Settled (guardedCluster.context "default" guardedConfig bareOwner now)
      (fun _ => .ok "image") guardedCluster.drawn (some (Pass.Admission.condition {})) := by
  have whole := inSeconds_admission_deployment guardedConfig.content bareOwner "image"
  have deployment := (settles_deployment whole).same_relabelled ignoresLabels_sameDeployment
    none whole
  have service : sameService (relabelled none (Template.Admission.service bareOwner))
      (Template.Admission.service bareOwner) = true :=
    (settles_service _).same_relabelled ignoresLabels_sameService none rfl
  have registration : sameRegistration
      (Template.Admission.registration guardedConfig.content bareOwner)
      (Template.Admission.registration guardedConfig.content bareOwner) = true :=
    (settles_registration _).created _ { owners := rfl, labels := rfl, content := rfl }
  exact ⟨_, {
    standing := rfl
    deployment := ⟨"image", _, rfl, rfl, deployment, rfl⟩
    service := holds_iff.mpr ⟨_, rfl, service⟩
    registration := holds_iff.mpr ⟨_, rfl, registration⟩ }, rfl⟩

theorem settled_scanApi_guardedCluster (now : Instant) :
    Feature.scanApi.Settled (guardedCluster.context "default" guardedConfig bareOwner now)
      (fun _ => .ok "image") guardedCluster.drawn (some (Pass.ScanApi.condition {})) := by
  have whole := inSeconds_scanApi_deployment guardedConfig.content bareOwner "image"
  have deployment := (settles_deploymentAndResources whole).same_relabelled
    ignoresLabels_sameDeploymentAndResources none whole
  have service : sameService (relabelled none (Template.ScanApi.service bareOwner))
      (Template.ScanApi.service bareOwner) = true :=
    (settles_service _).same_relabelled ignoresLabels_sameService none rfl
  exact ⟨_, {
    secret := rfl
    deployment := ⟨"image", _, rfl, rfl, deployment, rfl⟩
    service := holds_iff.mpr ⟨_, rfl, service⟩ }, rfl⟩

end

/-- A pass over that cluster is done, and has written the first report. -/
theorem exists_done_guardedCluster (now : Instant) : ∃ after,
    guardedCluster.reconcile (fun _ => .ok "image") "default" bareOwner.configKey now =
      (.done .done, after) ∧
    after.log = [{ verb := .patchStatus, kind := .auditConfig, key := bareOwner.configKey }] := by
  have current : guardedCluster.stored? .auditConfig bareOwner.configKey = some guardedConfig := rfl
  have settledWorkloads : Feature.workloads.Settled
      (guardedCluster.context "default" guardedConfig bareOwner now) (fun _ => .ok "image")
      guardedCluster.drawn none := ⟨{ deployment := rfl, configMap := rfl }, rfl⟩
  have settled : (guardedCluster.context "default" guardedConfig bareOwner now).AllSettled
      (fun _ => .ok "image") guardedCluster.drawn Feature.all
        [Pass.Nodes.condition [wantedScan] [wantedScan], Pass.Admission.condition {},
          Pass.ScanApi.condition {}] :=
    ⟨none, _, settledWorkloads,
      ⟨_, _, settled_nodes_guardedCluster now,
        ⟨_, _, settled_admission_guardedCluster now,
          ⟨_, [], settled_scanApi_guardedCluster now, rfl, rfl⟩, rfl⟩, rfl⟩, rfl⟩
  have pods : guardedCluster.drawn.Lists .pod bareOwner.namespaceName
      (bareOwner.selector .workloads) [] := rfl
  obtain ⟨stored, found, _⟩ := exists_find?_of_stored? current
  have quietDrawn : guardedCluster.drawn.faults = [] := rfl
  obtain ⟨after, patched, logged, _⟩ := patchStatus_of_taken quietDrawn
    (Pass.nextStatus (guardedCluster.context "default" guardedConfig bareOwner now) _ []).toJson
    found
  refine ⟨after, (Pass.reconcile_eq_done_iff rfl current rfl rfl).mpr
    ⟨_, [], settled, pods, Or.inr ⟨?_, patched⟩⟩, logged⟩
  intro silent
  cases congrArg (fun status => status.conditions.length) silent

/-- After that pass the scan of the node, the webhook and the scan API are in place, and the other
scanner is gone. -/
theorem isReached_guardedCluster : ∃ after,
    guardedCluster.reconcile (fun _ => .ok "image") "default" bareOwner.configKey
      { seconds := 0, nanos := 0 } = (.done .done, after) ∧
    (guardedCluster.aim "default" guardedConfig bareOwner (fun _ => .ok "image")).IsReached
      bareOwner.configKey after := by
  obtain ⟨after, finished, _⟩ := exists_done_guardedCluster { seconds := 0, nanos := 0 }
  have current : guardedCluster.stored? .auditConfig bareOwner.configKey = some guardedConfig := rfl
  exact ⟨after, finished, isReached_of_reconcile_done rfl current rfl rfl (by decide) finished⟩

/-! ## A scan that stays -/

/-- A node scan of the configuration that has no name of its own yet. -/
def namelessScan : Stored .cronJob where
  metadata := {
    generateName := some "nightly-"
    namespaceName := some "security"
    uid := some "uid-scan"
    resourceVersion := some "2"
    labels := some (Labels.ofComponent "audit" .nodes) }
  content := none
  status := none

def strandedCluster : Store where
  tables
    | .auditConfig =>
        .ofList [(bareOwner.configKey,
          { metadata := bareConfig.metadata, content := bareConfig.content, status := none })]
    | .cronJob => .ofList [(bareOwner.key "", namelessScan)]
    | _ => Dictionary.empty
  version := 2

/-- A pass over a configuration that asks for nothing and has no reports is done with a cluster that
holds nothing but configurations and node scans that are out of its reach. -/
theorem allSettled_of_bare {context : PassContext} {images : ImageSource} {store : Store}
    (asksNothing : context.spec = {}) (silent : context.conditions = [])
    (unguarded : Pass.Admission.hasFinalizer context.config = false)
    (bare : ∀ kind key, kind ≠ .auditConfig → kind ≠ .cronJob → store.find? kind key = none)
    (scans : ∃ live : List CronJob,
      store.Lists .cronJob context.owner.namespaceName (context.owner.selector .nodes) live ∧
      ∀ cronJob ∈ live, store.find? .cronJob (context.owner.key cronJob.displayName) = none) :
    context.AllSettled images store Feature.all [] := by
  have workloads : Pass.Workloads.Gone context.owner store :=
    { deployment := bare _ _ nofun nofun, configMap := bare _ _ nofun nofun }
  have nodes : Pass.Nodes.TornDown context.owner store :=
    { configMap := bare _ _ nofun nofun, scans }
  have admission : Pass.Admission.TornDown context.owner false store :=
    { registration := bare _ _ nofun nofun
      deployment := bare _ _ nofun nofun
      service := bare _ _ nofun nofun
      lifted := rfl }
  have scanApi : Pass.ScanApi.Gone context.owner store :=
    { secret := bare _ _ nofun nofun
      deployment := bare _ _ nofun nofun
      service := bare _ _ nofun nofun }
  have settled : ∀ feature : Feature, feature.IsRemoved context.owner false store →
      feature.Settled context images store none := by
    intro feature removed
    have disabled : feature.isEnabled context.spec = false := by
      rw [asksNothing]
      cases feature <;> rfl
    have unreported : none = feature.reportDisabled context := by
      cases feature <;> simp [Feature.reportDisabled, PassContext.disabled, silent, Condition.find?]
    simp only [Feature.Settled, disabled, unguarded, Bool.false_eq_true, if_false]
    exact ⟨removed, unreported⟩
  exact ⟨none, [], settled .workloads workloads, ⟨none, [], settled .nodes nodes,
    ⟨none, [], settled .admission admission, ⟨none, [], settled .scanApi scanApi, rfl, rfl⟩,
      rfl⟩, rfl⟩, rfl⟩

theorem nextStatus_of_bare {context : PassContext} (silent : context.conditions = []) :
    Pass.nextStatus context [] [] = {} := by
  rw [Pass.nextStatus, silent, List.map_nil, List.mergeSort_nil]
  rfl

theorem strandedCluster_reconcile (images : ImageSource) (now : Instant) :
    strandedCluster.reconcile images "default" bareOwner.configKey now =
      (.done .done, strandedCluster.drawn) := by
  have current : strandedCluster.stored? .auditConfig bareOwner.configKey = some bareConfig := rfl
  have owned : Owner.of bareConfig = .ok bareOwner := rfl
  have plain : Selector.isPlain bareOwner.name = true := by decide
  have bare : ∀ kind key, kind ≠ .auditConfig → kind ≠ .cronJob →
      strandedCluster.drawn.find? kind key = none := by
    intro kind key notConfig notScan
    cases kind <;> first | rfl | contradiction
  have listed : strandedCluster.drawn.selected .cronJob bareOwner.namespaceName
      (bareOwner.selector .nodes) = [namelessScan] := by
    rw [selected, Owner.selector, Labels.parse_ofComponent plain]
    rfl
  have scans : ∃ live : List CronJob,
      strandedCluster.drawn.Lists .cronJob bareOwner.namespaceName (bareOwner.selector .nodes)
        live ∧
      ∀ cronJob ∈ live,
        strandedCluster.drawn.find? .cronJob (bareOwner.key cronJob.displayName) = none := by
    refine ⟨[{ metadata := namelessScan.metadata, content := none, status := none }], ?_, ?_⟩
    · rw [Store.Lists, listed]
      rfl
    · intro cronJob member
      rw [List.mem_singleton.mp member]
      rfl
  apply (Pass.reconcile_eq_done_iff rfl current rfl owned).mpr
  exact ⟨[], [], allSettled_of_bare rfl rfl rfl bare scans, rfl,
    Or.inl ⟨nextStatus_of_bare rfl, rfl⟩⟩

/-- A pass may be done while a node scan is left that nobody wants. -/
theorem exists_done_with_scan_left :
    strandedCluster.faults = [] ∧
      strandedCluster.stored? .auditConfig bareOwner.configKey = some bareConfig ∧
      bareConfig.metadata.deletionTimestamp = none ∧ Owner.of bareConfig = .ok bareOwner ∧
      Naming.isValid bareOwner.name = true ∧
      Feature.nodes.isEnabled bareConfig.content = false ∧
      ∃ after, strandedCluster.reconcile (fun _ => .ok "image") "default" bareOwner.configKey
          { seconds := 0, nanos := 0 } = (.done .done, after) ∧
        ∃ place stored, place.namespaceName = bareOwner.namespaceName ∧
          after.find? .cronJob place = some stored ∧
          bareOwner.marks .nodes stored.metadata = true := by
  refine ⟨rfl, rfl, rfl, rfl, by decide, rfl, strandedCluster.drawn,
    strandedCluster_reconcile _ _, bareOwner.key "", namelessScan, rfl, rfl, by decide⟩

end ClusterAudit
