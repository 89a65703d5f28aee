import ClusterAudit.Proofs.Discipline

/-!
Which nodes are scanned once a pass is done. The pass finds missing scans and scans that are left by
their names, and drift by the parts that it manages; from these three it follows that the scans with
its labels are pinned to the nodes of the cluster, one to each. A scan that goes by the name of
another one escapes the search for drift, so that the names have to differ.
-/

namespace ClusterAudit

open Store

namespace Template.Nodes

variable {spec : AuditConfigSpec} {owner : Owner} {image node : String}

theorem pinnedNode?_eq (cronJob : CronJob) :
    pinnedNode? cronJob = ((cronJob.content.getD ({} : CronJobSpec)).pod?.getD {}).nodeName := by
  rw [pinnedNode?]
  cases cronJob.content with
  | none => rfl
  | some content => cases ran : content.pod? <;> simp [ran]

/-- The scan of a node is pinned to it. -/
theorem pinnedNode?_of_cronJob? {cronJob : CronJob}
    (made : cronJob? spec owner image node = some cronJob) : pinnedNode? cronJob = some node := by
  obtain ⟨name, named, rfl⟩ := Option.map_eq_some_iff.mp made
  rfl

/-- Scans that agree are pinned to the same node. -/
theorem pinnedNode?_of_sameNodeScan {found wanted : CronJob}
    (agree : Managed.sameNodeScan found wanted = true) :
    pinnedNode? found = pinnedNode? wanted := by
  have sameView := (Managed.isKernel_sameNodeScan _ _).mp agree
  rw [pinnedNode?_eq, pinnedNode?_eq]
  exact congrArg (fun view => view.1.nodeName) sameView

end Template.Nodes

namespace Pass.Nodes

open Template.Nodes (cronJob? pinnedNode? pinnedNode?_of_cronJob? pinnedNode?_of_sameNodeScan)

/-! ## Scans as they are wanted -/

section

variable {spec : AuditConfigSpec} {owner : Owner} {image : String} {nodes : List String}
  {desired live : List CronJob}

/-- Scans for some nodes are wanted, and the live scans are as they are wanted. -/
structure Covers (spec : AuditConfigSpec) (owner : Owner) (image : String) (nodes : List String)
    (desired live : List CronJob) : Prop where
  made : nodes.mapM (cronJob? spec owner image) = some desired
  scheduled : AreScheduled desired live

namespace Covers

variable (covers : Covers spec owner image nodes desired live)

include covers

/-- Every node has a live scan of the name that it gives, which is pinned to it. -/
theorem exists_scan {node : String} (member : node ∈ nodes) :
    ∃ found, (live.find? fun cronJob =>
        some cronJob.displayName == Naming.nodeCronJob? owner.name node) = some found ∧
      pinnedNode? found = some node := by
  obtain ⟨wanted, wantedMember, made⟩ := exists_of_mem_of_mapM covers.made member
  obtain ⟨other, otherMember, sameName, _⟩ := covers.scheduled.exists_live wantedMember
  have named := displayName_of_cronJob? made
  have test : (fun cronJob : CronJob =>
      some cronJob.displayName == Naming.nodeCronJob? owner.name node) =
        fun cronJob => cronJob.displayName == wanted.displayName := by
    funext cronJob
    rw [named]
    rfl
  rw [test]
  cases first : live.find? fun cronJob => cronJob.displayName == wanted.displayName with
  | none =>
      have different := List.find?_eq_none.mp first other otherMember
      simp [sameName] at different
  | some found =>
      have agree :=
        sameNodeScan_of_firstDrifted?_eq_none covers.scheduled.noneDrifted wantedMember first
      refine ⟨found, rfl, ?_⟩
      rw [pinnedNode?_of_sameNodeScan agree, pinnedNode?_of_cronJob? made]

/-- Two nodes that gave their scans the same name would be the same. -/
theorem eq_of_nodeCronJob?_eq {first second : String} (firstMember : first ∈ nodes)
    (secondMember : second ∈ nodes)
    (sameName : Naming.nodeCronJob? owner.name first = Naming.nodeCronJob? owner.name second) :
    first = second := by
  obtain ⟨found, foundFirst, pinnedFirst⟩ := covers.exists_scan firstMember
  obtain ⟨other, foundSecond, pinnedSecond⟩ := covers.exists_scan secondMember
  rw [sameName] at foundFirst
  obtain rfl : found = other := Option.some.inj (foundFirst.symm.trans foundSecond)
  exact Option.some.inj (pinnedFirst.symm.trans pinnedSecond)

variable (unambiguous : (namesOf live).Nodup)

include unambiguous

/-- Every live scan is pinned to a node that gives it its name. -/
theorem exists_node {found : CronJob} (member : found ∈ live) :
    ∃ node ∈ nodes, Naming.nodeCronJob? owner.name node = some found.displayName ∧
      pinnedNode? found = some node := by
  have wantedName := firstOutside_eq_none_iff.mp covers.scheduled.noneLeft found member
  obtain ⟨wanted, wantedMember, sameName⟩ := mem_namesOf_iff.mp wantedName
  obtain ⟨node, nodeMember, made⟩ := exists_of_mem_values_of_mapM covers.made wantedMember
  have named := displayName_of_cronJob? made
  obtain ⟨other, first, pinned⟩ := covers.exists_scan nodeMember
  have otherName := List.find?_some first
  rw [named, beq_iff_eq, Option.some.injEq, sameName] at otherName
  obtain rfl : other = found :=
    List.inj_on_of_nodup_map unambiguous (List.mem_of_find?_eq_some first) member otherName
  exact ⟨node, nodeMember, by rw [named, sameName], pinned⟩

/-- The nodes that the live scans are pinned to are the nodes for which scans are wanted. -/
theorem pins_perm (distinct : nodes.Nodup) : (live.map pinnedNode?).Perm (nodes.map some) := by
  have pinsNodup : (live.map pinnedNode?).Nodup := by
    apply List.Nodup.map_on
    · intro first firstMember second secondMember samePin
      obtain ⟨node, _, firstName, firstPin⟩ := covers.exists_node unambiguous firstMember
      obtain ⟨other, _, secondName, secondPin⟩ := covers.exists_node unambiguous secondMember
      rw [firstPin, secondPin, Option.some.injEq] at samePin
      rw [samePin, secondName, Option.some.injEq] at firstName
      exact List.inj_on_of_nodup_map unambiguous firstMember secondMember firstName.symm
    · exact List.Nodup.of_map _ unambiguous
  have nodesNodup : (nodes.map some).Nodup := distinct.map fun _ _ => Option.some.inj
  apply (List.perm_ext_iff_of_nodup pinsNodup nodesNodup).mpr
  intro pin
  rw [List.mem_map, List.mem_map]
  constructor
  · rintro ⟨found, member, rfl⟩
    obtain ⟨node, nodeMember, _, pinned⟩ := covers.exists_node unambiguous member
    exact ⟨node, nodeMember, pinned.symm⟩
  · rintro ⟨node, member, rfl⟩
    obtain ⟨found, first, pinned⟩ := covers.exists_scan member
    exact ⟨found, List.mem_of_find?_eq_some first, pinned⟩

end Covers

end

/-! ## Clusters -/

/-- The scans that carry the labels are pinned to the nodes of the cluster, one to each. -/
structure ArePinned (owner : Owner) (store : Store) (live : List CronJob) : Prop where
  reads : (owner.labelled .nodes .cronJob store).mapM Stored.read? = some live
  number : live.length = (nodeNames store).length
  pinned : ∀ scan ∈ live, ∃ node ∈ nodeNames store, pinnedNode? scan = some node
  once : ∀ node ∈ nodeNames store, (live.map pinnedNode?).count (some node) = 1

theorem ArePinned.of_perm {owner : Owner} {store : Store} {live : List CronJob}
    (reads : (owner.labelled .nodes .cronJob store).mapM Stored.read? = some live)
    (distinct : (nodeNames store).Nodup)
    (perm : (live.map pinnedNode?).Perm ((nodeNames store).map some)) :
    ArePinned owner store live where
  reads
  number := by simpa using perm.length_eq
  pinned := by
    intro scan member
    obtain ⟨node, nodeMember, pinned⟩ :=
      List.mem_map.mp (perm.mem_iff.mp (List.mem_map_of_mem member))
    exact ⟨node, nodeMember, pinned.symm⟩
  once := by
    intro node member
    rw [perm.count_eq]
    exact List.count_eq_one_of_mem (distinct.map fun _ _ => Option.some.inj)
      (List.mem_map_of_mem member)

/-- No two nodes give their scans the same name. -/
def AreApart (owner : Owner) (store : Store) : Prop :=
  ∀ first ∈ nodeNames store, ∀ second ∈ nodeNames store,
    Naming.nodeCronJob? owner.name first = Naming.nodeCronJob? owner.name second → first = second

/-- Where the scanners are settled, the scans with the labels cover the nodes of the cluster. -/
theorem Settled.exists_covers {aim : Aim} {store : Store} {report : ConditionUpdate}
    (plain : Selector.isPlain aim.owner.name = true) (settled : Settled aim store report) :
    ∃ image desired live, (aim.owner.labelled .nodes .cronJob store).mapM Stored.read? = some live ∧
      Covers aim.spec aim.owner image (nodeNames store) desired live := by
  obtain ⟨image, nodes, desired, live, _, listsNodes, made, lists, scheduled, _⟩ := settled.scans
  refine ⟨image, desired, live, ?_, { made := ?_, scheduled }⟩
  · rw [← selected_eq_labelled plain]
    exact lists
  · have names := map_displayName_of_mapM listsNodes
    rw [selected_empty_selector] at names
    rw [nodeNames, ← names, List.mapM_map]
    exact made

end Pass.Nodes

/-- After a pass that is done and that scans nodes, the scans are pinned to the nodes, one to each,
if no two of them go by the same name. Nodes with scans of one name keep a pass from being done. -/
theorem pins_of_reconcile_done {store after : Store} {images : ImageSource} {policyName : String}
    {key : Key} {config : AuditConfig} {owner : Owner} {now : Instant}
    (quiet : store.faults = []) (current : store.stored? .auditConfig key = some config)
    (stays : config.metadata.deletionTimestamp = none) (owned : Owner.of config = .ok owner)
    (valid : Naming.isValid owner.name = true)
    (enabled : Feature.nodes.isEnabled config.content = true)
    (distinct : (Pass.Nodes.nodeNames store).Nodup)
    (finished : store.reconcile images policyName key now = (.done .done, after)) :
    Pass.Nodes.AreApart owner after ∧
      (((owner.labelled .nodes .cronJob store).map fun stored => stored.metadata.displayName).Nodup →
        ∃ live, Pass.Nodes.ArePinned owner after live) := by
  obtain ⟨features, same⟩ := done_of_reconcile_done quiet current stays owned finished
  have quietDrawn : store.drawn.faults = [] := quiet
  have plain : Selector.isPlain owner.name = true := Naming.isPlain_of_isValid valid
  have sameNames : Pass.Nodes.nodeNames after = Pass.Nodes.nodeNames store := by
    rw [Pass.Nodes.nodeNames, Pass.Nodes.nodeNames, among_congr fun place => same .node place (by decide)]
  have sameScans : owner.labelled .nodes .cronJob after = owner.labelled .nodes .cronJob store := by
    rw [Owner.labelled, Owner.labelled,
      among_congr fun place => same .cronJob place (by decide)]
  obtain ⟨outcome, ran, isDone⟩ := features .nodes
  have enabledHere : Feature.nodes.isEnabled (store.context policyName config owner now).spec =
      true := enabled
  rw [Feature.run, if_pos enabledHere] at ran
  obtain ⟨⟨report, settled, _⟩, _⟩ :=
    (Pass.Nodes.runOn_reconcile_eq_done_iff quietDrawn).mp ⟨ran, isDone⟩
  obtain ⟨image, desired, live, reads, covers⟩ := settled.exists_covers plain
  have readsStore : (owner.labelled .nodes .cronJob store).mapM Stored.read? = some live := reads
  have coversStore : Pass.Nodes.Covers config.content owner image (Pass.Nodes.nodeNames store)
      desired live := covers
  refine ⟨?_, ?_⟩
  · intro first firstMember second secondMember sameName
    rw [sameNames] at firstMember secondMember
    exact coversStore.eq_of_nodeCronJob?_eq firstMember secondMember sameName
  · intro unambiguous
    rw [← map_displayName_of_mapM readsStore] at unambiguous
    refine ⟨live, .of_perm ?_ ?_ ?_⟩
    · rw [sameScans, readsStore]
    · rw [sameNames]
      exact distinct
    · rw [sameNames]
      exact coversStore.pins_perm unambiguous distinct

/-! ## A scan under another name -/

/-- A cluster with a configuration that asks for node scans, their inventory, a node, and its
scan. -/
def scannedCluster : Store where
  tables
    | .auditConfig => .ofList [(bareOwner.configKey, Stored.ofObject nodesConfig)]
    | .configMap =>
        .ofList [(bareOwner.key (Naming.nodeConfigMap bareOwner.name),
          Stored.ofObject
            (Template.Nodes.configMap bareOwner (Pass.Nodes.inventory bareOwner)))]
    | .node =>
        .ofList [(Key.ofCluster "worker",
          { metadata := { name := some "worker" }, content := none, status := none })]
    | .cronJob => .ofList [(bareOwner.key "audit-node-worker", Stored.ofObject wantedScan)]
    | _ => Dictionary.empty
  version := 4

section

variable {store : Store} {live : List CronJob} (now : Instant)
  (same : ∀ kind key, kind ≠ .cronJob → store.find? kind key = scannedCluster.find? kind key)
  (reads : (bareOwner.labelled .nodes .cronJob store).mapM Stored.read? = some live)
  (scheduled : Pass.Nodes.AreScheduled [wantedScan] live)

include same

theorem stored?_nodesConfig :
    store.stored? .auditConfig bareOwner.configKey = some nodesConfig := by
  rw [stored?_congr (same .auditConfig _ nofun)]
  rfl

/-- The features that the configuration does not ask for are gone from that cluster. -/
theorem settled_of_disabled {feature : Feature} (notNodes : feature ≠ .nodes) :
    feature.Settled (store.context "default" nodesConfig bareOwner now) (fun _ => .ok "image")
      store.drawn none := by
  have free : ∀ kind key, kind ≠ .auditConfig → kind ≠ .configMap → kind ≠ .node →
      kind ≠ .cronJob → store.drawn.find? kind key = none := by
    intro kind key notConfig notMap notNode notScan
    refine (same kind key notScan).trans ?_
    cases kind <;> first | rfl | contradiction
  cases feature with
  | workloads =>
      refine ⟨{ deployment := free _ _ nofun nofun nofun nofun, configMap := ?_ }, rfl⟩
      exact same .configMap _ nofun
  | nodes => contradiction
  | admission =>
      refine ⟨{
        registration := free _ _ nofun nofun nofun nofun
        deployment := free _ _ nofun nofun nofun nofun
        service := free _ _ nofun nofun nofun nofun
        lifted := rfl }, rfl⟩
  | scanApi =>
      exact ⟨{
        secret := free _ _ nofun nofun nofun nofun
        deployment := free _ _ nofun nofun nofun nofun
        service := free _ _ nofun nofun nofun nofun }, rfl⟩

include reads scheduled

theorem settled_of_scheduled :
    Feature.nodes.Settled (store.context "default" nodesConfig bareOwner now)
      (fun _ => .ok "image") store.drawn (some (Pass.Nodes.condition [wantedScan] live)) := by
  have listsNodes : store.drawn.Lists .node "" "" [workerNode] := by
    have worker : scannedCluster.among .node "" =
      [{ metadata := workerNode.metadata, content := none, status := none }] := rfl
    have sameNodes : store.drawn.among .node "" = scannedCluster.among .node "" :=
      among_congr (fun place => same .node place (by decide)) ""
    rw [Store.Lists, Pass.Nodes.selected_empty_selector, sameNodes, worker]
    rfl
  have lists : store.drawn.Lists .cronJob bareOwner.namespaceName (bareOwner.selector .nodes)
      live := by
    rw [Store.Lists, Pass.Nodes.selected_eq_labelled (by decide)]
    exact reads
  exact ⟨_, {
    configMap := holds_configMap_of_made (same .configMap _ (by decide))
    scans := ⟨"image", [workerNode], [wantedScan], live, rfl, listsNodes, rfl, lists, scheduled,
      rfl⟩ }, rfl⟩

/-- A pass over that cluster is done, also with other scans, as long as the scans that carry the
labels are as they are wanted. -/
theorem exists_done_of_scheduled (quiet : store.faults = []) :
    ∃ after, store.reconcile (fun _ => .ok "image") "default" bareOwner.configKey now =
      (.done .done, after) := by
  have current := stored?_nodesConfig same
  have settled : (store.context "default" nodesConfig bareOwner now).AllSettled
      (fun _ => .ok "image") store.drawn Feature.all
        [Pass.Nodes.condition [wantedScan] live] :=
    ⟨none, _, settled_of_disabled now same nofun,
      ⟨_, [], settled_of_scheduled now same reads scheduled,
        ⟨none, [], settled_of_disabled now same nofun,
          ⟨none, [], settled_of_disabled now same nofun, rfl, rfl⟩, rfl⟩, rfl⟩, rfl⟩
  have pods : store.drawn.Lists .pod bareOwner.namespaceName (bareOwner.selector .workloads)
      [] := by
    have nothing : scannedCluster.among .pod bareOwner.namespaceName = [] := rfl
    have samePods : store.drawn.among .pod bareOwner.namespaceName =
        scannedCluster.among .pod bareOwner.namespaceName :=
      among_congr (fun place => same .pod place nofun) _
    rw [Store.Lists, selected, samePods, nothing]
    rfl
  have quietDrawn : store.drawn.faults = [] := quiet
  obtain ⟨stored, found, _⟩ := exists_find?_of_stored? current
  obtain ⟨after, patched, _⟩ := patchStatus_of_taken quietDrawn
    (Pass.nextStatus (store.context "default" nodesConfig bareOwner now)
      [Pass.Nodes.condition [wantedScan] live] []).toJson found
  have different : Pass.nextStatus (store.context "default" nodesConfig bareOwner now)
      [Pass.Nodes.condition [wantedScan] live] [] ≠ nodesConfig.status.getD {} := by
    intro silent
    cases congrArg (fun status => status.conditions.length) silent
  exact ⟨after, (Pass.reconcile_eq_done_iff quiet current rfl rfl).mpr
      ⟨_, [], settled, pods, Or.inr ⟨different, patched⟩⟩⟩

end

/-- A pass over this cluster is done, and the node has its scan. -/
theorem pins_scannedCluster : ∃ after live,
    scannedCluster.reconcile (fun _ => .ok "image") "default" bareOwner.configKey
      { seconds := 0, nanos := 0 } = (.done .done, after) ∧
    Pass.Nodes.ArePinned bareOwner after live := by
  obtain ⟨after, ran⟩ := exists_done_of_scheduled { seconds := 0, nanos := 0 }
    (fun _ _ _ => rfl) rfl areScheduled_wantedScan rfl
  have distinct : (Pass.Nodes.nodeNames scannedCluster).Nodup := by decide
  have unambiguous : ((bareOwner.labelled .nodes .cronJob scannedCluster).map
      fun stored => stored.metadata.displayName).Nodup := by decide +kernel
  have current : scannedCluster.stored? .auditConfig bareOwner.configKey = some nodesConfig := rfl
  have owned : Owner.of nodesConfig = .ok bareOwner := rfl
  obtain ⟨live, pinned⟩ :=
    (pins_of_reconcile_done rfl current rfl owned (by decide) rfl distinct ran).2 unambiguous
  exact ⟨after, live, ran, pinned⟩

/-- A cron job with the labels that is stored under another name than its own, and is pinned to no
node. -/
def strayScan : CronJob where
  metadata := {
    name := some "audit-node-worker"
    namespaceName := some bareOwner.namespaceName
    uid := some "uid-stray"
    resourceVersion := some "5"
    labels := some (Labels.ofComponent bareOwner.name .nodes) }
  content := none

/-- The same cluster with that cron job. -/
def duplicateCluster : Store where
  tables
    | .cronJob =>
        .ofList [(bareOwner.key "audit-node-worker", Stored.ofObject wantedScan),
          (bareOwner.key "stray", Stored.ofObject strayScan)]
    | kind => scannedCluster.tables kind
  version := 5

/-- A pass may be done though there are more scans than nodes, and one that no node has. -/
theorem exists_done_with_scan_unpinned :
    duplicateCluster.faults = [] ∧
      duplicateCluster.stored? .auditConfig bareOwner.configKey = some nodesConfig ∧
      nodesConfig.metadata.deletionTimestamp = none ∧ Owner.of nodesConfig = .ok bareOwner ∧
      Naming.isValid bareOwner.name = true ∧
      Feature.nodes.isEnabled nodesConfig.content = true ∧
      Pass.Nodes.nodeNames duplicateCluster = ["worker"] ∧
      ∃ after live,
        duplicateCluster.reconcile (fun _ => .ok "image") "default" bareOwner.configKey
          { seconds := 0, nanos := 0 } = (.done .done, after) ∧
        (bareOwner.labelled .nodes .cronJob after).mapM Stored.read? = some live ∧
        live.map Template.Nodes.pinnedNode? = [some "worker", none] := by
  have scheduled : Pass.Nodes.AreScheduled [wantedScan] [wantedScan, strayScan] := {
    noneMissing := by decide +kernel
    noneDrifted := by decide +kernel
    noneLeft := by decide +kernel }
  have same : ∀ kind key, kind ≠ .cronJob →
      duplicateCluster.find? kind key = scannedCluster.find? kind key := by
    intro kind key notScan
    cases kind <;> first | rfl | contradiction
  have reads : (bareOwner.labelled .nodes .cronJob duplicateCluster).mapM Stored.read? =
      some [wantedScan, strayScan] := rfl
  obtain ⟨after, ran⟩ := exists_done_of_scheduled { seconds := 0, nanos := 0 } same reads
    scheduled rfl
  have current : duplicateCluster.stored? .auditConfig bareOwner.configKey = some nodesConfig :=
    rfl
  have owned : Owner.of nodesConfig = .ok bareOwner := rfl
  obtain ⟨_, unchanged⟩ := done_of_reconcile_done rfl current rfl owned ran
  refine ⟨rfl, current, rfl, owned, by decide, rfl, by decide, after, [wantedScan, strayScan], ran,
    ?_, rfl⟩
  rw [Owner.labelled, among_congr fun place => unchanged .cronJob place nofun]
  exact reads

end ClusterAudit
