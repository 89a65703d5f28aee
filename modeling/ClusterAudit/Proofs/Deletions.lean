import ClusterAudit.Proofs.Bounded
import ClusterAudit.Proofs.Log

/-!
What a pass deletes in the namespace of its configuration. A feature that is switched off loses its
objects by their names, or by their labels, whoever made them; only a scanner of an earlier release
is first looked at, and goes only if the configuration owns it.
-/

namespace ClusterAudit

open Store

/-- The objects of a feature that have a fixed name in the namespace of the configuration. -/
def Feature.parts (name : String) : Feature → List (Kind × String)
  | workloads =>
      [(.deployment, Naming.workloadDeployment name), (.configMap, Naming.workloadConfigMap name)]
  | nodes => [(.configMap, Naming.nodeConfigMap name)]
  | admission =>
      [(.deployment, Naming.webhookDeployment name), (.service, Naming.webhookService name)]
  | scanApi =>
      [(.secret, Naming.scanApiSecret name), (.deployment, Naming.scanApi name),
        (.service, Naming.scanApi name)]

/-- A pass that meets a store may delete an object of the namespace: the scanner of an earlier
release if the configuration owns it, a part of a feature that is switched off, any node scan that
carries the labels of the configuration if scans are switched off, or else one that no node has. -/
inductive Aim.Discards (aim : Aim) (store : Store) : Kind → Key → Prop
  | legacy (stored : Stored .deployment) :
      Feature.workloads.isEnabled aim.spec = true →
      aim.policy.disableLegacyWorkloadCleanup = false →
      store.find? .deployment (aim.owner.key (Naming.legacyWorkloadDeployment aim.owner.name)) =
        some stored →
      stored.metadata.isOwnedBy aim.owner.reference.uid = true →
      Discards aim store .deployment
        (aim.owner.key (Naming.legacyWorkloadDeployment aim.owner.name))
  | part (feature : Feature) (kind : Kind) (name : String) :
      feature.isEnabled aim.spec = false → (kind, name) ∈ feature.parts aim.owner.name →
      Discards aim store kind (aim.owner.key name)
  | scan (stored : Stored .cronJob) :
      Feature.nodes.isEnabled aim.spec = false →
      stored ∈ store.selected .cronJob aim.owner.namespaceName (aim.owner.selector .nodes) →
      Discards aim store .cronJob (aim.owner.key stored.metadata.displayName)
  | orphan (stored : Stored .cronJob) :
      Feature.nodes.isEnabled aim.spec = true →
      stored ∈ store.selected .cronJob aim.owner.namespaceName (aim.owner.selector .nodes) →
      (∀ node ∈ store.among .node "",
        Naming.nodeCronJob? aim.owner.name node.metadata.displayName ≠
          some stored.metadata.displayName) →
      Discards aim store .cronJob (aim.owner.key stored.metadata.displayName)

/-- Stores that hold the same give up the same. -/
theorem Aim.Discards.congr {aim : Aim} {before after : Store} {kind : Kind} {key : Key}
    (discards : aim.Discards before kind key)
    (same : ∀ kind key, after.find? kind key = before.find? kind key) :
    aim.Discards after kind key := by
  cases discards with
  | legacy stored enabled cleaned found owned =>
      exact .legacy stored enabled cleaned ((same _ _).trans found) owned
  | part feature kind name disabled isPart => exact .part feature kind name disabled isPart
  | scan stored disabled selected =>
      rw [← selected_congr (same .cronJob)] at selected
      exact .scan stored disabled selected
  | orphan stored enabled selected unwanted =>
      rw [← selected_congr (same .cronJob)] at selected
      rw [← among_congr (same .node)] at unwanted
      exact .orphan stored enabled selected unwanted

/-- If the call deletes an object of a namespace, it is one of those that may be discarded. -/
def Call.DeletesOnly (discards : Kind → Key → Prop) : Call → Prop
  | .delete kind key => kind.isNamespaced = true → discards kind key
  | _ => True

theorem Call.DeletesOnly.of_entry {discards : Kind → Key → Prop} {request : Call}
    {entry : LogEntry} (deletesOnly : request.DeletesOnly discards)
    (written : request.entry? = some entry) (deletes : entry.verb = .delete)
    (namespaced : entry.kind.isNamespaced = true) : discards entry.kind entry.key := by
  cases request with
  | delete kind key =>
      cases written
      exact deletesOnly namespaced
  | get kind key => cases written
  | list kind namespaceName selector => cases written
  | create kind namespaceName object =>
      cases written
      cases deletes
  | replace kind key object =>
      cases written
      cases deletes
  | patchStatus kind key patch =>
      cases written
      cases deletes

namespace Pass

variable {context : PassContext} {images : ImageSource} {store : Store}
  {discards : Kind → Key → Prop}

theorem allowsUpkeep_deletesOnly (kind : Kind) :
    AllowsUpkeep (Call.DeletesOnly discards) kind where
  get _ := trivial
  list _ _ := trivial
  create _ _ := trivial
  replace _ _ := trivial

section

variable {kind : Kind} {namespaceName : String} {desired : Object kind}
  {same : Object kind → Object kind → Bool} {merge : Object kind → Object kind → Object kind}

/-- What follows an object that is brought into place runs on the same store, since the pass stops
at the first change. -/
theorem deletesOnly_guard_ensure (quiet : store.faults = []) {rest : Pass Outcome}
    (restOnly : rest.RunsOnly images (Call.DeletesOnly discards) store) :
    (ensure namespaceName desired same merge >>= fun change =>
      if change.isMutation = true then pure .changed else rest).RunsOnly images
        (Call.DeletesOnly discards) store := by
  apply runsOnly_bind ((callsOnly_ensure ((allowsUpkeep_deletesOnly kind).ensuring _ _)).runsOnly store)
  intro change middle ensured
  cases mutated : change.isMutation with
  | true => trivial
  | false =>
      obtain rfl := Change.isMutation_eq_false_iff.mp mutated
      obtain ⟨_, rfl⟩ := (runOn_ensure_eq_unchanged_iff quiet).mp ensured
      exact restOnly

theorem deletesOnly_resolve {request : ImageRequest} {rest : String → Pass Outcome}
    (restOnly : ∀ image, (rest image).RunsOnly images (Call.DeletesOnly discards) store) :
    (resolve request >>= rest).RunsOnly images (Call.DeletesOnly discards) store := by
  apply runsOnly_bind ((callsOnly_resolve _).runsOnly store)
  intro image middle resolved
  obtain ⟨_, rfl⟩ := runOn_resolve_eq_done_iff.mp resolved
  exact restOnly image

end

/-! ## Features that are switched off -/

/-- A part of a feature that is switched off may be deleted. -/
theorem deletesOnly_part {feature : Feature} {kind : Kind} {name : String}
    (disabled : feature.isEnabled context.spec = false)
    (isPart : (kind, name) ∈ feature.parts context.name) :
    Call.DeletesOnly ((context.aim images).Discards store) (.delete kind (context.key name)) :=
  fun _ => .part feature kind name disabled isPart

section

variable (quiet : store.faults = [])

include quiet

theorem deletesOnly_nodes_tearDown (disabled : Feature.nodes.isEnabled context.spec = false) :
    (Nodes.tearDown context).RunsOnly images
      (Call.DeletesOnly ((context.aim images).Discards store)) store := by
  apply runsOnly_bind ((callsOnly_ask trivial).runsOnly store)
  intro live middle looked
  obtain ⟨lists, rfl⟩ := (runOn_list_eq_done_iff quiet).mp looked
  have scans : ∀ cronJob ∈ live, Call.DeletesOnly ((context.aim images).Discards middle)
      (.delete .cronJob (context.key cronJob.displayName)) := by
    intro cronJob member _
    obtain ⟨stored, selected, read⟩ := exists_of_mem_values_of_mapM lists member
    rw [Object.displayName, Stored.metadata_of_read? read]
    exact .scan stored disabled selected
  apply CallsOnly.runsOnly
  apply callsOnly_bind (callsOnly_deleteAll context scans)
  intro deleted
  exact callsOnly_bind (callsOnly_deleteIfPresent (deletesOnly_part disabled List.mem_cons_self))
    fun _ => trivial

/-! ## The scanner of an earlier release -/

theorem deletesOnly_removeLegacy (enabled : Feature.workloads.isEnabled context.spec = true)
    (cleaned : context.policy.disableLegacyWorkloadCleanup = false) :
    (Workloads.removeLegacy context).RunsOnly images
      (Call.DeletesOnly ((context.aim images).Discards store)) store := by
  apply runsOnly_bind ((callsOnly_ask trivial).runsOnly store)
  intro found middle looked
  obtain ⟨finds, rfl⟩ := (runOn_get_eq_done_iff quiet).mp looked
  cases found with
  | none => trivial
  | some legacy =>
      change (ite _ _ _ : Pass Bool).RunsOnly images _ _
      split
      · rename_i owned
        obtain ⟨stored, there, read⟩ := exists_find?_of_stored? finds
        rw [Stored.metadata_of_read? read] at owned
        apply CallsOnly.runsOnly
        exact callsOnly_deleteIfPresent fun _ => .legacy stored enabled cleaned there owned
      · trivial

theorem deletesOnly_workloads_converge (enabled : Feature.workloads.isEnabled context.spec = true)
    (live desired : Deployment) (inventory : String) :
    (Workloads.converge context live desired inventory).RunsOnly images
      (Call.DeletesOnly ((context.aim images).Discards store)) store := by
  have updates : ∀ object : Deployment,
      (update context.namespaceName object >>= fun _ => (pure .changed : Pass Outcome)).RunsOnly
        images (Call.DeletesOnly ((context.aim images).Discards store)) store := by
    intro object
    apply CallsOnly.runsOnly
    exact callsOnly_bind (callsOnly_update (allowsUpkeep_deletesOnly _) _ object) fun _ => trivial
  rw [Workloads.converge]
  split
  · exact updates _
  · dsimp only
    split
    · exact updates _
    · rw [Workloads.settle]
      split
      · trivial
      · rename_i cleaned
        apply runsOnly_bind
        · exact deletesOnly_removeLegacy quiet enabled (Bool.eq_false_iff.mpr cleaned)
        · intro removed after _
          trivial

theorem deletesOnly_workloads_reconcile
    (enabled : Feature.workloads.isEnabled context.spec = true) :
    (Workloads.reconcile context).RunsOnly images
      (Call.DeletesOnly ((context.aim images).Discards store)) store := by
  apply deletesOnly_guard_ensure quiet
  apply deletesOnly_resolve
  intro image
  apply runsOnly_bind
    ((callsOnly_createIfAbsent ((allowsUpkeep_deletesOnly _).ensuring _ _)).runsOnly store)
  intro applied middle looked
  cases applied with
  | created object => trivial
  | existing live =>
      obtain ⟨_, rfl⟩ := (runOn_createIfAbsent_eq_existing_iff quiet).mp looked
      exact deletesOnly_workloads_converge quiet enabled _ _ _

/-! ## Scans without a node -/

theorem deletesOnly_nodes_reconcile (enabled : Feature.nodes.isEnabled context.spec = true) :
    (Nodes.reconcile context).RunsOnly images
      (Call.DeletesOnly ((context.aim images).Discards store)) store := by
  apply deletesOnly_guard_ensure quiet
  apply deletesOnly_resolve
  intro image
  apply runsOnly_bind ((callsOnly_ask trivial).runsOnly store)
  intro nodes first lookedNodes
  obtain ⟨listsNodes, rfl⟩ := (runOn_list_eq_done_iff quiet).mp lookedNodes
  apply runsOnly_bind ((callsOnly_desiredCronJobs context image nodes).runsOnly first)
  intro desired second named
  obtain ⟨made, rfl⟩ := Nodes.runOn_desiredCronJobs_eq_done_iff.mp named
  apply runsOnly_bind ((callsOnly_ask trivial).runsOnly second)
  intro live third looked
  obtain ⟨lists, rfl⟩ := (runOn_list_eq_done_iff quiet).mp looked
  apply CallsOnly.runsOnly
  apply callsOnly_nodes_converge context (allowsUpkeep_deletesOnly _)
  intro cronJob member unwanted _
  obtain ⟨stored, selected, read⟩ := exists_of_mem_values_of_mapM lists member
  rw [Object.displayName, Stored.metadata_of_read? read] at unwanted ⊢
  refine .orphan stored enabled selected ?_
  intro node nodeMember nodeNamed
  exact unwanted ((Nodes.mem_namesOf_desired_iff listsNodes made).mpr ⟨node, nodeMember, nodeNamed⟩)

/-! ## Whole passes -/

theorem deletesOnly_workloads_run :
    (Feature.workloads.run context).RunsOnly images
      (Call.DeletesOnly ((context.aim images).Discards store)) store := by
  cases enabled : Feature.workloads.isEnabled context.spec with
  | true =>
      simp only [Feature.run, enabled, if_true]
      exact deletesOnly_workloads_reconcile quiet enabled
  | false =>
      simp only [Feature.run, enabled, Bool.false_eq_true, if_false]
      apply CallsOnly.runsOnly
      apply callsOnly_workloads_tearDown
      · exact deletesOnly_part enabled List.mem_cons_self
      · exact deletesOnly_part enabled (List.mem_cons_of_mem _ List.mem_cons_self)

theorem deletesOnly_nodes_run :
    (Feature.nodes.run context).RunsOnly images
      (Call.DeletesOnly ((context.aim images).Discards store)) store := by
  cases enabled : Feature.nodes.isEnabled context.spec with
  | true =>
      simp only [Feature.run, enabled, if_true]
      exact deletesOnly_nodes_reconcile quiet enabled
  | false =>
      simp only [Feature.run, enabled, Bool.false_eq_true, if_false]
      exact deletesOnly_nodes_tearDown quiet enabled

omit quiet in
/-- The other features delete by fixed names only, whatever they meet. -/
theorem deletesOnly_admission_run :
    (Feature.admission.run context).CallsOnly
      (Call.DeletesOnly ((context.aim images).Discards store)) := by
  have deployments : AllowsUpkeep (Call.DeletesOnly ((context.aim images).Discards store))
      .deployment := allowsUpkeep_deletesOnly _
  have services : AllowsUpkeep (Call.DeletesOnly ((context.aim images).Discards store))
      .service := allowsUpkeep_deletesOnly _
  cases enabled : Feature.admission.isEnabled context.spec with
  | true =>
      simp only [Feature.run, enabled, if_true]
      apply callsOnly_admission_reconcile context services
      · exact callsOnly_ensureCluster trivial trivial fun _ => trivial
      · exact fun _ => deployments.ensuring _ _
      · exact fun _ _ => trivial
  | false =>
      simp only [Feature.run, enabled, Bool.false_eq_true, if_false]
      apply callsOnly_admission_tearDown context fun _ _ => trivial
      · intro namespaced
        cases namespaced
      · exact deletesOnly_part enabled List.mem_cons_self
      · exact deletesOnly_part enabled (List.mem_cons_of_mem _ List.mem_cons_self)

omit quiet in
theorem deletesOnly_scanApi_run :
    (Feature.scanApi.run context).CallsOnly
      (Call.DeletesOnly ((context.aim images).Discards store)) := by
  cases enabled : Feature.scanApi.isEnabled context.spec with
  | true =>
      simp only [Feature.run, enabled, if_true]
      exact callsOnly_scanApi_reconcile context (allowsUpkeep_deletesOnly _).create
        (fun _ => (allowsUpkeep_deletesOnly _).ensuring _ _) (allowsUpkeep_deletesOnly _)
  | false =>
      simp only [Feature.run, enabled, Bool.false_eq_true, if_false]
      apply callsOnly_scanApi_tearDown
      · exact deletesOnly_part enabled List.mem_cons_self
      · exact deletesOnly_part enabled (List.mem_cons_of_mem _ List.mem_cons_self)
      · exact deletesOnly_part enabled
          (List.mem_cons_of_mem _ (List.mem_cons_of_mem _ List.mem_cons_self))

omit quiet in
theorem runsOnly_runFeatures_cons {allowed : Call → Prop} {feature : Feature} {rest : List Feature}
    (first : (feature.run context).RunsOnly images allowed store)
    (later : ∀ outcome middle,
      (feature.run context).runOn images store = (.done outcome, middle) →
      outcome.progress = .done → (runFeatures context rest).RunsOnly images allowed middle) :
    (runFeatures context (feature :: rest)).RunsOnly images allowed store := by
  apply runsOnly_bind first
  intro outcome middle ended
  cases progressed : outcome.progress with
  | requeue => trivial
  | done =>
      apply runsOnly_bind (later outcome middle ended progressed)
      intro result after _
      trivial

theorem deletesOnly_runFeatures :
    (runFeatures context Feature.all).RunsOnly images
      (Call.DeletesOnly ((context.aim images).Discards store)) store := by
  apply runsOnly_runFeatures_cons (deletesOnly_workloads_run quiet)
  intro outcome middle ended isDone
  obtain rfl := Feature.eq_of_runOn_run_eq_done quiet ended isDone
  apply runsOnly_runFeatures_cons (deletesOnly_nodes_run quiet)
  intro outcome after ended isDone
  obtain rfl := Feature.eq_of_runOn_run_eq_done quiet ended isDone
  apply CallsOnly.runsOnly
  apply callsOnly_runFeatures
  rintro feature (_ | ⟨_, _ | ⟨_, beyond⟩⟩)
  · exact deletesOnly_admission_run
  · exact deletesOnly_scanApi_run
  · cases beyond

/-- The features, and the report of what has come of them. -/
theorem deletesOnly_runFeatures_persistStatus :
    (runFeatures context Feature.all >>= fun result =>
      persistStatus context result.2 >>= fun _ => (pure result.1 : Pass Progress)).RunsOnly images
        (Call.DeletesOnly ((context.aim images).Discards store)) store := by
  apply runsOnly_bind (deletesOnly_runFeatures quiet)
  intro result middle _
  apply CallsOnly.runsOnly
  apply callsOnly_bind
  · exact callsOnly_persistStatus _ _ (fun _ _ => trivial) fun _ _ => trivial
  · intro _
    trivial

end

end Pass

/-- Whatever a pass over a configuration that stays deletes in a namespace is an object that it may
discard of the store that it meets. If the configuration cannot own objects, there is none. -/
theorem discards_of_deletes {store : Store} (images : ImageSource) (policyName : String)
    (now : Instant) {key : Key} {config : AuditConfig} (quiet : store.faults = [])
    (current : store.stored? .auditConfig key = some config)
    (stays : config.metadata.deletionTimestamp = none) :
    ∃ entries,
      (store.reconcile images policyName key now).2.log = store.log ++ entries ∧
      ∀ entry ∈ entries, entry.verb = .delete → entry.kind.isNamespaced = true →
        ∃ owner, Owner.of config = .ok owner ∧
          (store.aim policyName config owner images).Discards store entry.kind entry.key := by
  have quietDrawn : store.drawn.faults = [] := quiet
  rw [Pass.reconcile_of_stays quiet current stays]
  cases owned : Owner.of config with
  | error cause => exact ⟨[], (List.append_nil _).symm, nofun⟩
  | ok owner =>
      have sameAim : (store.context policyName config owner now).aim images =
          store.aim policyName config owner images := rfl
      obtain ⟨entries, logs, ofCalls⟩ :=
        (Pass.deletesOnly_runFeatures_persistStatus quietDrawn).exists_logs
      refine ⟨entries, logs.log, ?_⟩
      intro entry member deletes namespaced
      obtain ⟨request, deletesOnly, written⟩ := ofCalls entry member
      have discards := deletesOnly.of_entry written deletes namespaced
      rw [sameAim] at discards
      exact ⟨owner, rfl, discards.congr fun _ _ => rfl⟩

/-! ## Objects of others -/

/-- A config map that somebody made for a purpose of their own, under a name that the workload
scanner would use. -/
def foreignMap : Stored .configMap where
  metadata := {
    name := some (Naming.workloadConfigMap bareOwner.name)
    namespaceName := some bareOwner.namespaceName
    uid := some "uid-map"
    resourceVersion := some "2" }
  content := { data := some (Dictionary.ofList [("notes", "mine")]) }
  status := none

/-- A cluster with that map and a configuration that never asked for anything. -/
def foreignMapCluster : Store where
  tables
    | .auditConfig => .ofList [(bareOwner.configKey, Stored.ofObject bareConfig)]
    | .configMap => .ofList [(bareOwner.key (Naming.workloadConfigMap bareOwner.name), foreignMap)]
    | _ => Dictionary.empty
  version := 2

theorem log_foreignMapCluster :
    (foreignMapCluster.reconcile (fun _ => .ok "image") "default" bareOwner.configKey
      { seconds := 0, nanos := 0 }).2.log = [{
        verb := .delete
        kind := .configMap
        key := bareOwner.key (Naming.workloadConfigMap bareOwner.name) }] := by
  decide +kernel

/-- The map is a part of a feature that is switched off, and a pass takes it away. -/
theorem discards_foreignMapCluster :
    (foreignMapCluster.reconcile (fun _ => .ok "image") "default" bareOwner.configKey
        { seconds := 0, nanos := 0 }).2.log = [{
          verb := .delete
          kind := .configMap
          key := bareOwner.key (Naming.workloadConfigMap bareOwner.name) }] ∧
      (foreignMapCluster.aim "default" bareConfig bareOwner (fun _ => .ok "image")).Discards
        foreignMapCluster .configMap (bareOwner.key (Naming.workloadConfigMap bareOwner.name)) := by
  have current : foreignMapCluster.stored? .auditConfig bareOwner.configKey = some bareConfig := rfl
  obtain ⟨entries, written, ofDeletes⟩ := discards_of_deletes (fun _ => .ok "image") "default"
    { seconds := 0, nanos := 0 } rfl current rfl
  rw [log_foreignMapCluster] at written
  obtain rfl : _ = entries := written
  obtain ⟨owner, owned, discards⟩ := ofDeletes _ (List.mem_singleton_self _) rfl rfl
  have isBare : Owner.of bareConfig = .ok bareOwner := rfl
  cases isBare.symm.trans owned
  exact ⟨log_foreignMapCluster, discards⟩

/-- A node scan that somebody made with the labels of the configuration. -/
def foreignScan : Stored .cronJob where
  metadata := {
    name := some "nightly"
    namespaceName := some bareOwner.namespaceName
    uid := some "uid-scan"
    resourceVersion := some "3"
    labels := some (Labels.ofComponent bareOwner.name .nodes) }
  content := none
  status := none

/-- A cluster without nodes, with that scan and a configuration that asks for node scans. -/
def foreignScanCluster : Store where
  tables
    | .auditConfig => .ofList [(bareOwner.configKey, Stored.ofObject nodesConfig)]
    | .configMap =>
        .ofList [(bareOwner.key (Naming.nodeConfigMap bareOwner.name),
          Stored.ofObject
            (Template.Nodes.configMap bareOwner (Pass.Nodes.inventory bareOwner)))]
    | .cronJob => .ofList [(bareOwner.key "nightly", foreignScan)]
    | _ => Dictionary.empty
  version := 3

/-- A pass may delete a config map and a node scan that the configuration does not own, the one by
its name and the other by its labels. -/
theorem exists_deletes_unowned :
    (foreignMapCluster.faults = [] ∧
      foreignMapCluster.stored? .auditConfig bareOwner.configKey = some bareConfig ∧
      bareConfig.metadata.deletionTimestamp = none ∧ Owner.of bareConfig = .ok bareOwner ∧
      foreignMapCluster.find? .configMap
        (bareOwner.key (Naming.workloadConfigMap bareOwner.name)) = some foreignMap ∧
      foreignMap.metadata.isOwnedBy bareOwner.reference.uid = false ∧
      (foreignMapCluster.reconcile (fun _ => .ok "image") "default" bareOwner.configKey
        { seconds := 0, nanos := 0 }).2.log = [{
          verb := .delete
          kind := .configMap
          key := bareOwner.key (Naming.workloadConfigMap bareOwner.name) }]) ∧
    (foreignScanCluster.faults = [] ∧
      foreignScanCluster.stored? .auditConfig bareOwner.configKey = some nodesConfig ∧
      nodesConfig.metadata.deletionTimestamp = none ∧ Owner.of nodesConfig = .ok bareOwner ∧
      foreignScanCluster.find? .cronJob (bareOwner.key "nightly") = some foreignScan ∧
      foreignScan.metadata.isOwnedBy bareOwner.reference.uid = false ∧
      (foreignScanCluster.reconcile (fun _ => .ok "image") "default" bareOwner.configKey
        { seconds := 0, nanos := 0 }).2.log = [{
          verb := .delete
          kind := .cronJob
          key := bareOwner.key "nightly" }]) := by
  refine ⟨⟨rfl, rfl, rfl, rfl, rfl, by decide, log_foreignMapCluster⟩,
    ⟨rfl, rfl, rfl, rfl, rfl, by decide, ?_⟩⟩
  decide +kernel

end ClusterAudit
