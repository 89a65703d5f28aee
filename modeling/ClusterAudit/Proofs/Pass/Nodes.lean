import ClusterAudit.Proofs.Converged
import ClusterAudit.Proofs.Labels

/-!
The node scanners in a pass that changes nothing. The pass is done with them exactly when every node
has its scan and no other scan is left, or, if they are not wanted, when no scan that carries their
labels is found under its own name.
-/

namespace ClusterAudit.Pass.Nodes

open Store

variable {context : PassContext} {images : ImageSource} {store after : Store}
  {desired live : List CronJob} {outcome : Outcome}

/-- Among the live scans all are as they are wanted, and there are no others. -/
structure AreScheduled (desired live : List CronJob) : Prop where
  noneMissing : firstOutside (namesOf live) desired = none
  noneDrifted : firstDrifted? desired live = none
  noneLeft : firstOutside (namesOf desired) live = none

/-- The scanners are in place, and a pass reports on them. -/
structure Settled (aim : Aim) (store : Store) (report : ConditionUpdate) : Prop where
  configMap :
    store.holds Managed.sameConfigMap (aim.owner.key (Naming.nodeConfigMap aim.owner.name))
      (Template.Nodes.configMap aim.owner (inventory aim.owner)) = true
  scans :
    ∃ image nodes desired live, aim.images (request aim) = .ok image ∧
      store.Lists .node "" "" nodes ∧
      (nodes.mapM fun node =>
        Template.Nodes.cronJob? aim.spec aim.owner image node.displayName) = some desired ∧
      store.Lists .cronJob aim.owner.namespaceName (aim.owner.selector .nodes) live ∧
      AreScheduled desired live ∧ report = condition desired live

/-- The inventory is gone, and every scan that carries the labels of the scanners. -/
structure TornDown (owner : Owner) (store : Store) : Prop where
  configMap : store.find? .configMap (owner.key (Naming.nodeConfigMap owner.name)) = none
  scans :
    ∃ live : List CronJob,
      store.Lists .cronJob owner.namespaceName (owner.selector .nodes) live ∧
      ∀ cronJob ∈ live, store.find? .cronJob (owner.key cronJob.displayName) = none

/-! ## Names -/

theorem firstOutside_eq_none_iff {names : List String} {cronJobs : List CronJob} :
    firstOutside names cronJobs = none ↔ ∀ cronJob ∈ cronJobs, cronJob.displayName ∈ names := by
  simp [firstOutside, List.find?_eq_none]

theorem mem_namesOf_iff {cronJobs : List CronJob} {name : String} :
    name ∈ namesOf cronJobs ↔ ∃ cronJob ∈ cronJobs, cronJob.displayName = name := by
  simp [namesOf]

/-- Where none differs, the first scan of a wanted name is as it is wanted. -/
theorem sameNodeScan_of_firstDrifted?_eq_none (noneDrifted : firstDrifted? desired live = none)
    {wanted found : CronJob} (member : wanted ∈ desired)
    (first : live.find? (fun cronJob => cronJob.displayName == wanted.displayName) = some found) :
    Managed.sameNodeScan found wanted = true := by
  have settled := List.findSome?_eq_none_iff.mp noneDrifted wanted member
  cases agree : Managed.sameNodeScan found wanted with
  | true => rfl
  | false =>
      rw [first] at settled
      simp [agree] at settled

section

variable (quiet : store.faults = [])

include quiet

/-! ## In place -/

omit quiet in
theorem runOn_desiredCronJobs_eq_done_iff {image : String} {nodes : List (Object .node)} :
    (desiredCronJobs context image nodes).runOn images store = (.done desired, after) ↔
      (nodes.mapM fun node =>
        Template.Nodes.cronJob? context.spec context.owner image node.displayName) =
          some desired ∧ after = store := by
  rw [desiredCronJobs]
  cases nodes.mapM fun node =>
    Template.Nodes.cronJob? context.spec context.owner image node.displayName with
  | none => simp [runOn]
  | some cronJobs => simp [runOn, eq_comm]

omit quiet in
theorem runOn_converge_eq_done_iff :
    ((converge context desired live).runOn images store = (.done outcome, after) ∧
        outcome.progress = .done) ↔
      AreScheduled desired live ∧ outcome = .settled (condition desired live) ∧
        after = store := by
  cases missing : firstOutside (namesOf live) desired with
  | some cronJob =>
      simp only [converge, missing, runOn_bind_const_eq_done_iff]
      constructor
      · intro finished
        obtain ⟨⟨_, rfl⟩, isDone⟩ := finished
        cases isDone
      · intro settled
        rw [settled.1.noneMissing] at missing
        cases missing
  | none =>
      cases drifted : firstDrifted? desired live with
      | some pair =>
          simp only [converge, missing, drifted, runOn_bind_const_eq_done_iff]
          constructor
          · intro finished
            obtain ⟨⟨_, rfl⟩, isDone⟩ := finished
            cases isDone
          · intro settled
            rw [settled.1.noneDrifted] at drifted
            cases drifted
      | none =>
          cases left : firstOutside (namesOf desired) live with
          | some cronJob =>
              simp only [converge, missing, drifted, left, runOn_bind_const_eq_done_iff]
              constructor
              · intro finished
                obtain ⟨⟨_, rfl⟩, isDone⟩ := finished
                cases isDone
              · intro settled
                rw [settled.1.noneLeft] at left
                cases left
          | none =>
              simp only [converge, missing, drifted, left, runOn_pure]
              constructor
              · intro finished
                obtain ⟨finished, _⟩ := finished
                cases finished
                exact ⟨{ noneMissing := missing, noneDrifted := drifted, noneLeft := left },
                  rfl, rfl⟩
              · intro settled
                obtain ⟨_, rfl, rfl⟩ := settled
                exact ⟨rfl, rfl⟩

/-- A pass is done with the scanners exactly when they are in place. -/
theorem runOn_reconcile_eq_done_iff :
    ((reconcile context).runOn images store = (.done outcome, after) ∧
        outcome.progress = .done) ↔
      (∃ report, Settled (context.aim images) store report ∧ outcome = .settled report) ∧
        after = store := by
  constructor
  · intro reconciled
    obtain ⟨configMap, finished, isDone⟩ := (runOn_guard_ensure_eq_done_iff quiet).mp reconciled
    simp only [runOn_bind_eq_done_iff] at finished
    obtain ⟨image, second, resolved, nodes, third, lookedNodes, desired, fourth, named, live, fifth,
      looked, finished⟩ := finished
    obtain ⟨answered, rfl⟩ := runOn_resolve_eq_done_iff.mp resolved
    obtain ⟨listsNodes, rfl⟩ := (runOn_list_eq_done_iff quiet).mp lookedNodes
    obtain ⟨made, rfl⟩ := runOn_desiredCronJobs_eq_done_iff.mp named
    obtain ⟨lists, rfl⟩ := (runOn_list_eq_done_iff quiet).mp looked
    obtain ⟨scheduled, rfl, rfl⟩ := runOn_converge_eq_done_iff.mp ⟨finished, isDone⟩
    exact ⟨⟨_, {
      configMap
      scans := ⟨image, nodes, desired, live, answered, listsNodes, made, lists, scheduled,
        rfl⟩ }, rfl⟩, rfl⟩
  · intro settled
    obtain ⟨⟨report, settled, rfl⟩, rfl⟩ := settled
    obtain ⟨image, nodes, desired, live, answered, listsNodes, made, lists, scheduled, rfl⟩ :=
      settled.scans
    apply (runOn_guard_ensure_eq_done_iff quiet).mpr
    refine ⟨settled.configMap, ?_, rfl⟩
    simp only [runOn_bind_eq_done_iff]
    exact ⟨image, after, runOn_resolve_eq_done_iff.mpr ⟨answered, rfl⟩, nodes, after,
      (runOn_list_eq_done_iff quiet).mpr ⟨listsNodes, rfl⟩, desired, after,
      runOn_desiredCronJobs_eq_done_iff.mpr ⟨made, rfl⟩, live, after,
      (runOn_list_eq_done_iff quiet).mpr ⟨lists, rfl⟩,
      (runOn_converge_eq_done_iff.mpr ⟨scheduled, rfl, rfl⟩).1⟩

/-! ## Gone -/

theorem runOn_deleteAll_eq_false_iff :
    (deleteAll context live).runOn images store = (.done false, after) ↔
      (∀ cronJob ∈ live,
        store.find? .cronJob (context.owner.key cronJob.displayName) = none) ∧
        after = store := by
  induction live generalizing after with
  | nil => simp [deleteAll, runOn, eq_comm]
  | cons cronJob rest inductionHypothesis =>
      simp only [deleteAll, runOn_bind_eq_done_iff]
      constructor
      · intro finished
        obtain ⟨deleted, first, ended, deletedRest, second, endedRest, finished⟩ := finished
        simp only [runOn_pure, Prod.mk.injEq, Ending.done.injEq, Bool.or_eq_false_iff] at finished
        obtain ⟨⟨rfl, rfl⟩, rfl⟩ := finished
        obtain ⟨free, rfl⟩ := (runOn_deleteIfPresent_eq_false_iff quiet).mp ended
        obtain ⟨restFree, rfl⟩ := inductionHypothesis.mp endedRest
        exact ⟨List.forall_mem_cons.mpr ⟨free, restFree⟩, rfl⟩
      · intro free
        obtain ⟨free, rfl⟩ := free
        obtain ⟨headFree, restFree⟩ := List.forall_mem_cons.mp free
        exact ⟨false, after, runOn_deleteIfPresent_of_free quiet headFree, false, after,
          inductionHypothesis.mpr ⟨restFree, rfl⟩, rfl⟩

/-- A pass is done with scanners that are not wanted exactly when they are torn down. -/
theorem runOn_tearDown_eq_done_iff :
    ((tearDown context).runOn images store = (.done outcome, after) ∧
        outcome.progress = .done) ↔
      TornDown context.owner store ∧
        outcome = .ofChange false (context.disabled .nodeScanningDegraded "NodeScanningDisabled"
          "Node scanning is disabled") ∧ after = store := by
  simp only [tearDown, runOn_bind_eq_done_iff]
  constructor
  · intro finished
    obtain ⟨⟨live, first, looked, cronJobs, second, deleted, configMap, third, deletedNext,
      finished⟩, isDone⟩ := finished
    cases finished
    have unchanged := Outcome.progress_ofChange_eq_done_iff.mp isDone
    obtain ⟨rfl, rfl⟩ := Bool.or_eq_false_iff.mp unchanged
    obtain ⟨lists, rfl⟩ := (runOn_list_eq_done_iff quiet).mp looked
    obtain ⟨free, rfl⟩ := (runOn_deleteAll_eq_false_iff quiet).mp deleted
    obtain ⟨configMapFree, rfl⟩ := (runOn_deleteIfPresent_eq_false_iff quiet).mp deletedNext
    exact ⟨{ configMap := configMapFree, scans := ⟨live, lists, free⟩ }, rfl, rfl⟩
  · intro gone
    obtain ⟨tornDown, rfl, rfl⟩ := gone
    obtain ⟨live, lists, free⟩ := tornDown.scans
    exact ⟨⟨live, after, (runOn_list_eq_done_iff quiet).mpr ⟨lists, rfl⟩, false, after,
      (runOn_deleteAll_eq_false_iff quiet).mpr ⟨free, rfl⟩, false, after,
      runOn_deleteIfPresent_of_free quiet tornDown.configMap, rfl⟩, rfl⟩

end

/-! ## Seen from outside -/

section

variable
  (sameConfigMaps : ∀ key, after.find? .configMap key = store.find? .configMap key)
  (sameCronJobs : ∀ key, after.find? .cronJob key = store.find? .cronJob key)

include sameConfigMaps sameCronJobs

theorem Settled.congr {aim : Aim} {report : ConditionUpdate} (settled : Settled aim store report)
    (sameNodes : ∀ key, after.find? .node key = store.find? .node key) :
    Settled aim after report where
  configMap := by
    rw [holds_congr (sameConfigMaps _)]
    exact settled.configMap
  scans := by
    obtain ⟨image, nodes, desired, live, answered, listsNodes, made, lists, scheduled, same⟩ :=
      settled.scans
    exact ⟨image, nodes, desired, live, answered, (lists_congr sameNodes).mpr listsNodes, made,
      (lists_congr sameCronJobs).mpr lists, scheduled, same⟩

theorem TornDown.congr {owner : Owner} (tornDown : TornDown owner store) :
    TornDown owner after where
  configMap := (sameConfigMaps _).trans tornDown.configMap
  scans := by
    obtain ⟨live, lists, free⟩ := tornDown.scans
    refine ⟨live, (lists_congr sameCronJobs).mpr lists, ?_⟩
    intro cronJob member
    rw [sameCronJobs]
    exact free cronJob member

end

/-- The objects that a selector of a feature asks for are those that carry the labels of the
feature. -/
theorem mem_selected_iff_marks {owner : Owner} (plain : Selector.isPlain owner.name = true)
    {kind : Kind} {component : Component} {stored : Stored kind} :
    stored ∈ store.selected kind owner.namespaceName (owner.selector component) ↔
      (∃ key, key.namespaceName = owner.namespaceName ∧ store.find? kind key = some stored) ∧
        owner.marks component stored.metadata = true := by
  rw [mem_selected_iff, Owner.selector, Labels.parse_ofComponent plain, Owner.marks]

theorem selected_eq_labelled {owner : Owner} (plain : Selector.isPlain owner.name = true)
    {kind : Kind} {component : Component} :
    store.selected kind owner.namespaceName (owner.selector component) =
      owner.labelled component kind store := by
  rw [selected, Owner.selector, Labels.parse_ofComponent plain]
  rfl

theorem selected_empty_selector {kind : Kind} {namespaceName : String} :
    store.selected kind namespaceName "" = store.among kind namespaceName := by
  have nothing : Selector.parse "" = [] := by decide
  simp [selected, nothing, Selector.isMatch]

/-- Every wanted scan has a live one of its name that is as it is wanted. -/
theorem AreScheduled.exists_live (scheduled : AreScheduled desired live) {wanted : CronJob}
    (member : wanted ∈ desired) :
    ∃ found ∈ live, found.displayName = wanted.displayName ∧
      Managed.sameNodeScan found wanted = true := by
  have present := firstOutside_eq_none_iff.mp scheduled.noneMissing wanted member
  obtain ⟨other, otherMember, sameName⟩ := mem_namesOf_iff.mp present
  cases first : live.find? fun cronJob => cronJob.displayName == wanted.displayName with
  | none =>
      have different := List.find?_eq_none.mp first other otherMember
      simp [sameName] at different
  | some found =>
      have foundName := List.find?_some first
      refine ⟨found, List.mem_of_find?_eq_some first, by simpa using foundName, ?_⟩
      exact sameNodeScan_of_firstDrifted?_eq_none scheduled.noneDrifted member first

/-- The scan of a node has the name that the node gives it. -/
theorem displayName_of_cronJob? {spec : AuditConfigSpec} {owner : Owner} {image node : String}
    {cronJob : CronJob}
    (made : Template.Nodes.cronJob? spec owner image node = some cronJob) :
    Naming.nodeCronJob? owner.name node = some cronJob.displayName := by
  obtain ⟨name, named, rfl⟩ := Option.map_eq_some_iff.mp made
  exact named

/-- The names that are wanted are those that the nodes give their scans. -/
theorem mem_namesOf_desired_iff {spec : AuditConfigSpec} {owner : Owner} {image : String}
    {nodes : List (Object .node)} (lists : store.Lists .node "" "" nodes)
    (made : (nodes.mapM fun node =>
      Template.Nodes.cronJob? spec owner image node.displayName) = some desired)
    {name : String} :
    name ∈ namesOf desired ↔ ∃ node ∈ store.among .node "",
      Naming.nodeCronJob? owner.name node.metadata.displayName = some name := by
  rw [mem_namesOf_iff, ← selected_empty_selector]
  constructor
  · rintro ⟨wanted, member, rfl⟩
    obtain ⟨node, present, nodeMade⟩ := exists_of_mem_values_of_mapM made member
    obtain ⟨stored, selected, read⟩ := exists_of_mem_values_of_mapM lists present
    refine ⟨stored, selected, ?_⟩
    rw [← Stored.metadata_of_read? read]
    exact displayName_of_cronJob? nodeMade
  · rintro ⟨stored, selected, named⟩
    obtain ⟨node, present, read⟩ := exists_of_mem_of_mapM lists selected
    obtain ⟨wanted, member, nodeMade⟩ := exists_of_mem_of_mapM made present
    have wantedName := displayName_of_cronJob? nodeMade
    rw [Object.displayName, Stored.metadata_of_read? read, named] at wantedName
    exact ⟨wanted, member, (Option.some.inj wantedName).symm⟩

theorem Settled.inPlace {aim : Aim} {report : ConditionUpdate}
    (plain : Selector.isPlain aim.owner.name = true) (settled : Settled aim store report) :
    InPlace aim store := by
  obtain ⟨image, nodes, desired, live, answered, listsNodes, made, lists, scheduled, _⟩ :=
    settled.scans
  have everyNode : ∀ stored ∈ store.among .node "", ∃ node ∈ nodes,
      node.displayName = stored.metadata.displayName := by
    intro stored member
    rw [← selected_empty_selector] at member
    obtain ⟨node, present, read⟩ := exists_of_mem_of_mapM listsNodes member
    refine ⟨node, present, ?_⟩
    rw [Object.displayName, Stored.metadata_of_read? read]
  refine {
    configMap := settled.configMap
    scans := ⟨image, answered, ?_⟩
    noOrphan := ?_ }
  · intro stored member
    obtain ⟨node, present, sameName⟩ := everyNode stored member
    obtain ⟨wanted, wantedMember, wantedMade⟩ := exists_of_mem_of_mapM made present
    obtain ⟨found, foundMember, foundName, agree⟩ := scheduled.exists_live wantedMember
    obtain ⟨foundStored, selected, read⟩ := exists_of_mem_values_of_mapM lists foundMember
    obtain ⟨⟨place, inNamespace, there⟩, marked⟩ := (mem_selected_iff_marks plain).mp selected
    refine ⟨wanted, place, found, ?_, inNamespace, ?_, foundName, ?_, agree⟩
    · rw [← sameName]
      exact wantedMade
    · rw [stored?, there, Option.bind_some, read]
    · rw [Stored.metadata_of_read? read]
      exact marked
  · intro place stored inNamespace there marked
    have selected := (mem_selected_iff_marks plain).mpr ⟨⟨place, inNamespace, there⟩, marked⟩
    obtain ⟨found, foundMember, read⟩ := exists_of_mem_of_mapM lists selected
    have known := firstOutside_eq_none_iff.mp scheduled.noneLeft found foundMember
    rw [Object.displayName, Stored.metadata_of_read? read] at known
    exact (mem_namesOf_desired_iff listsNodes made).mp known

/-- Of scanners that are torn down no scan is left under its own name. -/
theorem TornDown.gone {owner : Owner} (plain : Selector.isPlain owner.name = true)
    (tornDown : TornDown owner store) : Gone owner store where
  configMap := tornDown.configMap
  scans := by
    intro place stored inNamespace there marked sameName
    obtain ⟨live, lists, free⟩ := tornDown.scans
    have selected := (mem_selected_iff_marks plain).mpr ⟨⟨place, inNamespace, there⟩, marked⟩
    obtain ⟨found, foundMember, read⟩ := exists_of_mem_of_mapM lists selected
    have absent := free found foundMember
    have samePlace : owner.key found.displayName = place := by
      rw [Object.displayName, Stored.metadata_of_read? read, sameName, Owner.key, ← inNamespace]
    rw [samePlace, there] at absent
    cases absent

end ClusterAudit.Pass.Nodes
