import ClusterAudit.Proofs.Naming
import ClusterAudit.Proofs.Pass.Nodes
import ClusterAudit.Proofs.Work.Basic
import Mathlib.Data.List.Nodup

/-!
The work of the node scanners: their inventory, a scan for every node, and the scans of nodes that
have gone. Scans of different nodes have different names, so that no scan undoes another.
-/

namespace ClusterAudit.Pass.Nodes

open Store Managed

variable {context : PassContext} {images : ImageSource} {store after : Store} {aim : Aim}
  {owner : Owner}

/-! ## What is left to do -/

/-- The objects of the node scanners, and the nodes. -/
def IsHome (owner : Owner) : Kind → Key → Prop
  | .configMap, key => key = owner.key (Naming.nodeConfigMap owner.name)
  | .cronJob, _ => True
  | .node, _ => True
  | _, _ => False

def nodeNames (store : Store) : List String :=
  (store.among .node "").map fun stored => stored.metadata.displayName

/-- The names that the nodes give their scans. -/
def scanNames (owner : Owner) (store : Store) : List String :=
  (nodeNames store).filterMap (Naming.nodeCronJob? owner.name)

def wanted (aim : Aim) (store : Store) : List CronJob :=
  (nodeNames store).filterMap (Template.Nodes.cronJob? aim.spec aim.owner (aim.image (request aim)))

def isListed (aim : Aim) (store : Store) : Bool :=
  store.holds sameConfigMap (aim.owner.key (Naming.nodeConfigMap aim.owner.name))
    (Template.Nodes.configMap aim.owner (inventory aim.owner))

def isScheduled (aim : Aim) (store : Store) (scan : CronJob) : Bool :=
  store.holds sameNodeScan (aim.owner.key scan.displayName) scan

/-- The labels of the scanners stand on an object of the configuration's namespace. -/
def isMarked (owner : Owner) (entry : Key × Stored .cronJob) : Bool :=
  entry.1.namespaceName == owner.namespaceName && owner.marks .nodes entry.2.metadata

/-- The scan of a node that has gone. -/
def isOrphan (owner : Owner) (names : List String) (entry : Key × Stored .cronJob) : Bool :=
  isMarked owner entry && !names.contains entry.1.name

/-- The number of scans that are missing or differ from what is wanted. -/
def unscheduled (aim : Aim) (store : Store) : Nat :=
  (wanted aim store).countP fun scan => !isScheduled aim store scan

/-- The number of scans that are left of nodes that have gone. -/
def orphans (owner : Owner) (store : Store) : Nat :=
  (store.tables .cronJob).entries.countP (isOrphan owner (scanNames owner store))

def work (aim : Aim) (store : Store) : Nat :=
  outstanding (isListed aim store) + unscheduled aim store + orphans aim.owner store

/-- The number of scans that carry the labels of the scanners. -/
def marked (owner : Owner) (store : Store) : Nat :=
  (store.among .cronJob owner.namespaceName).countP fun stored => owner.marks .nodes stored.metadata

theorem work_le (aim : Aim) (store : Store) :
    work aim store ≤ 1 + (store.among .node "").length + marked aim.owner store := by
  have listed := outstanding_le (isListed aim store)
  have nodes : unscheduled aim store ≤ (store.among .node "").length := by
    have named : (nodeNames store).length = (store.among .node "").length := List.length_map _
    rw [← named]
    exact Nat.le_trans List.countP_le_length (List.length_filterMap_le _ _)
  have scans : orphans aim.owner store ≤ marked aim.owner store := by
    rw [orphans, marked, countP_among]
    apply List.countP_mono_left
    intro entry _ orphan
    rw [isOrphan, Bool.and_eq_true] at orphan
    exact orphan.1
  rw [work]
  omega

def AreReadable (owner : Owner) (store : Store) : Prop :=
  ∀ place stored, store.find? .cronJob place = some stored →
    isMarked owner (place, stored) = true → ∃ scan, stored.read? = some scan

/-- The scans that carry the labels can be read, and stand under their own names. -/
def AreSound (owner : Owner) (store : Store) : Prop :=
  ∀ place stored, store.find? .cronJob place = some stored →
    isMarked owner (place, stored) = true → stored.IsSound place

theorem AreSound.readable (sound : AreSound owner store) : AreReadable owner store := by
  intro place stored found marked
  exact (sound place stored found marked).reads

/-- The nodes give their scans different names, and whatever stands under one of these names carries
the labels. -/
structure IsNamed (owner : Owner) (store : Store) : Prop where
  named : ∀ node ∈ nodeNames store, ∃ name, Naming.nodeCronJob? owner.name node = some name
  distinct : (scanNames owner store).Nodup
  kept :
    ∀ name ∈ scanNames owner store, ∀ stored,
      store.find? .cronJob (owner.key name) = some stored →
      owner.marks .nodes stored.metadata = true

/-- The objects that a pass reads can be read, and those that it updates or deletes stand under their
own names. -/
structure Fits (aim : Aim) (store : Store) : Prop where
  configMap : store.IsSoundAt .configMap (aim.owner.key (Naming.nodeConfigMap aim.owner.name))
  nodes : ∀ stored ∈ store.among .node "", ∃ node, stored.read? = some node
  scans : AreSound aim.owner store

/-- A pass can bring the scanners into place. -/
structure Accepts (aim : Aim) (store : Store) : Prop extends
    Fits aim store, IsNamed aim.owner store

/-- Where the nodes stay as they are, a scan that is changed must carry the labels. -/
theorem Accepts.renew (accepts : Accepts aim store)
    (nodes : ∀ place, after.find? .node place = store.find? .node place)
    (configMap : after.IsSoundAt .configMap (aim.owner.key (Naming.nodeConfigMap aim.owner.name)))
    (scans : ∀ place stored, after.find? .cronJob place = some stored →
      store.find? .cronJob place = some stored ∨
        stored.IsSound place ∧ aim.owner.marks .nodes stored.metadata = true) :
    Accepts aim after := by
  have sameNodes : after.among .node "" = store.among .node "" := among_congr nodes ""
  have sameNames : nodeNames after = nodeNames store := by
    rw [nodeNames, nodeNames, sameNodes]
  have sameScans : scanNames aim.owner after = scanNames aim.owner store := by
    rw [scanNames, scanNames, sameNames]
  refine {
    configMap
    nodes := ?_
    scans := ?_
    named := ?_
    distinct := ?_
    kept := ?_ }
  · rw [sameNodes]
    exact accepts.nodes
  · intro place stored found marked
    rcases scans place stored found with old | new
    · exact accepts.scans place stored old marked
    · exact new.1
  · rw [sameNames]
    exact accepts.named
  · rw [sameScans]
    exact accepts.distinct
  · intro name member stored found
    rw [sameScans] at member
    rcases scans _ stored found with old | new
    · exact accepts.kept name member stored old
    · exact new.2

section Congruence

variable (same : ∀ kind key, IsHome owner kind key → after.find? kind key = store.find? kind key)

include same

theorem nodeNames_congr : nodeNames after = nodeNames store := by
  rw [nodeNames, nodeNames, among_congr fun key => same .node key trivial]

theorem scanNames_congr (other : Owner) : scanNames other after = scanNames other store := by
  rw [scanNames, scanNames, nodeNames_congr same]

theorem areReadable_congr (readable : AreReadable owner store) : AreReadable owner after := by
  intro place stored found
  rw [same .cronJob place trivial] at found
  exact readable place stored found

omit same in
theorem wanted_congr (sameNodes : nodeNames after = nodeNames store) :
    wanted aim after = wanted aim store := by
  rw [wanted, wanted, sameNodes]

end Congruence

section Congruence

variable (same : ∀ kind key, IsHome aim.owner kind key →
  after.find? kind key = store.find? kind key)

include same

theorem work_congr : work aim after = work aim store := by
  have listed : isListed aim after = isListed aim store :=
    holds_congr (same .configMap _ rfl) _ _
  have scheduled : isScheduled aim after = isScheduled aim store := by
    funext scan
    exact holds_congr (same .cronJob _ trivial) _ _
  have table : after.tables .cronJob = store.tables .cronJob :=
    ext_find? fun key => same .cronJob key trivial
  rw [work, work, listed, unscheduled, unscheduled, wanted_congr (nodeNames_congr same), scheduled,
    orphans, orphans, table, scanNames_congr same]

theorem Accepts.congr (accepts : Accepts aim store) : Accepts aim after := by
  refine accepts.renew (same .node · trivial) (accepts.configMap.congr (same .configMap _ rfl)) ?_
  intro place stored found
  rw [same .cronJob place trivial] at found
  exact Or.inl found

end Congruence

/-! ## Scans that are wanted -/

/-- What every scan that is wanted has. -/
structure IsWanted (owner : Owner) (scan : CronJob) : Prop where
  named : scan.metadata.name = some scan.displayName
  filled : scan.displayName ≠ ""
  statusless : scan.status = none
  labels : scan.metadata.labels = some (Labels.ofComponent owner.name .nodes)
  settles : Settles sameNodeScan mergeCronJob scan

theorem isWanted_of_mem {scan : CronJob} (member : scan ∈ wanted aim store) :
    IsWanted aim.owner scan := by
  obtain ⟨node, _, made⟩ := List.mem_filterMap.mp member
  have whole := inSeconds_cronJob? _ _ _ made
  obtain ⟨name, named, rfl⟩ := Option.map_eq_some_iff.mp made
  exact {
    named := rfl
    filled := Naming.nodeCronJob?_ne_empty named
    statusless := rfl
    labels := rfl
    settles := settles_cronJob whole }

theorem namesOf_wanted (aim : Aim) (store : Store) :
    namesOf (wanted aim store) = scanNames aim.owner store := by
  rw [namesOf, wanted, scanNames, List.map_filterMap]
  congr 1
  funext node
  rw [Template.Nodes.cronJob?, Option.map_map]
  exact Option.map_id'

theorem displayName_mem_scanNames {scan : CronJob} (member : scan ∈ wanted aim store) :
    scan.displayName ∈ scanNames aim.owner store := by
  rw [← namesOf_wanted]
  exact List.mem_map_of_mem member

theorem eq_of_displayName_eq (distinct : (scanNames aim.owner store).Nodup) {left right : CronJob}
    (leftMember : left ∈ wanted aim store) (rightMember : right ∈ wanted aim store)
    (sameName : left.displayName = right.displayName) : left = right := by
  rw [← namesOf_wanted] at distinct
  exact List.inj_on_of_nodup_map distinct leftMember rightMember sameName

/-! ## Scans that are live -/

section Live

variable {live : List CronJob} (plain : Selector.isPlain owner.name = true)

include plain

theorem exists_lists (readable : AreReadable owner store) :
    ∃ live, store.Lists .cronJob owner.namespaceName (owner.selector .nodes) live := by
  refine ⟨_, mapM_eq_filterMap ?_⟩
  intro stored selected
  obtain ⟨⟨place, inNamespace, there⟩, marks⟩ := (mem_selected_iff_marks plain).mp selected
  have marked : isMarked owner (place, stored) = true := by
    rw [isMarked, inNamespace, marks, beq_self_eq_true, Bool.and_self]
  exact readable place stored there marked

variable (sound : AreSound owner store)
  (lists : store.Lists .cronJob owner.namespaceName (owner.selector .nodes) live)

include sound lists

theorem exists_of_mem_live {scan : CronJob} (member : scan ∈ live) :
    ∃ stored, store.find? .cronJob (owner.key scan.displayName) = some stored ∧
      stored.read? = some scan ∧ owner.marks .nodes stored.metadata = true := by
  obtain ⟨stored, selected, read⟩ := exists_of_mem_values_of_mapM lists member
  obtain ⟨⟨place, inNamespace, there⟩, marks⟩ := (mem_selected_iff_marks plain).mp selected
  have marked : isMarked owner (place, stored) = true := by
    rw [isMarked, inNamespace, marks, beq_self_eq_true, Bool.and_self]
  have named := (sound place stored there marked).named
  have samePlace : owner.key scan.displayName = place := by
    rw [Object.displayName, Stored.metadata_of_read? read, named, Owner.key, ← inNamespace]
  rw [samePlace]
  exact ⟨stored, there, read, marks⟩

/-- What carries the labels is a live scan. -/
theorem exists_mem_live {name : String} {stored : Stored .cronJob}
    (found : store.find? .cronJob (owner.key name) = some stored)
    (marks : owner.marks .nodes stored.metadata = true) :
    ∃ scan ∈ live, stored.read? = some scan ∧ scan.displayName = name := by
  have selected := (mem_selected_iff_marks plain).mpr ⟨⟨owner.key name, rfl, found⟩, marks⟩
  obtain ⟨scan, member, read⟩ := exists_of_mem_of_mapM lists selected
  have marked : isMarked owner (owner.key name, stored) = true := by
    rw [isMarked, marks, Owner.key, beq_self_eq_true, Bool.and_self]
  refine ⟨scan, member, read, ?_⟩
  rw [Object.displayName, Stored.metadata_of_read? read]
  exact (sound _ stored found marked).named

end Live

/-! ## Steps -/

theorem advance_of_listed {object result : ConfigMap} (accepts : Accepts aim store)
    (deposits : Deposits store after .configMap
      (aim.owner.key (Naming.nodeConfigMap aim.owner.name)) object result)
    (named : object.displayName = Naming.nodeConfigMap aim.owner.name)
    (settled : sameConfigMap result
      (Template.Nodes.configMap aim.owner (inventory aim.owner)) = true)
    (missing : isListed aim store = false) :
    Advance (IsHome aim.owner) (Accepts aim) (work aim) store after := by
  have scans : ∀ place, after.find? .cronJob place = store.find? .cronJob place :=
    deposits.otherKind nofun
  have nodes : ∀ place, after.find? .node place = store.find? .node place :=
    deposits.otherKind nofun
  refine { agree := deposits.agreeOutside rfl, intact := ?_, less := ?_ }
  · refine accepts.renew nodes (deposits.sound named) ?_
    intro place stored found
    rw [scans] at found
    exact Or.inl found
  · have listed : isListed aim after = true := deposits.holds settled
    have scheduled : isScheduled aim after = isScheduled aim store := by
      funext scan
      exact holds_congr (scans _) _ _
    have sameNodes : nodeNames after = nodeNames store := by
      rw [nodeNames, nodeNames, among_congr nodes]
    rw [work, work, listed, missing, unscheduled, unscheduled, wanted_congr sameNodes, scheduled,
      orphans, orphans, ext_find? scans, scanNames, scanNames, sameNodes, outstanding_true,
      outstanding_false]
    omega

theorem advance_of_scheduled {scan object result : CronJob} (accepts : Accepts aim store)
    (deposits : Deposits store after .cronJob (aim.owner.key scan.displayName) object result)
    (named : object.displayName = scan.displayName)
    (labels : object.metadata.labels = scan.metadata.labels)
    (settled : sameNodeScan result scan = true) (member : scan ∈ wanted aim store)
    (missing : isScheduled aim store scan = false) :
    Advance (IsHome aim.owner) (Accepts aim) (work aim) store after := by
  obtain ⟨stored, read, alters⟩ := deposits.alters
  have configMaps : ∀ place, after.find? .configMap place = store.find? .configMap place :=
    deposits.otherKind nofun
  have nodes : ∀ place, after.find? .node place = store.find? .node place :=
    deposits.otherKind nofun
  have sameNodes : nodeNames after = nodeNames store := by
    rw [nodeNames, nodeNames, among_congr nodes]
  have marks : aim.owner.marks .nodes stored.metadata = true := by
    rw [← Stored.metadata_of_read? read, Owner.marks, deposits.isStored.labels, labels,
      (isWanted_of_mem member).labels]
    exact Labels.isMatch_entries _
  refine { agree := deposits.agreeOutside trivial, intact := ?_, less := ?_ }
  · refine accepts.renew nodes (accepts.configMap.congr (configMaps _)) ?_
    intro place other found
    by_cases here : place = aim.owner.key scan.displayName
    · right
      subst here
      cases alters.here.symm.trans found
      exact ⟨deposits.sound named stored found, marks⟩
    · left
      rw [← deposits.otherPlace here]
      exact found
  · have listed : isListed aim after = isListed aim store := holds_congr (configMaps _) _ _
    have scheduled : isScheduled aim after scan = true := deposits.holds settled
    have fewer : unscheduled aim after < unscheduled aim store := by
      rw [unscheduled, unscheduled, wanted_congr sameNodes]
      refine countP_lt_countP ?_ member ?_ ?_
      · intro other otherMember unscheduledAfter
        by_cases sameName : other.displayName = scan.displayName
        · -- No other scan that is wanted has this name, so that the step undoes none.
          rw [eq_of_displayName_eq accepts.distinct otherMember member sameName, scheduled]
            at unscheduledAfter
          cases unscheduledAfter
        · have otherPlace : aim.owner.key other.displayName ≠ aim.owner.key scan.displayName :=
            fun same => sameName (congrArg Key.name same)
          have unchanged : isScheduled aim after other = isScheduled aim store other :=
            holds_congr (deposits.otherPlace otherPlace) _ _
          rw [← unchanged]
          exact unscheduledAfter
      · rw [missing, Bool.not_false]
      · rw [scheduled, Bool.not_true]
    -- The scan that was put there has a name that is wanted, and is no orphan.
    have noMore : orphans aim.owner after = orphans aim.owner store := by
      have known : (scanNames aim.owner store).contains scan.displayName = true :=
        List.contains_iff_mem.mpr (displayName_mem_scanNames member)
      rw [orphans, orphans, alters.tables_insert, scanNames, sameNodes]
      apply countP_insertEntry_of_false
      intro value
      rw [isOrphan, Owner.key]
      change (_ && !(scanNames aim.owner store).contains scan.displayName) = false
      rw [known, Bool.not_true, Bool.and_false]
    rw [work, work, listed, noMore]
    omega

theorem advance_of_deleted {name : String} {stored : Stored .cronJob} (accepts : Accepts aim store)
    (found : store.find? .cronJob (aim.owner.key name) = some stored)
    (marks : aim.owner.marks .nodes stored.metadata = true)
    (unknown : name ∉ scanNames aim.owner store)
    (alters : Alters store after .cronJob (aim.owner.key name) none) :
    Advance (IsHome aim.owner) (Accepts aim) (work aim) store after := by
  have configMaps : ∀ place, after.find? .configMap place = store.find? .configMap place :=
    alters.otherKind nofun
  have nodes : ∀ place, after.find? .node place = store.find? .node place :=
    alters.otherKind nofun
  have sameNodes : nodeNames after = nodeNames store := by
    rw [nodeNames, nodeNames, among_congr nodes]
  refine { agree := alters.agreeOutside trivial, intact := ?_, less := ?_ }
  · refine accepts.renew nodes (accepts.configMap.congr (configMaps _)) ?_
    intro place other otherFound
    by_cases here : place = aim.owner.key name
    · subst here
      cases alters.here.symm.trans otherFound
    · left
      rw [← alters.otherPlace here]
      exact otherFound
  · have listed : isListed aim after = isListed aim store := holds_congr (configMaps _) _ _
    -- The scan that was deleted has a name that is not wanted.
    have noMore : unscheduled aim after = unscheduled aim store := by
      rw [unscheduled, unscheduled, wanted_congr sameNodes]
      apply List.countP_congr
      intro other member
      have otherPlace : aim.owner.key other.displayName ≠ aim.owner.key name := by
        intro same
        have sameName : other.displayName = name := congrArg Key.name same
        apply unknown
        rw [← sameName]
        exact displayName_mem_scanNames member
      have unchanged : isScheduled aim after other = isScheduled aim store other :=
        holds_congr (alters.otherPlace otherPlace) _ _
      rw [unchanged]
    have fewer : orphans aim.owner after < orphans aim.owner store := by
      have unlisted : (scanNames aim.owner store).contains name = false := by
        rw [← Bool.not_eq_true, List.contains_iff_mem]
        exact unknown
      rw [orphans, orphans, alters.tables_erase, scanNames, sameNodes]
      refine Dictionary.countP_erase_lt (Dictionary.mem_entries_iff.mpr found) ?_
      change (isMarked _ _ && !(scanNames aim.owner store).contains name) = true
      rw [isMarked, marks, unlisted, Owner.key, beq_self_eq_true]
      rfl
    rw [work, work, listed, noMore]
    omega

/-! ## Passes -/

/-- A drifted scan is a wanted one with a live one of its name that differs from it. -/
theorem exists_of_firstDrifted?_eq_some {desired live : List CronJob} {pair : CronJob × CronJob}
    (drifted : firstDrifted? desired live = some pair) :
    pair.2 ∈ desired ∧ pair.1 ∈ live ∧ pair.1.displayName = pair.2.displayName ∧
      sameNodeScan pair.1 pair.2 = false := by
  obtain ⟨scan, member, found⟩ := List.exists_of_findSome?_eq_some drifted
  obtain ⟨live, filtered, rfl⟩ := Option.map_eq_some_iff.mp found
  obtain ⟨first, differs⟩ := Option.filter_eq_some_iff.mp filtered
  have sameName := List.find?_some first
  refine ⟨member, List.mem_of_find?_eq_some first, ?_, ?_⟩
  · simpa using sameName
  · simpa using differs

section

variable (quiet : store.faults = []) (plain : Selector.isPlain context.name = true)

include quiet plain

section Converge

variable {live : List CronJob}
  (lists : store.Lists .cronJob context.owner.namespaceName (context.owner.selector .nodes) live)
  (accepts : Accepts (context.aim images) store)

include lists accepts

/-- The place of a scan that no live one has the name of is free, so that the scan can be created. -/
theorem exists_runOn_create_missing {scan : CronJob}
    (missing : firstOutside (namesOf live) (wanted (context.aim images) store) = some scan) :
    ∃ result after,
      (createIfAbsent context.namespaceName scan).runOn images store =
        (.done (.created result), after) ∧
      Advance (IsHome context.owner) (Accepts (context.aim images)) (work (context.aim images))
        store after := by
  have member : scan ∈ wanted (context.aim images) store := List.mem_of_find?_eq_some missing
  have isWanted := isWanted_of_mem member
  have absent : scan.displayName ∉ namesOf live := by
    have outside := List.find?_some missing
    simpa using outside
  have free : store.find? .cronJob (context.owner.key scan.displayName) = none := by
    cases place : store.find? .cronJob (context.owner.key scan.displayName) with
    | none => rfl
    | some stored =>
        have marks := accepts.kept _ (displayName_mem_scanNames member) stored place
        obtain ⟨other, otherMember, _, sameName⟩ :=
          exists_mem_live plain accepts.scans lists place marks
        exact absurd (mem_namesOf_iff.mpr ⟨other, otherMember, sameName⟩) absent
  obtain ⟨result, after, created, deposits⟩ :=
    exists_runOn_createIfAbsent quiet isWanted.named isWanted.filled isWanted.statusless free
  have unscheduled : isScheduled (context.aim images) store scan = false := by
    have nothing : store.stored? .cronJob (context.owner.key scan.displayName) = none := by
      rw [stored?, free, Option.bind_none]
    exact congrArg (Option.any _) nothing
  refine ⟨result, after, created, ?_⟩
  exact advance_of_scheduled accepts deposits rfl rfl
    (isWanted.settles.created result deposits.isStored) member unscheduled

theorem exists_runOn_update_drifted {found scan : CronJob}
    (drifted : firstDrifted? (wanted (context.aim images) store) live = some (found, scan)) :
    ∃ result after,
      (update context.namespaceName (mergeCronJob found scan)).runOn images store =
        (.done result, after) ∧
      Advance (IsHome context.owner) (Accepts (context.aim images)) (work (context.aim images))
        store after := by
  obtain ⟨member, liveMember, sameName, differs⟩ := exists_of_firstDrifted?_eq_some drifted
  have isWanted := isWanted_of_mem member
  obtain ⟨stored, place, read, _⟩ := exists_of_mem_live plain accepts.scans lists liveMember
  rw [sameName] at place
  have named : (mergeCronJob found scan).displayName = scan.displayName := sameName
  have labels : (mergeCronJob found scan).metadata.labels = scan.metadata.labels := rfl
  obtain ⟨result, after, updated, deposits⟩ :=
    exists_runOn_update quiet place read named (isWanted.settles.version found)
      (isWanted.settles.status found)
  have unscheduled : isScheduled (context.aim images) store scan = false := by
    have present : store.stored? .cronJob (context.owner.key scan.displayName) = some found := by
      rw [stored?, place, Option.bind_some, read]
    exact (congrArg (Option.any _) present).trans differs
  refine ⟨result, after, updated, ?_⟩
  exact advance_of_scheduled accepts deposits named labels
    (isWanted.settles.merged found result deposits.isStored) member unscheduled

theorem exists_runOn_delete_orphan {orphan : CronJob}
    (left : firstOutside (namesOf (wanted (context.aim images) store)) live = some orphan) :
    ∃ after,
      (deleteIfPresent .cronJob (context.key orphan.displayName)).runOn images store =
        (.done true, after) ∧
      Advance (IsHome context.owner) (Accepts (context.aim images)) (work (context.aim images))
        store after := by
  have liveMember : orphan ∈ live := List.mem_of_find?_eq_some left
  have unknown : orphan.displayName ∉ scanNames (context.aim images).owner store := by
    have outside := List.find?_some left
    rw [namesOf_wanted] at outside
    simpa using outside
  obtain ⟨stored, place, _, marks⟩ := exists_of_mem_live plain accepts.scans lists liveMember
  obtain ⟨after, deleted, alters⟩ := runOn_deleteIfPresent_of_taken quiet place
  exact ⟨after, deleted, advance_of_deleted accepts place marks unknown alters⟩

theorem proceeds_converge :
    Proceeds (IsHome context.owner) (Accepts (context.aim images)) (work (context.aim images)) store
      ((converge context (wanted (context.aim images) store) live).runOn images store) := by
  cases missing : firstOutside (namesOf live) (wanted (context.aim images) store) with
  | some scan =>
      obtain ⟨result, after, created, advance⟩ :=
        exists_runOn_create_missing quiet plain lists accepts missing
      simp only [converge, missing]
      refine .bind created ?_
      exact .advanced _ after rfl advance
  | none =>
      cases drifted : firstDrifted? (wanted (context.aim images) store) live with
      | some pair =>
          obtain ⟨result, after, updated, advance⟩ :=
            exists_runOn_update_drifted quiet plain lists accepts drifted
          simp only [converge, missing, drifted]
          refine .bind updated ?_
          exact .advanced _ after rfl advance
      | none =>
          cases left : firstOutside (namesOf (wanted (context.aim images) store)) live with
          | some orphan =>
              obtain ⟨after, deleted, advance⟩ :=
                exists_runOn_delete_orphan quiet plain lists accepts left
              simp only [converge, missing, drifted, left]
              refine .bind deleted ?_
              exact .advanced _ after rfl advance
          | none =>
              simp only [converge, missing, drifted, left]
              exact .settled _ rfl

end Converge

/-- A pass over scanners that are wanted goes through, and does one thing at most. -/
theorem proceeds_reconcile
    (resolves : ∃ image, (context.aim images).images (request (context.aim images)) = .ok image)
    (accepts : Accepts (context.aim images) store) :
    Proceeds (IsHome context.owner) (Accepts (context.aim images)) (work (context.aim images)) store
      ((reconcile context).runOn images store) := by
  have filled : Naming.nodeConfigMap context.owner.name ≠ "" :=
    Naming.append_ne_empty (by decide)
  refine .ensure quiet
    (settles_configMap (Template.Nodes.configMap context.owner (inventory context.owner))) rfl filled
    rfl accepts.configMap ?_ ?_
  · intro missing after object result deposits named settled
    exact advance_of_listed accepts deposits named settled missing
  intro _
  have answered : images (request (context.aim images)) =
      .ok ((context.aim images).image (request (context.aim images))) :=
    Aim.image_eq resolves
  refine .bind (runOn_resolve_eq_done_iff.mpr ⟨answered, rfl⟩) ?_
  have listsNodes : store.Lists .node "" "" ((store.among .node "").filterMap Stored.read?) := by
    rw [Store.Lists, selected_empty_selector]
    exact mapM_eq_filterMap accepts.nodes
  have made : (((store.among .node "").filterMap Stored.read?).mapM fun node =>
      Template.Nodes.cronJob? context.spec context.owner
        ((context.aim images).image (request (context.aim images))) node.displayName) =
      some (wanted (context.aim images) store) := by
    have named : ∀ node ∈ nodeNames store, ∃ scan,
        Template.Nodes.cronJob? context.spec context.owner
          ((context.aim images).image (request (context.aim images))) node = some scan := by
      intro node member
      obtain ⟨name, named⟩ := accepts.named node member
      exact ⟨_, Option.map_eq_some_iff.mpr ⟨name, named, rfl⟩⟩
    have sameNames : ((store.among .node "").filterMap Stored.read?).map Object.displayName =
        nodeNames store :=
      map_displayName_of_mapM (mapM_eq_filterMap accepts.nodes)
    have split := mapM_eq_filterMap named
    rw [← sameNames, List.mapM_map, sameNames] at split
    exact split
  refine .bind ((runOn_list_eq_done_iff quiet).mpr ⟨listsNodes, rfl⟩) ?_
  refine .bind (runOn_desiredCronJobs_eq_done_iff.mpr ⟨made, rfl⟩) ?_
  obtain ⟨live, lists⟩ := exists_lists plain accepts.scans.readable
  refine .bind ((runOn_list_eq_done_iff quiet).mpr ⟨lists, rfl⟩) ?_
  exact proceeds_converge quiet plain lists accepts

end

/-! ## Removal -/

/-- Nothing of the scanners is left that a pass would delete. -/
def isGone (owner : Owner) (store : Store) : Bool :=
  (store.find? .configMap (owner.key (Naming.nodeConfigMap owner.name))).isNone &&
    (store.among .cronJob owner.namespaceName).all fun stored =>
      !owner.marks .nodes stored.metadata ||
        (store.find? .cronJob (owner.key stored.metadata.displayName)).isNone

theorem isGone_iff :
    isGone owner store = true ↔
      store.find? .configMap (owner.key (Naming.nodeConfigMap owner.name)) = none ∧
        ∀ place stored, place.namespaceName = owner.namespaceName →
          store.find? .cronJob place = some stored →
          owner.marks .nodes stored.metadata = true →
          store.find? .cronJob (owner.key stored.metadata.displayName) = none := by
  simp only [isGone, Bool.and_eq_true, Option.isNone_iff_eq_none, List.all_eq_true, mem_among_iff,
    Bool.or_eq_true, Bool.not_eq_true']
  constructor
  · intro gone
    refine ⟨gone.1, ?_⟩
    intro place stored inNamespace there marks
    rcases gone.2 stored ⟨place, inNamespace, there⟩ with unmarked | free
    · rw [marks] at unmarked
      cases unmarked
    · exact free
  · intro gone
    refine ⟨gone.1, ?_⟩
    intro stored member
    obtain ⟨place, inNamespace, there⟩ := member
    cases marks : owner.marks .nodes stored.metadata with
    | false => exact Or.inl rfl
    | true => exact Or.inr (gone.2 place stored inNamespace there marks)

theorem isGone_congr
    (same : ∀ kind key, IsHome owner kind key → after.find? kind key = store.find? kind key) :
    isGone owner after = isGone owner store := by
  have scans : ∀ key, after.find? .cronJob key = store.find? .cronJob key :=
    fun key => same .cronJob key trivial
  simp only [isGone, same .configMap _ rfl, among_congr scans, scans]

theorem tornDown_of_isGone (plain : Selector.isPlain owner.name = true)
    (readable : AreReadable owner store) (gone : isGone owner store = true) :
    TornDown owner store := by
  obtain ⟨configMap, free⟩ := isGone_iff.mp gone
  obtain ⟨live, lists⟩ := exists_lists plain readable
  refine { configMap, scans := ⟨live, lists, ?_⟩ }
  intro scan member
  obtain ⟨stored, selected, read⟩ := exists_of_mem_values_of_mapM lists member
  obtain ⟨⟨place, inNamespace, there⟩, marks⟩ := (mem_selected_iff_marks plain).mp selected
  rw [Object.displayName, Stored.metadata_of_read? read]
  exact free place stored inNamespace there marks

/-- Every one of some scans is deleted, whatever was there. -/
theorem exists_runOn_deleteAll (images : ImageSource) (quiet : store.faults = [])
    (live : List CronJob) :
    ∃ deleted after, (deleteAll context live).runOn images store = (.done deleted, after) ∧
      Thins store after .cronJob ∧
      ∀ scan ∈ live, after.find? .cronJob (context.owner.key scan.displayName) = none := by
  induction live generalizing store with
  | nil =>
      refine ⟨false, store, rfl, Thins.refl, ?_⟩
      intro scan member
      cases member
  | cons scan rest inductionHypothesis =>
      obtain ⟨middle, deleted, alters⟩ :=
        exists_runOn_deleteIfPresent images quiet .cronJob (context.owner.key scan.displayName)
      obtain ⟨deletedRest, after, ended, thins, freeRest⟩ :=
        inductionHypothesis (alters.faults.trans quiet)
      refine ⟨deletedRest || (store.find? .cronJob
        (context.owner.key scan.displayName)).isSome, after, ?_, alters.thins.trans thins, ?_⟩
      · rw [deleteAll]
        exact (runOn_bind_of_done deleted).trans (runOn_bind_of_done ended)
      · intro other member
        rcases List.mem_cons.mp member with isFirst | isLater
        · rw [isFirst]
          exact thins.free alters.here
        · exact freeRest other isLater

/-- A pass over scanners that are not wanted goes through, and leaves nothing of them. -/
theorem proceeds_tearDown (quiet : store.faults = [])
    (plain : Selector.isPlain context.name = true) (readable : AreReadable context.owner store) :
    Proceeds (IsHome context.owner) (AreReadable context.owner)
      (fun store => outstanding (isGone context.owner store)) store
      ((tearDown context).runOn images store) := by
  obtain ⟨live, lists⟩ := exists_lists plain readable
  obtain ⟨deleted, middle, endedAll, thins, free⟩ :
      ∃ deleted middle, (deleteAll context live).runOn images store = (.done deleted, middle) ∧
        Thins store middle .cronJob ∧
        ∀ scan ∈ live, middle.find? .cronJob (context.owner.key scan.displayName) = none :=
    exists_runOn_deleteAll images quiet live
  obtain ⟨after, deletedNext, alters⟩ :=
    exists_runOn_deleteIfPresent images (thins.faults.trans quiet) .configMap
      (context.key (Naming.nodeConfigMap context.name))
  have looked : (list .cronJob context.namespaceName (context.selector .nodes)).runOn images store =
      (.done live, store) :=
    (runOn_list_eq_done_iff quiet).mpr ⟨lists, rfl⟩
  have ended : (tearDown context).runOn images store = (.done _, after) :=
    (runOn_bind_of_done looked).trans
      ((runOn_bind_of_done endedAll).trans (runOn_bind_of_done deletedNext))
  have scans : ∀ place, after.find? .cronJob place = middle.find? .cronJob place :=
    alters.otherKind nofun
  have gone : isGone context.owner after = true := by
    refine isGone_iff.mpr ⟨alters.here, ?_⟩
    intro place stored inNamespace there marks
    rw [scans] at there
    have before := thins.kept place stored there
    have selected := (mem_selected_iff_marks plain).mpr ⟨⟨place, inNamespace, before⟩, marks⟩
    obtain ⟨scan, member, read⟩ := exists_of_mem_of_mapM lists selected
    rw [scans, ← Stored.metadata_of_read? read]
    exact free scan member
  have kept : AreReadable context.owner after := by
    intro place stored found
    rw [scans] at found
    exact readable place stored (thins.kept place stored found)
  have agree : AgreeOutside (IsHome context.owner) store after :=
    (thins.agreeOutside fun _ => trivial).trans (alters.agreeOutside rfl)
  exact .of_removal (runOn_tearDown_eq_done_iff quiet) (tornDown_of_isGone plain readable) ended
    agree kept gone

end ClusterAudit.Pass.Nodes
