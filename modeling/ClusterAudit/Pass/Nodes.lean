import ClusterAudit.Managed.Equality
import ClusterAudit.Managed.Merge
import ClusterAudit.Pass.Convergence
import ClusterAudit.Pass.Outcome
import ClusterAudit.Template.Nodes

/-!
The node scanners in a pass. A pass changes one cron job at most: one that is missing is created
first, then one that differs is updated, then one whose node has gone is deleted.
-/

namespace ClusterAudit.Pass.Nodes

/-- The names of some cron jobs. -/
def namesOf (cronJobs : List CronJob) : List String :=
  cronJobs.map Object.displayName

/-- The first cron job that has none of the given names. -/
def firstOutside (names : List String) (cronJobs : List CronJob) : Option CronJob :=
  cronJobs.find? fun cronJob => !names.contains cronJob.displayName

/-- The first wanted cron job whose live one differs, with the live one. -/
def firstDrifted? (desired live : List CronJob) : Option (CronJob × CronJob) :=
  desired.findSome? fun wanted =>
    ((live.find? fun found => found.displayName == wanted.displayName).filter fun found =>
      !Managed.sameNodeScan found wanted).map fun found => (found, wanted)

/-- The condition of the scanners. -/
def condition (desired live : List CronJob) : ConditionUpdate :=
  match namesOf (live.filter Template.Nodes.isFailing) with
  | [] =>
      .ofDegraded .nodeScanningDegraded false "NodeScanningAvailable"
        ("Node scanning is scheduled on " ++ Text.ofNat desired.length ++ " nodes")
  | failing =>
      .ofDegraded .nodeScanningDegraded true "NodeScanningUnavailable"
        ("Node scans failing: " ++ ", ".intercalate failing)

/-- Makes the first change that the live cron jobs need. -/
def converge (context : PassContext) (desired live : List CronJob) : Pass Outcome := do
  match firstOutside (namesOf live) desired with
  | some missing =>
      let _ ← createIfAbsent context.namespaceName missing
      return .changed
  | none =>
      match firstDrifted? desired live with
      | some (found, wanted) =>
          let _ ← update context.namespaceName (Managed.mergeCronJob found wanted)
          return .changed
      | none =>
          match firstOutside (namesOf desired) live with
          | some orphan =>
              let _ ← deleteIfPresent .cronJob (context.key orphan.displayName)
              return .changed
          | none => return .settled (condition desired live)

/-- The cron jobs that are wanted, one for each node. -/
def desiredCronJobs (context : PassContext) (image : String) (nodes : List (Object .node)) :
    Pass (List CronJob) :=
  match nodes.mapM fun node =>
      Template.Nodes.cronJob? context.spec context.owner image node.displayName with
  | some cronJobs => done cronJobs
  | none => crash

/-- Brings the scanners into place. -/
def reconcile (context : PassContext) : Pass Outcome := do
  let inventory := (Inventory.ofNodes context.owner).toText
  let change ← ensure context.namespaceName (Template.Nodes.configMap context.owner inventory)
    Managed.sameConfigMap Managed.mergeConfigMap
  if change.isMutation then return .changed
  else
    let image := context.spec.nodes.image
    let image ← resolve
      (.scanner image.name image.tag context.policy.skipContainerResolution)
    let desired ← desiredCronJobs context image (← list .node "" "")
    converge context desired (← list .cronJob context.namespaceName (context.selector .nodes))

/-- Deletes some cron jobs, and says whether there were any. -/
def deleteAll (context : PassContext) : List CronJob → Pass Bool
  | [] => done false
  | cronJob :: rest => do
      let deleted ← deleteIfPresent .cronJob (context.key cronJob.displayName)
      return (← deleteAll context rest) || deleted

/-- Removes the scanners. -/
def tearDown (context : PassContext) : Pass Outcome := do
  let live ← list .cronJob context.namespaceName (context.selector .nodes)
  let cronJobs ← deleteAll context live
  let configMap ← deleteIfPresent .configMap (context.key (Naming.nodeConfigMap context.name))
  return .ofChange (cronJobs || configMap)
    (context.disabled .nodeScanningDegraded "NodeScanningDisabled" "Node scanning is disabled")

end ClusterAudit.Pass.Nodes
