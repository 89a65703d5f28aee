import ClusterAudit.Managed.Equality
import ClusterAudit.Managed.Merge
import ClusterAudit.Pass.Convergence
import ClusterAudit.Pass.Outcome
import ClusterAudit.Template.Workloads

/-!
The workload scanner in a pass. Its deployment records the inventory that its pods were started
with; pods with an old inventory are restarted.
-/

namespace ClusterAudit.Pass.Workloads

open Template.Workloads (restartedAtKey revisionKey)

/-- The live deployment with what is wanted of it. The time of the last restart stays. -/
def merged (live desired : Deployment) : Deployment :=
  let updated := Managed.mergeDeployment live desired
  match Template.Workloads.annotation? live restartedAtKey with
  | some time => Template.Workloads.annotate updated restartedAtKey time
  | none => updated

/-- The live deployment with annotations that make its pods restart. -/
def restarted (live : Deployment) (now : Instant) (revision : String) : Deployment :=
  Template.Workloads.annotate
    (Template.Workloads.annotate live restartedAtKey now.toOffsetText) revisionKey revision

/-- The condition of the scanner. -/
def condition (live : Deployment) : ConditionUpdate :=
  if (live.status.getD {}).isDegraded then
    .ofDegraded .workloadScanningDegraded true "WorkloadScanningUnavailable"
      "Workload scanner Deployment is not ready"
  else
    .ofDegraded .workloadScanningDegraded false "WorkloadScanningAvailable"
      "Workload scanner is running"

/-- Deletes the scanner under the name of earlier releases, if this configuration owns it. -/
def removeLegacy (context : PassContext) : Pass Bool := do
  let key := context.key (Naming.legacyWorkloadDeployment context.name)
  match ← get .deployment key with
  | none => return false
  | some legacy =>
      if legacy.metadata.isOwnedBy context.owner.reference.uid then
        deleteIfPresent .deployment key
      else return false

/-- The end of a pass over a scanner that is in place. -/
def settle (context : PassContext) (live : Deployment) : Pass Outcome := do
  if context.policy.disableLegacyWorkloadCleanup then
    return .ofChange false (some (condition live))
  else
    return .ofChange (← removeLegacy context) (some (condition live))

/-- Brings a deployment that exists to what is wanted of it. -/
def converge (context : PassContext) (live desired : Deployment) (inventory : String) :
    Pass Outcome := do
  if !Managed.sameDeploymentAndResources live desired then
    let _ ← update context.namespaceName (merged live desired)
    return .changed
  else
    let revision := Inventory.revision inventory
    if Template.Workloads.podRevision? live != some revision then
      let _ ← update context.namespaceName (restarted live context.now revision)
      return .changed
    else settle context live

/-- Brings the scanner into place. -/
def reconcile (context : PassContext) : Pass Outcome := do
  let inventory := (Inventory.ofWorkloads context.owner).toText
  let change ← ensure context.namespaceName
    (Template.Workloads.configMap context.owner inventory)
    Managed.sameConfigMap Managed.mergeConfigMap
  if change.isMutation then return .changed
  else
    let image := context.spec.workloads.image
    let image ← resolve
      (.scanner image.name image.tag context.policy.skipContainerResolution)
    let desired := Template.Workloads.deployment context.spec context.owner image inventory
    match ← createIfAbsent context.namespaceName desired with
    | .created _ => return .changed
    | .existing live => converge context live desired inventory

/-- Removes the scanner. -/
def tearDown (context : PassContext) : Pass Outcome := do
  let deployment ←
    deleteIfPresent .deployment (context.key (Naming.workloadDeployment context.name))
  let configMap ←
    deleteIfPresent .configMap (context.key (Naming.workloadConfigMap context.name))
  return .ofChange (deployment || configMap)
    (context.disabled .workloadScanningDegraded "WorkloadScanningDisabled"
      "Workload scanning is disabled")

end ClusterAudit.Pass.Workloads
