import ClusterAudit.Managed.Equality
import ClusterAudit.Managed.Merge
import ClusterAudit.Pass.Convergence
import ClusterAudit.Pass.Outcome
import ClusterAudit.Template.ScanApi

/-!
The scan API in a pass. A fresh token is offered every time, and taken only if there is none yet.
-/

namespace ClusterAudit.Pass.ScanApi

/-- Brings secret, deployment and service into place, and says whether anything changed. -/
def deploy (owner : Owner) (token : String) (desired : Deployment) : Pass Bool := do
  let secret ← createTolerant owner.namespaceName (Template.ScanApi.tokenSecret owner token)
  let deployment ← ensure owner.namespaceName desired Managed.sameDeploymentAndResources
    Managed.mergeDeployment
  let service ← ensure owner.namespaceName (Template.ScanApi.service owner) Managed.sameService
    Managed.mergeService
  return secret || deployment.isMutation || service.isMutation

/-- Removes secret, deployment and service, and says whether there were any. -/
def cleanup (owner : Owner) : Pass Bool := do
  let key (name : String) : Key := { namespaceName := owner.namespaceName, name }
  let secret ← deleteIfPresent .secret (key (Naming.scanApiSecret owner.name))
  let deployment ← deleteIfPresent .deployment (key (Naming.scanApi owner.name))
  let service ← deleteIfPresent .service (key (Naming.scanApi owner.name))
  return secret || deployment || service

/-- The condition of the scan API. -/
def condition (status : DeploymentStatus) : ConditionUpdate :=
  if status.isDegraded then
    .ofDegraded .scanApiDegraded true "ScanApiUnavailable" "Scan API Deployment is not ready"
  else .ofDegraded .scanApiDegraded false "ScanApiAvailable" "Scan API is serving"

/-- Brings the scan API into place. -/
def reconcile (context : PassContext) : Pass Outcome := do
  let image := context.spec.scanApi.image
  let image ← resolve
    (.scanner image.name image.tag context.policy.skipContainerResolution)
  let desired := Template.ScanApi.deployment context.spec context.owner image
  if ← deploy context.owner context.token desired then return .changed
  else
    let live ← get .deployment (context.key desired.displayName)
    return .settled (condition ((live.bind Object.status).getD {}))

/-- Removes the scan API. -/
def tearDown (context : PassContext) : Pass Outcome := do
  let deleted ← cleanup context.owner
  return .ofChange deleted
    (context.disabled .scanApiDegraded "ScanApiDisabled" "Scan API is disabled")

end ClusterAudit.Pass.ScanApi
