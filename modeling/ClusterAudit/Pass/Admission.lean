import ClusterAudit.Managed.Equality
import ClusterAudit.Managed.Merge
import ClusterAudit.Pass.Convergence
import ClusterAudit.Pass.Outcome
import ClusterAudit.Template.Admission

/-!
The admission webhook in a pass. Its registration belongs to the whole cluster and does not go away
with the configuration, so a finalizer holds the configuration back until it is removed.
-/

namespace ClusterAudit.Pass.Admission

/-! ## Finalizer -/

/-- The finalizer that guards the registration. -/
def finalizer : String := "audit.microscaler.io/webhook-cleanup"

/-- The finalizers of a configuration. -/
def finalizers (config : AuditConfig) : List String :=
  config.metadata.finalizers.getD []

def hasFinalizer (config : AuditConfig) : Bool :=
  (finalizers config).contains finalizer

/-- A configuration with other finalizers. -/
def withFinalizers (config : AuditConfig) (finalizers : List String) : AuditConfig :=
  { config with metadata := { config.metadata with finalizers := some finalizers } }

/-- The namespace of a configuration. -/
def namespaceOf (config : AuditConfig) : Except Misconfiguration String :=
  match config.metadata.namespaceName with
  | some namespaceName => .ok namespaceName
  | none => .error (.noNamespace config.displayName)

def addFinalizer (config : AuditConfig) : Pass Unit := do
  let namespaceName ← configured (namespaceOf config)
  let _ ← update namespaceName (withFinalizers config (finalizers config ++ [finalizer]))

def removeFinalizer (config : AuditConfig) : Pass Unit := do
  let namespaceName ← configured (namespaceOf config)
  let _ ← update namespaceName
    (withFinalizers config ((finalizers config).filter (· != finalizer)))

/-- Removes the registration of a configuration that is being deleted, and lets it go. -/
def finalize (config : AuditConfig) : Pass Unit := do
  if hasFinalizer config then
    let namespaceName ← configured (namespaceOf config)
    let _ ← deleteIfPresent .webhookConfiguration
      (Key.ofCluster (Naming.webhookConfiguration namespaceName config.displayName))
    removeFinalizer config

/-! ## Feature -/

/-- The condition of the webhook. -/
def condition (status : DeploymentStatus) : ConditionUpdate :=
  if status.isDegraded then
    .ofDegraded .admissionDegraded true "AdmissionUnavailable"
      ("Webhook has " ++ Text.ofInt status.readyPods ++ "/" ++ Text.ofInt status.pods ++
        " ready replicas")
  else
    .ofDegraded .admissionDegraded false "AdmissionAvailable" "Admission webhook is serving"

/-- Brings the objects of the webhook into place, one after the other, and stops at the first
change. -/
def converge (context : PassContext) (desired : Deployment) : Pass Outcome := do
  let change ←
    ensure context.namespaceName desired Managed.sameDeployment Managed.mergeDeployment
  if change.isMutation then return .changed
  else
    let change ← ensure context.namespaceName (Template.Admission.service context.owner)
      Managed.sameService Managed.mergeService
    if change.isMutation then return .changed
    else
      let change ← ensureCluster (Template.Admission.registration context.spec context.owner)
        Managed.sameRegistration Managed.mergeRegistration
      if change.isMutation then return .changed
      else
        let live ← get .deployment (context.key desired.displayName)
        return .settled (condition ((live.bind Object.status).getD {}))

/-- Brings the webhook into place. Nothing is made before the finalizer stands. -/
def reconcile (context : PassContext) : Pass Outcome := do
  if !hasFinalizer context.config then
    addFinalizer context.config
    return .changed
  else
    let image := context.spec.admission.image
    let image ← resolve
      (.operator image.name image.tag context.policy.skipContainerResolution)
    converge context (Template.Admission.deployment context.spec context.owner image)

/-- Removes the webhook, the finalizer last. -/
def tearDown (context : PassContext) : Pass Outcome := do
  let registration ← deleteIfPresent .webhookConfiguration
    (Key.ofCluster (Naming.webhookConfiguration context.namespaceName context.name))
  let deployment ←
    deleteIfPresent .deployment (context.key (Naming.webhookDeployment context.name))
  let service ← deleteIfPresent .service (context.key (Naming.webhookService context.name))
  let guarded := hasFinalizer context.config
  if guarded then removeFinalizer context.config
  return .ofChange (registration || deployment || service || guarded)
    (context.disabled .admissionDegraded "AdmissionDisabled" "Admission webhook is disabled")

end ClusterAudit.Pass.Admission
