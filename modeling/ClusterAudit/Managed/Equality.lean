import ClusterAudit.Object.Basic
import ClusterAudit.Quantity

/-!
When a live object has what the operator wants of it. Only the parts that the operator sets are
looked at, since the cluster fills in others. A list that is absent counts as empty, since the
cluster drops empty lists.
-/

namespace ClusterAudit.Managed

/-- Two lists agree, where an absent one counts as empty. -/
def sameList {Item : Type} [DecidableEq Item] (left right : Option (List Item)) : Bool :=
  left.getD [] == right.getD []

/-- The owners agree. -/
def sameOwners (left right : Metadata) : Bool :=
  sameList left.owners right.owners

/-! ## Pods -/

/-- Image, command, arguments, mounts and environment agree. -/
def sameContainer (left right : Container) : Bool :=
  left.image == right.image && sameList left.command right.command &&
    sameList left.args right.args && sameList left.volumeMounts right.volumeMounts &&
    sameList left.env right.env

/-- The first containers agree, or there are none. -/
def sameFirstContainer (left right : PodSpec) : Bool :=
  match left.containers.head?, right.containers.head? with
  | none, none => true
  | some left, some right => sameContainer left right
  | _, _ => false

/-- Volumes agree, where the sign of a zero does not count. -/
def sameVolumes (left right : Option (List Volume)) : Bool :=
  sameList (left.map fun volumes => volumes.map Volume.plainZeros)
    (right.map fun volumes => volumes.map Volume.plainZeros)

/-- The name of the service account, empty if there is none. -/
def serviceAccount (pod : PodSpec) : String :=
  pod.serviceAccountName.getD ""

/-! ## Resources -/

/-- The amount of a resource in an optional table. -/
def amount? (amounts : Option Texts) (name : String) : Option String :=
  amounts.bind fun amounts => amounts.get? name

/-- The resources that a table names. -/
def resourceNames (amounts : Option Texts) : List String :=
  (amounts.getD Dictionary.empty).keys

/-- Two tables give the same amount of every resource; one that is missing counts as zero. -/
def sameAmounts (left right : Option Texts) : Bool :=
  (resourceNames left ++ resourceNames right).all fun name =>
    Quantity.sameAmount (amount? left name) (amount? right name)

/-- Limits and requests agree by value. -/
def sameResources (left right : ResourceRequirements) : Bool :=
  sameAmounts left.limits right.limits && sameAmounts left.requests right.requests

/-- The resources of the first container. -/
def firstResources (pod : Option PodSpec) : ResourceRequirements :=
  ((pod.bind fun pod => pod.containers.head?).bind Container.resources).getD {}

/-! ## Objects -/

/-- The pods of an optional deployment. -/
def deploymentPod (deployment : Deployment) : Option PodSpec :=
  deployment.content.bind fun spec => spec.template.spec

/-- The parts of two deployments that the operator manages agree, but for resources. -/
def sameDeployment (left right : Deployment) : Bool :=
  match left.content, right.content with
  | some leftSpec, some rightSpec =>
      let leftPod := leftSpec.template.spec.getD {}
      let rightPod := rightSpec.template.spec.getD {}
      leftPod.containers.length == rightPod.containers.length &&
        leftSpec.replicas == rightSpec.replicas && leftSpec.selector == rightSpec.selector &&
        serviceAccount leftPod == serviceAccount rightPod &&
        sameFirstContainer leftPod rightPod && sameVolumes leftPod.volumes rightPod.volumes &&
        sameOwners left.metadata right.metadata
  | none, none => sameOwners left.metadata right.metadata
  | _, _ => false

/-- The parts of two deployments that the operator manages agree. -/
def sameDeploymentAndResources (left right : Deployment) : Bool :=
  sameDeployment left right &&
    sameResources (firstResources (deploymentPod left)) (firstResources (deploymentPod right))

/-- Ports, selector, type and owners of two services agree. -/
def sameService (left right : Service) : Bool :=
  let leftSpec : ServiceSpec := left.content.getD {}
  let rightSpec : ServiceSpec := right.content.getD {}
  sameList leftSpec.ports rightSpec.ports &&
    leftSpec.selector.getD Dictionary.empty == rightSpec.selector.getD Dictionary.empty &&
    sameOwners left.metadata right.metadata && leftSpec.type == rightSpec.type

/-- Pods, history limits and owners of two cron jobs agree. -/
def sameCronJob (left right : CronJob) : Bool :=
  let leftSpec : CronJobSpec := left.content.getD {}
  let rightSpec : CronJobSpec := right.content.getD {}
  let leftPod := leftSpec.pod?.getD {}
  let rightPod := rightSpec.pod?.getD {}
  leftPod.containers.length == rightPod.containers.length &&
    serviceAccount leftPod == serviceAccount rightPod &&
    sameList leftPod.tolerations rightPod.tolerations &&
    leftPod.nodeName == rightPod.nodeName && leftPod.affinity == rightPod.affinity &&
    sameFirstContainer leftPod rightPod && sameVolumes leftPod.volumes rightPod.volumes &&
    leftSpec.successfulJobsHistoryLimit == rightSpec.successfulJobsHistoryLimit &&
    leftSpec.failedJobsHistoryLimit == rightSpec.failedJobsHistoryLimit &&
    sameOwners left.metadata right.metadata

/-- The schedule of a cron job, empty if there is none. -/
def scheduleOf (cronJob : CronJob) : String :=
  (cronJob.content.map CronJobSpec.schedule).getD ""

/-- The parts of two node scans that the operator manages agree, the schedule and the scanner's
resources among them. -/
def sameNodeScan (left right : CronJob) : Bool :=
  sameCronJob left right && scheduleOf left == scheduleOf right &&
    sameResources (firstResources (left.content.bind CronJobSpec.pod?))
      (firstResources (right.content.bind CronJobSpec.pod?))

/-- Data and owners of two config maps agree. -/
def sameConfigMap (left right : ConfigMap) : Bool :=
  left.content.data.getD Dictionary.empty == right.content.data.getD Dictionary.empty &&
    sameOwners left.metadata right.metadata

/-- The webhooks of a registration without the certificates that they are trusted by. -/
def untrusted (registration : WebhookConfiguration) : List Webhook :=
  (registration.content.getD []).map fun webhook => { webhook with caBundle := none }

/-- Webhooks and labels of two registrations agree, but for the certificates. -/
def sameRegistration (left right : WebhookConfiguration) : Bool :=
  untrusted left == untrusted right && left.metadata.labels == right.metadata.labels

end ClusterAudit.Managed
