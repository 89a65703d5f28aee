import ClusterAudit.AuditConfig.Document
import ClusterAudit.ResourceDefinition.Basic

/-!
The definition of audit configurations.
-/

namespace ClusterAudit.ResourceDefinition

/-! ## Parts -/

/-- The switch of a feature. -/
def switchProperty (description : String) : Property :=
  ({ name := "enable", description, default := some (.bool false) }, .boolean)

/-- An image, whose parts fall back to defaults. -/
def imageProperty (description : String) : Property :=
  ({ name := "image", description, default := some (ImageSpec.toJson {}) }, .record [
    ({ name := "name", description := "Repository, e.g. \x60ghcr.io/microscaler/audit-scanner\x60" },
      .text),
    ({ name := "tag", description := "Tag, e.g. \x601.4.0\x60" }, .text)])

/-- The resources of a container. -/
def resourcesProperty (description : String) : Property :=
  ({ name := "resources", description }, .record [
    ({ name := "limits"
       description := "Upper bounds, keyed by resource name (\x60cpu\x60, \x60memory\x60)" },
      .table .text),
    ({ name := "requests", description := "Guaranteed amounts, keyed by resource name" },
      .table .text)])

/-- A value that may be missing. -/
def nullableProperty (name description : String) (shape : Shape) : Property :=
  ({ name, description, isNullable := true }, shape)

/-- A value that must be there. -/
def requiredProperty (name description : String) (shape : Shape) : Property :=
  ({ name, description, isRequired := true }, shape)

/-! ## Features -/

def credentialsProperty : Property :=
  nullableProperty "credentialsSecretRef"
    "Secret holding the scanner credentials under the \x60config\x60 key"
    (.record [requiredProperty "name" "Name of the Secret" .text])

def workloadsProperty : Property :=
  ({ name := "workloads"
     description := "Cluster workload scanning (single Deployment)"
     default := some (WorkloadsSpec.toJson {}) }, .record [
    switchProperty "Deploy the workload scanner",
    imageProperty "Scanner image override",
    resourcesProperty "Scanner container resources",
    nullableProperty "serviceAccountName"
      ("Service account the scanner runs as (defaults to " ++
        "\x60audit-operator-k8s-resources-scanning\x60)") .text])

def nodesProperty : Property :=
  ({ name := "nodes"
     description := "Per-node filesystem scanning (one CronJob per node)"
     default := some (NodesSpec.toJson {}) }, .record [
    switchProperty "Create one scan CronJob per cluster node",
    imageProperty "Scanner image override",
    resourcesProperty "Scanner container resources",
    nullableProperty "schedule" "Cron schedule of the node scans" .text])

def admissionProperty : Property :=
  ({ name := "admission"
     description := "Validating admission webhook"
     default := some (AdmissionSpec.toJson {}) }, .record [
    switchProperty "Register the validating webhook",
    imageProperty "Webhook image override (defaults to the operator image)",
    ({ name := "mode"
       description := "Whether rejected reviews block admission"
       default := some (.str AdmissionMode.permissive.name) },
      .oneOf [AdmissionMode.permissive.name, AdmissionMode.enforcing.name]),
    nullableProperty "replicas" "Webhook replica count" .integer])

def scanApiProperty : Property :=
  ({ name := "scanApi"
     description := "In-cluster scan API service"
     default := some (ScanApiSpec.toJson {}) }, .record [
    switchProperty "Deploy the scan API service",
    imageProperty "Scan API image override",
    resourcesProperty "Scan API container resources"])

/-! ## Status -/

/-- One condition of a status. -/
def conditionShape : Shape :=
  .record [
    requiredProperty "lastTransitionTime" "Last time \x60status\x60 changed" .instant,
    requiredProperty "lastUpdateTime" "Last time any field of this condition changed" .instant,
    ({ name := "message", description := "Human-readable detail", default := some (.str "") },
      .text),
    ({ name := "reason", description := "Machine-readable CamelCase reason"
       default := some (.str "") }, .text),
    requiredProperty "status" "True, False or Unknown"
      (.oneOf (ConditionStatus.all.map ConditionStatus.name)),
    requiredProperty "type" "Condition type (unique within a status)"
      (.oneOf (ConditionType.all.map ConditionType.name))]

def statusProperty : Property :=
  nullableProperty "status" "Observed state, written exclusively by the controller."
    (.record [
      ({ name := "conditions"
         description := "One entry per condition type, in insertion order"
         default := some (.arr []) }, .list (some "A single typed status entry.") conditionShape),
      ({ name := "pods"
         description := "Names of the workload scanner pods, sorted"
         default := some (.arr []) }, .list none .text)])

/-! ## Definition -/

def auditConfig : ResourceDefinition where
  kind := .auditConfig
  shortNames := ["auditcfg"]
  columns := [{ name := "Age", type := "date", path := ".metadata.creationTimestamp" }]
  spec := .record
    [credentialsProperty, workloadsProperty, nodesProperty, admissionProperty, scanApiProperty]
  status := some statusProperty

end ClusterAudit.ResourceDefinition
