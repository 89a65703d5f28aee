import ClusterAudit.AuditConfig.Spec
import ClusterAudit.Condition.Document

/-!
Audit configurations and the operator policy as JSON. A record may also be read from an array of its
parts in order. Parts with a default may be missing but not null; optional parts may be either.
-/

namespace ClusterAudit

open Json

/-- A text that is written only if there is any. -/
def textUnlessEmpty (text : String) : Option Json :=
  if text = "" then none else some (str text)

namespace SecretReference

def ofJson? (json : Json) : Option SecretReference := do
  let parts ← partsOf? ["name"] json
  return { name := ← required asString? parts "name" }

def toJson (reference : SecretReference) : Json :=
  record [("name", some (str reference.name))] []

end SecretReference

namespace ImageSpec

def ofJson? (json : Json) : Option ImageSpec := do
  let parts ← partsOf? ["name", "tag"] json
  return {
    name := ← defaulted asString? "" parts "name"
    tag := ← defaulted asString? "" parts "tag" }

def toJson (image : ImageSpec) : Json :=
  record [("name", textUnlessEmpty image.name), ("tag", textUnlessEmpty image.tag)] []

end ImageSpec

namespace ResourceSpec

def ofJson? (json : Json) : Option ResourceSpec := do
  let parts ← partsOf? ["limits", "requests"] json
  return {
    limits := ← defaulted asTexts? Dictionary.empty parts "limits"
    requests := ← defaulted asTexts? Dictionary.empty parts "requests" }

/-- A table that is written only if it has entries. -/
def tableUnlessEmpty (table : Texts) : Option Json :=
  if table.isEmpty then none else some (ofTexts table)

/-- The resources, if any are set. -/
def toJson? (resources : ResourceSpec) : Option Json :=
  if resources.isEmpty then none
  else
    some (record [("limits", tableUnlessEmpty resources.limits),
      ("requests", tableUnlessEmpty resources.requests)] [])

end ResourceSpec

namespace WorkloadsSpec

def ofJson? (json : Json) : Option WorkloadsSpec := do
  let parts ← partsOf? ["enable", "image", "resources", "serviceAccountName"] json
  return {
    enable := ← defaulted asBool? false parts "enable"
    image := ← defaulted ImageSpec.ofJson? {} parts "image"
    resources := ← defaulted ResourceSpec.ofJson? {} parts "resources"
    serviceAccountName := ← optional asString? parts "serviceAccountName" }

def toJson (workloads : WorkloadsSpec) : Json :=
  record [
    ("enable", some (bool workloads.enable)),
    ("image", some workloads.image.toJson),
    ("resources", workloads.resources.toJson?),
    ("serviceAccountName", workloads.serviceAccountName.map str)] []

end WorkloadsSpec

namespace NodesSpec

def ofJson? (json : Json) : Option NodesSpec := do
  let parts ← partsOf? ["enable", "image", "resources", "schedule"] json
  return {
    enable := ← defaulted asBool? false parts "enable"
    image := ← defaulted ImageSpec.ofJson? {} parts "image"
    resources := ← defaulted ResourceSpec.ofJson? {} parts "resources"
    schedule := ← optional asString? parts "schedule" }

def toJson (nodes : NodesSpec) : Json :=
  record [
    ("enable", some (bool nodes.enable)),
    ("image", some nodes.image.toJson),
    ("resources", nodes.resources.toJson?),
    ("schedule", nodes.schedule.map str)] []

end NodesSpec

namespace AdmissionMode

def ofJson? (json : Json) : Option AdmissionMode :=
  json.variantName?.bind ofName?

end AdmissionMode

namespace AdmissionSpec

def ofJson? (json : Json) : Option AdmissionSpec := do
  let parts ← partsOf? ["enable", "image", "mode", "replicas"] json
  return {
    enable := ← defaulted asBool? false parts "enable"
    image := ← defaulted ImageSpec.ofJson? {} parts "image"
    mode := ← defaulted AdmissionMode.ofJson? .permissive parts "mode"
    replicas := ← optional asInt32? parts "replicas" }

def toJson (admission : AdmissionSpec) : Json :=
  record [
    ("enable", some (bool admission.enable)),
    ("image", some admission.image.toJson),
    ("mode", some (str admission.mode.name)),
    ("replicas", admission.replicas.map int)] []

end AdmissionSpec

namespace ScanApiSpec

def ofJson? (json : Json) : Option ScanApiSpec := do
  let parts ← partsOf? ["enable", "image", "resources"] json
  return {
    enable := ← defaulted asBool? false parts "enable"
    image := ← defaulted ImageSpec.ofJson? {} parts "image"
    resources := ← defaulted ResourceSpec.ofJson? {} parts "resources" }

def toJson (scanApi : ScanApiSpec) : Json :=
  record [
    ("enable", some (bool scanApi.enable)),
    ("image", some scanApi.image.toJson),
    ("resources", scanApi.resources.toJson?)] []

end ScanApiSpec

namespace AuditConfigSpec

def ofJson? (json : Json) : Option AuditConfigSpec := do
  let parts ←
    partsOf? ["credentialsSecretRef", "workloads", "nodes", "admission", "scanApi"] json
  return {
    credentialsSecretRef := ← optional SecretReference.ofJson? parts "credentialsSecretRef"
    workloads := ← defaulted WorkloadsSpec.ofJson? {} parts "workloads"
    nodes := ← defaulted NodesSpec.ofJson? {} parts "nodes"
    admission := ← defaulted AdmissionSpec.ofJson? {} parts "admission"
    scanApi := ← defaulted ScanApiSpec.ofJson? {} parts "scanApi" }

def toJson (spec : AuditConfigSpec) : Json :=
  record [
    ("credentialsSecretRef", spec.credentialsSecretRef.map SecretReference.toJson),
    ("workloads", some spec.workloads.toJson),
    ("nodes", some spec.nodes.toJson),
    ("admission", some spec.admission.toJson),
    ("scanApi", some spec.scanApi.toJson)] []

end AuditConfigSpec

namespace AuditConfigStatus

def ofJson? (json : Json) : Option AuditConfigStatus := do
  let parts ← partsOf? ["conditions", "pods"] json
  return {
    conditions := ← defaulted (asListOf? Condition.ofJson?) [] parts "conditions"
    pods := ← defaulted asStrings? [] parts "pods" }

def toJson (status : AuditConfigStatus) : Json :=
  record [
    ("conditions", some (arr (status.conditions.map Condition.toJson))),
    ("pods", some (ofStrings status.pods))] []

end AuditConfigStatus

namespace OperatorPolicy

def ofJson? (json : Json) : Option OperatorPolicy := do
  let parts ← partsOf? ["skipContainerResolution", "disableLegacyWorkloadCleanup"] json
  return {
    skipContainerResolution := ← defaulted asBool? false parts "skipContainerResolution"
    disableLegacyWorkloadCleanup :=
      ← defaulted asBool? false parts "disableLegacyWorkloadCleanup" }

def toJson (policy : OperatorPolicy) : Json :=
  record [
    ("skipContainerResolution", some (bool policy.skipContainerResolution)),
    ("disableLegacyWorkloadCleanup", some (bool policy.disableLegacyWorkloadCleanup))] []

end OperatorPolicy

end ClusterAudit
