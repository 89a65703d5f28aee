import ClusterAudit.Json.Number
import ClusterAudit.Object.Container
import ClusterAudit.Object.Metadata
import ClusterAudit.Schema.Volume

/-!
Pods, and the templates that workloads make them from.
-/

namespace ClusterAudit

open Json

/-- A volume of a pod and what it holds. -/
structure Volume where
  name : String
  source : Members
deriving DecidableEq, Repr

namespace Volume

def ofJson? (json : Json) : Option Volume := do
  let members ← json.asMembers?
  return {
    name := ← required asString? (member? members) "name"
    source := without ["name"] members }

def toJson (volume : Volume) : Json :=
  record [("name", some (str volume.name))] volume.source

/-- A volume whose zeros have no signs. -/
def plainZeros (volume : Volume) : Volume :=
  { volume with source := plainMemberZeros volume.source }

/-- A volume with its instants cut to whole seconds. -/
def inSeconds (volume : Volume) : Volume :=
  { volume with source := Schema.volume.membersInSeconds volume.source }

end Volume

/-- What a pod runs, and where. -/
structure PodSpec where
  containers : List Container := []
  volumes : Option (List Volume) := none
  serviceAccountName : Option String := none
  nodeName : Option String := none
  tolerations : Option (List Json) := none
  affinity : Option Json := none
  restartPolicy : Option String := none
  rest : Members := []
deriving DecidableEq, Repr

namespace PodSpec

def partNames : List String :=
  ["containers", "volumes", "serviceAccountName", "nodeName", "tolerations", "affinity",
    "restartPolicy"]

def ofJson? (json : Json) : Option PodSpec := do
  let members ← json.asMembers?
  let parts := member? members
  return {
    containers := ← required (asListOf? Container.ofJson?) parts "containers"
    volumes := ← optional (asListOf? Volume.ofJson?) parts "volumes"
    serviceAccountName := ← optional asString? parts "serviceAccountName"
    nodeName := ← optional asString? parts "nodeName"
    tolerations := ← optional asItems? parts "tolerations"
    affinity := parts "affinity"
    restartPolicy := ← optional asString? parts "restartPolicy"
    rest := without partNames members }

def toJson (spec : PodSpec) : Json :=
  record [
    ("containers", some (arr (spec.containers.map Container.toJson))),
    ("volumes", spec.volumes.map fun volumes => arr (volumes.map Volume.toJson)),
    ("serviceAccountName", spec.serviceAccountName.map str),
    ("nodeName", spec.nodeName.map str),
    ("tolerations", spec.tolerations.map arr),
    ("affinity", spec.affinity),
    ("restartPolicy", spec.restartPolicy.map str)] spec.rest

/-- The same pod with its instants cut to whole seconds. Only its volumes have any. -/
def inSeconds (spec : PodSpec) : PodSpec :=
  { spec with volumes := spec.volumes.map fun volumes => volumes.map Volume.inSeconds }

end PodSpec

/-- The metadata and content of the pods of a workload. -/
structure PodTemplate where
  metadata : Option Metadata := none
  spec : Option PodSpec := none
deriving DecidableEq, Repr

namespace PodTemplate

def ofJson? (json : Json) : Option PodTemplate := do
  let parts := member? (← json.asMembers?)
  return {
    metadata := ← optional Metadata.ofJson? parts "metadata"
    spec := ← optional PodSpec.ofJson? parts "spec" }

def toJson (template : PodTemplate) : Json :=
  record [
    ("metadata", template.metadata.map Metadata.toJson),
    ("spec", template.spec.map PodSpec.toJson)] []

/-- A template with its instants cut to whole seconds. -/
def inSeconds (template : PodTemplate) : PodTemplate where
  metadata := template.metadata.map Metadata.inSeconds
  spec := template.spec.map PodSpec.inSeconds

/-- An annotation of the pods. -/
def annotation? (template : PodTemplate) (key : String) : Option String := do
  (← (← template.metadata).annotations).get? key

/-- Annotates the pods. -/
def annotate (template : PodTemplate) (key value : String) : PodTemplate :=
  let metadata := template.metadata.getD {}
  { template with
    metadata := some
      { metadata with
        annotations := some ((metadata.annotations.getD Dictionary.empty).insert key value) } }

end PodTemplate

end ClusterAudit
