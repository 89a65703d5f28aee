import ClusterAudit.Json.Record

/-!
Containers: the image, its command, what is mounted into it and the resources that it may use.
-/

namespace ClusterAudit

open Json

/-! ## Environment and mounts -/

/-- A variable of a container's environment, given by its value or by where the value is found. -/
structure EnvVar where
  name : String
  value : Option String := none
  valueFrom : Option Json := none
deriving DecidableEq, Repr

namespace EnvVar

def ofJson? (json : Json) : Option EnvVar := do
  let parts := member? (← json.asMembers?)
  return {
    name := ← required asString? parts "name"
    value := ← optional asString? parts "value"
    valueFrom := parts "valueFrom" }

def toJson (entry : EnvVar) : Json :=
  record [
    ("name", some (str entry.name)),
    ("value", entry.value.map str),
    ("valueFrom", entry.valueFrom)] []

end EnvVar

/-- A place in a container's file system where a volume appears. -/
structure VolumeMount where
  name : String
  mountPath : String
  readOnly : Option Bool := none
  rest : Members := []
deriving DecidableEq, Repr

namespace VolumeMount

def partNames : List String := ["name", "mountPath", "readOnly"]

def ofJson? (json : Json) : Option VolumeMount := do
  let members ← json.asMembers?
  let parts := member? members
  return {
    name := ← required asString? parts "name"
    mountPath := ← required asString? parts "mountPath"
    readOnly := ← optional asBool? parts "readOnly"
    rest := without partNames members }

def toJson (mount : VolumeMount) : Json :=
  record [
    ("name", some (str mount.name)),
    ("mountPath", some (str mount.mountPath)),
    ("readOnly", mount.readOnly.map bool)] mount.rest

end VolumeMount

/-! ## Resources -/

/-- The least and the most that a container may use of each resource. -/
structure ResourceRequirements where
  limits : Option (Dictionary String String) := none
  requests : Option (Dictionary String String) := none
  rest : Members := []
deriving DecidableEq, Repr

namespace ResourceRequirements

def partNames : List String := ["limits", "requests"]

def ofJson? (json : Json) : Option ResourceRequirements := do
  let members ← json.asMembers?
  let parts := member? members
  return {
    limits := ← optional asTexts? parts "limits"
    requests := ← optional asTexts? parts "requests"
    rest := without partNames members }

def toJson (resources : ResourceRequirements) : Json :=
  record [
    ("limits", resources.limits.map ofTexts),
    ("requests", resources.requests.map ofTexts)] resources.rest

end ResourceRequirements

/-! ## Containers -/

/-- A container of a pod. -/
structure Container where
  name : String
  image : Option String := none
  command : Option (List String) := none
  args : Option (List String) := none
  env : Option (List EnvVar) := none
  volumeMounts : Option (List VolumeMount) := none
  resources : Option ResourceRequirements := none
  ports : Option (List Json) := none
  readinessProbe : Option Json := none
  rest : Members := []
deriving DecidableEq, Repr

namespace Container

def partNames : List String :=
  ["name", "image", "command", "args", "env", "volumeMounts", "resources", "ports",
    "readinessProbe"]

def ofJson? (json : Json) : Option Container := do
  let members ← json.asMembers?
  let parts := member? members
  return {
    name := ← required asString? parts "name"
    image := ← optional asString? parts "image"
    command := ← optional asStrings? parts "command"
    args := ← optional asStrings? parts "args"
    env := ← optional (asListOf? EnvVar.ofJson?) parts "env"
    volumeMounts := ← optional (asListOf? VolumeMount.ofJson?) parts "volumeMounts"
    resources := ← optional ResourceRequirements.ofJson? parts "resources"
    ports := ← optional asItems? parts "ports"
    readinessProbe := parts "readinessProbe"
    rest := without partNames members }

def toJson (container : Container) : Json :=
  record [
    ("name", some (str container.name)),
    ("image", container.image.map str),
    ("command", container.command.map ofStrings),
    ("args", container.args.map ofStrings),
    ("env", container.env.map fun env => arr (env.map EnvVar.toJson)),
    ("volumeMounts", container.volumeMounts.map fun mounts => arr (mounts.map VolumeMount.toJson)),
    ("resources", container.resources.map ResourceRequirements.toJson),
    ("ports", container.ports.map arr),
    ("readinessProbe", container.readinessProbe)] container.rest

end Container

end ClusterAudit
