import ClusterAudit.Object.Pod
import ClusterAudit.Schema.Workload

/-!
Workloads: deployments, which keep pods running, and cron jobs, which start them on a schedule.
-/

namespace ClusterAudit

open Json

/-! ## Selectors -/

/-- A requirement on the label with a given key. -/
structure LabelRequirement where
  key : String
  operator : String
  values : Option (List String) := none
deriving DecidableEq, Repr

namespace LabelRequirement

def ofJson? (json : Json) : Option LabelRequirement := do
  let parts := member? (← json.asMembers?)
  return {
    key := ← required asString? parts "key"
    operator := ← required asString? parts "operator"
    values := ← optional asStrings? parts "values" }

def toJson (requirement : LabelRequirement) : Json :=
  record [
    ("key", some (str requirement.key)),
    ("operator", some (str requirement.operator)),
    ("values", requirement.values.map ofStrings)] []

end LabelRequirement

/-- The labels that the pods of a workload carry. -/
structure LabelSelector where
  matchLabels : Option Texts := none
  matchExpressions : Option (List LabelRequirement) := none
deriving DecidableEq, Repr

namespace LabelSelector

def ofJson? (json : Json) : Option LabelSelector := do
  let parts := member? (← json.asMembers?)
  return {
    matchLabels := ← optional asTexts? parts "matchLabels"
    matchExpressions := ← optional (asListOf? LabelRequirement.ofJson?) parts "matchExpressions" }

def toJson (selector : LabelSelector) : Json :=
  record [
    ("matchLabels", selector.matchLabels.map ofTexts),
    ("matchExpressions", selector.matchExpressions.map fun requirements =>
      arr (requirements.map LabelRequirement.toJson))] []

end LabelSelector

/-! ## Deployments -/

/-- The pods that a deployment keeps running. -/
structure DeploymentSpec where
  replicas : Option Int := none
  selector : LabelSelector := {}
  template : PodTemplate := {}
  rest : Members := []
deriving DecidableEq, Repr

namespace DeploymentSpec

def partNames : List String := ["replicas", "selector", "template"]

def ofJson? (json : Json) : Option DeploymentSpec := do
  let members ← json.asMembers?
  let parts := member? members
  return {
    replicas := ← optional asInt? parts "replicas"
    selector := ← required LabelSelector.ofJson? parts "selector"
    template := ← required PodTemplate.ofJson? parts "template"
    rest := without partNames members }

def toJson (spec : DeploymentSpec) : Json :=
  record [
    ("replicas", spec.replicas.map int),
    ("selector", some spec.selector.toJson),
    ("template", some spec.template.toJson)] spec.rest

/-- The same deployment with its instants cut to whole seconds. -/
def inSeconds (spec : DeploymentSpec) : DeploymentSpec :=
  { spec with template := spec.template.inSeconds }

end DeploymentSpec

/-- How many pods a deployment has, and how many of them are ready. -/
structure DeploymentStatus where
  replicas : Option Int := none
  readyReplicas : Option Int := none
  rest : Members := []
deriving DecidableEq, Repr

namespace DeploymentStatus

def partNames : List String := ["replicas", "readyReplicas"]

def ofJson? (json : Json) : Option DeploymentStatus := do
  let members ← ((Schema.deploymentStatus.normalize? json).bind asMembers?)
  let parts := member? members
  return {
    replicas := ← optional asInt? parts "replicas"
    readyReplicas := ← optional asInt? parts "readyReplicas"
    rest := without partNames members }

def toJson (status : DeploymentStatus) : Json :=
  record [
    ("replicas", status.replicas.map int),
    ("readyReplicas", status.readyReplicas.map int)] status.rest

/-- A status with its instants cut to whole seconds. -/
def inSeconds (status : DeploymentStatus) : DeploymentStatus :=
  { status with rest := Schema.deploymentStatus.membersInSeconds status.rest }

/-- The number of pods. -/
def pods (status : DeploymentStatus) : Int :=
  status.replicas.getD 0

/-- The number of pods that are ready. -/
def readyPods (status : DeploymentStatus) : Int :=
  status.readyReplicas.getD 0

/-- Some of the pods are not ready. -/
def isDegraded (status : DeploymentStatus) : Bool :=
  status.pods != status.readyPods

end DeploymentStatus

/-! ## Cron jobs -/

/-- A run of pods to completion. -/
structure JobSpec where
  template : PodTemplate := {}
  rest : Members := []
deriving DecidableEq, Repr

namespace JobSpec

def ofJson? (json : Json) : Option JobSpec := do
  let members ← json.asMembers?
  return {
    template := ← required PodTemplate.ofJson? (member? members) "template"
    rest := without ["template"] members }

def toJson (spec : JobSpec) : Json :=
  record [("template", some spec.template.toJson)] spec.rest

/-- The same job with its instants cut to whole seconds. -/
def inSeconds (spec : JobSpec) : JobSpec :=
  { spec with template := spec.template.inSeconds }

end JobSpec

/-- The metadata and content of the jobs of a cron job. -/
structure JobTemplate where
  metadata : Option Metadata := none
  spec : Option JobSpec := none
deriving DecidableEq, Repr

namespace JobTemplate

def ofJson? (json : Json) : Option JobTemplate := do
  let parts := member? (← json.asMembers?)
  return {
    metadata := ← optional Metadata.ofJson? parts "metadata"
    spec := ← optional JobSpec.ofJson? parts "spec" }

def toJson (template : JobTemplate) : Json :=
  record [
    ("metadata", template.metadata.map Metadata.toJson),
    ("spec", template.spec.map JobSpec.toJson)] []

/-- A template with its instants cut to whole seconds. -/
def inSeconds (template : JobTemplate) : JobTemplate where
  metadata := template.metadata.map Metadata.inSeconds
  spec := template.spec.map JobSpec.inSeconds

end JobTemplate

/-- The jobs that a cron job starts, and when. -/
structure CronJobSpec where
  schedule : String := ""
  concurrencyPolicy : Option String := none
  successfulJobsHistoryLimit : Option Int := none
  failedJobsHistoryLimit : Option Int := none
  jobTemplate : JobTemplate := {}
  rest : Members := []
deriving DecidableEq, Repr

namespace CronJobSpec

def partNames : List String :=
  ["schedule", "concurrencyPolicy", "successfulJobsHistoryLimit", "failedJobsHistoryLimit",
    "jobTemplate"]

def ofJson? (json : Json) : Option CronJobSpec := do
  let members ← json.asMembers?
  let parts := member? members
  return {
    schedule := ← required asString? parts "schedule"
    concurrencyPolicy := ← optional asString? parts "concurrencyPolicy"
    successfulJobsHistoryLimit := ← optional asInt? parts "successfulJobsHistoryLimit"
    failedJobsHistoryLimit := ← optional asInt? parts "failedJobsHistoryLimit"
    jobTemplate := ← required JobTemplate.ofJson? parts "jobTemplate"
    rest := without partNames members }

def toJson (spec : CronJobSpec) : Json :=
  record [
    ("schedule", some (str spec.schedule)),
    ("concurrencyPolicy", spec.concurrencyPolicy.map str),
    ("successfulJobsHistoryLimit", spec.successfulJobsHistoryLimit.map int),
    ("failedJobsHistoryLimit", spec.failedJobsHistoryLimit.map int),
    ("jobTemplate", some spec.jobTemplate.toJson)] spec.rest

/-- The same cron job with its instants cut to whole seconds. -/
def inSeconds (spec : CronJobSpec) : CronJobSpec :=
  { spec with jobTemplate := spec.jobTemplate.inSeconds }

/-- The pods of the jobs. -/
def pod? (spec : CronJobSpec) : Option PodSpec := do
  (← spec.jobTemplate.spec).template.spec

end CronJobSpec

/-- When a cron job last started a job and last saw one succeed, and the jobs that are running. -/
structure CronJobStatus where
  lastScheduleTime : Option Instant := none
  lastSuccessfulTime : Option Instant := none
  active : Option (List Json) := none
deriving DecidableEq, Repr

namespace CronJobStatus

def ofJson? (json : Json) : Option CronJobStatus := do
  let parts := member? (← (Schema.cronJobStatus.normalize? json).bind asMembers?)
  return {
    lastScheduleTime := ← optional Instant.ofJson? parts "lastScheduleTime"
    lastSuccessfulTime := ← optional Instant.ofJson? parts "lastSuccessfulTime"
    active := ← optional asItems? parts "active" }

def toJson (status : CronJobStatus) : Json :=
  record [
    ("lastScheduleTime", status.lastScheduleTime.map fun time => str time.toText),
    ("lastSuccessfulTime", status.lastSuccessfulTime.map fun time => str time.toText),
    ("active", status.active.map arr)] []

/-- A status with its instants cut to whole seconds. -/
def inSeconds (status : CronJobStatus) : CronJobStatus :=
  { status with
    lastScheduleTime := status.lastScheduleTime.map Instant.inSeconds
    lastSuccessfulTime := status.lastSuccessfulTime.map Instant.inSeconds }

/-- A job has succeeded since the last one was started. -/
def hasSucceeded (status : CronJobStatus) (scheduled : Instant) : Bool :=
  status.lastSuccessfulTime.any fun succeeded => !succeeded.isBefore scheduled

/-- The last job that was started has not succeeded, and none is running. -/
def isFailing (status : CronJobStatus) : Bool :=
  match status.lastScheduleTime with
  | none => false
  | some scheduled => !status.hasSucceeded scheduled && (status.active.getD []).isEmpty

end CronJobStatus

end ClusterAudit
