import ClusterAudit.AuditConfig.Document
import ClusterAudit.AuditConfig.Outline
import ClusterAudit.Kind
import ClusterAudit.Object.Service
import ClusterAudit.Object.Webhook
import ClusterAudit.Object.Workload
import ClusterAudit.Schema.Cluster

/-!
Objects of the cluster. The kind of an object fixes the types of its content and of its status, so
that a call about a kind gives objects of that kind.
-/

namespace ClusterAudit

open Json

namespace Kind

/-- The type of what an object of a kind asks for. Pods and nodes are only listed, so that theirs
is not looked into. -/
abbrev Content : Kind → Type
  | auditConfig => AuditConfigSpec
  | configMap => ConfigData
  | cronJob => Option CronJobSpec
  | deployment => Option DeploymentSpec
  | node => Option Json
  | operatorConfig => OperatorPolicy
  | pod => Option Json
  | secret => SecretData
  | service => Option ServiceSpec
  | webhookConfiguration => Option (List Webhook)

/-- The type of what the cluster reports on an object of a kind. Kinds without a status have no
value of it. -/
abbrev Status : Kind → Type
  | auditConfig => AuditConfigStatus
  | cronJob => CronJobStatus
  | deployment => DeploymentStatus
  | node | pod | service => Json
  | configMap | operatorConfig | secret | webhookConfiguration => Empty

end Kind

/-- An object of a kind. -/
structure Object (kind : Kind) where
  metadata : Metadata := {}
  content : kind.Content
  status : Option kind.Status := none

abbrev AuditConfig := Object .auditConfig
abbrev ConfigMap := Object .configMap
abbrev CronJob := Object .cronJob
abbrev Deployment := Object .deployment
abbrev Secret := Object .secret
abbrev Service := Object .service
abbrev WebhookConfiguration := Object .webhookConfiguration

namespace Object

/-- The name of an object, or the start of the name that it asks for. -/
def displayName {kind : Kind} (object : Object kind) : String :=
  object.metadata.displayName

end Object

/-! ## Status -/

namespace Kind

/-- Reads a status. Null counts as none, and kinds without a status ignore what stands there. -/
def readStatus? : (kind : Kind) → Json → Option (Option kind.Status)
  | auditConfig, json =>
      if json = .null then some none else (AuditConfigStatus.ofJson? json).map some
  | cronJob, json => if json = .null then some none else (CronJobStatus.ofJson? json).map some
  | deployment, json =>
      if json = .null then some none else (DeploymentStatus.ofJson? json).map some
  | node, json =>
      if json = .null then some none else (Schema.nodeStatus.normalize? json).map some
  | pod, json =>
      if json = .null then some none else (Schema.podStatus.normalize? json).map some
  | service, json =>
      if json = .null then some none else (Schema.serviceStatus.normalize? json).map some
  | configMap, _ => some none
  | operatorConfig, _ => some none
  | secret, _ => some none
  | webhookConfiguration, _ => some none

/-- A status with its instants cut to whole seconds. Those of the operator's own kind stay exact. -/
def statusInSeconds : (kind : Kind) → kind.Status → kind.Status
  | auditConfig, status => status
  | cronJob, status => CronJobStatus.inSeconds status
  | deployment, status => DeploymentStatus.inSeconds status
  | node, status => Schema.nodeStatus.inSeconds status
  | pod, status => Schema.podStatus.inSeconds status
  | service, status => Schema.serviceStatus.inSeconds status

/-- Writes a status. -/
def statusJson : (kind : Kind) → kind.Status → Json
  | auditConfig, status => AuditConfigStatus.toJson status
  | cronJob, status => CronJobStatus.toJson status
  | deployment, status => DeploymentStatus.toJson status
  | node, status => status
  | pod, status => status
  | service, status => status

/-! ## Content -/

/-- The members of an object of a kind without its status. What the operator's own kinds ask for is
not read by a schema. -/
def members : Kind → List (String × Bool × Schema)
  | configMap => metadata :: Schema.configMapMembers
  | cronJob => [metadata, spec Schema.cronJobSpec]
  | deployment => [metadata, spec Schema.deploymentSpec]
  | node => [metadata, spec Schema.nodeSpec]
  | pod => [metadata, spec Schema.podSpec]
  | secret => metadata :: Schema.secretMembers
  | service => [metadata, spec Schema.serviceSpec]
  | webhookConfiguration =>
      [metadata, Schema.optional "webhooks" (.list Schema.validatingWebhook)]
  | auditConfig | operatorConfig => [metadata, Schema.required "spec" .anything]
where
  metadata := Schema.required "metadata" Schema.metadata
  spec := Schema.optional "spec"

/-- The schema of an object of a kind without its status. -/
def schema (kind : Kind) : Schema :=
  .record kind.members

/-- Reads the content of a document in normal form. -/
def readContent? : (kind : Kind) → Members → Option kind.Content
  | auditConfig, members => required AuditConfigSpec.ofJson? (member? members) "spec"
  | configMap, members => ConfigData.ofMembers? (without ["metadata"] members)
  | cronJob, members => optional CronJobSpec.ofJson? (member? members) "spec"
  | deployment, members => optional DeploymentSpec.ofJson? (member? members) "spec"
  | node, members => some (member? members "spec")
  | operatorConfig, members => required OperatorPolicy.ofJson? (member? members) "spec"
  | pod, members => some (member? members "spec")
  | secret, members => SecretData.ofMembers? (without ["metadata"] members)
  | service, members => optional ServiceSpec.ofJson? (member? members) "spec"
  | webhookConfiguration, members =>
      optional (asListOf? Webhook.ofJson?) (member? members) "webhooks"

/-- The members of a document that hold its content. -/
def contentMembers : (kind : Kind) → kind.Content → Members
  | auditConfig, spec => [("spec", AuditConfigSpec.toJson spec)]
  | configMap, content => ConfigData.members content
  | cronJob, spec => (spec.map fun spec => ("spec", CronJobSpec.toJson spec)).toList
  | deployment, spec => (spec.map fun spec => ("spec", DeploymentSpec.toJson spec)).toList
  | node, spec => (spec.map fun spec => ("spec", spec)).toList
  | operatorConfig, policy => [("spec", OperatorPolicy.toJson policy)]
  | pod, spec => (spec.map fun spec => ("spec", spec)).toList
  | secret, content => SecretData.members content
  | service, spec => (spec.map fun spec => ("spec", ServiceSpec.toJson spec)).toList
  | webhookConfiguration, webhooks =>
      (webhooks.map fun webhooks => ("webhooks", arr (webhooks.map Webhook.toJson))).toList

/-- Content with its instants cut to whole seconds. -/
def contentInSeconds : (kind : Kind) → kind.Content → kind.Content
  | cronJob, spec => spec.map CronJobSpec.inSeconds
  | deployment, spec => spec.map DeploymentSpec.inSeconds
  | node, spec => spec.map fun spec => Schema.nodeSpec.inSeconds spec
  | pod, spec => spec.map fun spec => Schema.podSpec.inSeconds spec
  | auditConfig, spec => spec
  | configMap, content => content
  | operatorConfig, policy => policy
  | secret, content => content
  | service, spec => spec
  | webhookConfiguration, webhooks => webhooks

/-- What an object says about its own kind agrees with the kind. The operator's own kinds take any
words there. -/
def agrees (kind : Kind) (members : Members) : Bool :=
  kind == auditConfig || kind == operatorConfig ||
    ((member? members "apiVersion").all fun json => json == str kind.apiVersion) &&
      (member? members "kind").all fun json => json == str kind.name

/-- The parts that an object of a kind must have. -/
def hasNeeded (kind : Kind) (members : Members) : Bool :=
  match kind with
  | auditConfig | operatorConfig =>
      ((member? members "metadata").bind asMembers?).isSome && (member? members "spec").isSome
  | _ => true

end Kind

/-! ## Documents -/

namespace Kind

/-- The parts of an object of one of the operator's own kinds in order. -/
def partNames : Kind → List String
  | auditConfig => ["metadata", "spec", "status"]
  | operatorConfig => ["metadata", "spec"]
  | _ => []

/-- The members of a document. One of the operator's own kinds may be written as an array of all its
parts in order. -/
def sentMembers? (kind : Kind) : Json → Option Members
  | obj members => some members
  | arr (part :: parts) =>
      if parts.length + 1 = kind.partNames.length then some (kind.partNames.zip (part :: parts))
      else none
  | _ => none

/-- The members that tell the status. -/
def statusMembers : Kind → List (String × Bool × Schema)
  | cronJob => [Schema.optional "status" Schema.cronJobStatus]
  | deployment => [Schema.optional "status" Schema.deploymentStatus]
  | node => [Schema.optional "status" Schema.nodeStatus]
  | pod => [Schema.optional "status" Schema.podStatus]
  | service => [Schema.optional "status" Schema.serviceStatus]
  | _ => []

/-- Which parts of a draft an object of a kind looks at. -/
def outline : Kind → Outline
  | auditConfig =>
      .strict [("metadata", Schema.metadata.outline), ("spec", AuditConfigSpec.outline),
        ("status", AuditConfigStatus.outline)]
  | operatorConfig =>
      .strict [("metadata", Schema.metadata.outline), ("spec", OperatorPolicy.outline)]
  | kind =>
      .loose (("apiVersion", .whole, (· == str kind.apiVersion)) ::
        ("kind", .whole, (· == str kind.name)) ::
        Schema.memberOutlines (kind.members ++ kind.statusMembers))

end Kind

namespace Object

/-- Reads an object of a kind. -/
def ofJson? (kind : Kind) (json : Json) : Option (Object kind) := do
  let sent ← kind.sentMembers? json
  if kind.agrees sent && kind.hasNeeded sent then
    let members ← (kind.schema.normalize? (ofMembers sent)).bind asMembers?
    return {
      metadata := ← required Metadata.ofJson? (member? members) "metadata"
      content := ← kind.readContent? members
      status := ← kind.readStatus? ((member? sent "status").getD .null) }
  else none

/-- Reads an object of a kind from a draft. -/
def ofDraft? (kind : Kind) (draft : Draft) : Option (Object kind) :=
  kind.outline.read? (ofJson? kind) draft

/-- An object as it is stored or sent: instants are cut to whole seconds. -/
def inSeconds {kind : Kind} (object : Object kind) : Object kind where
  metadata := object.metadata.inSeconds
  content := kind.contentInSeconds object.content
  status := object.status.map kind.statusInSeconds

/-- Writes an object. -/
def toJson {kind : Kind} (object : Object kind) : Json :=
  let written := object.inSeconds
  record [
    ("apiVersion", some (str kind.apiVersion)),
    ("kind", some (str kind.name)),
    ("metadata", some written.metadata.toJson),
    ("status", written.status.map kind.statusJson)] (kind.contentMembers written.content)

end Object

end ClusterAudit
