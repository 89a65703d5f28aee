/-!
The kinds of objects that the operator works with.
-/

namespace ClusterAudit

/-- A kind of object. Nodes, operator policies and webhook registrations belong to the whole
cluster, all others to a namespace. -/
inductive Kind where
  | auditConfig
  | configMap
  | cronJob
  | deployment
  | node
  | operatorConfig
  | pod
  | secret
  | service
  | webhookConfiguration
deriving DecidableEq, Repr

namespace Kind

def name : Kind → String
  | auditConfig => "AuditConfig"
  | configMap => "ConfigMap"
  | cronJob => "CronJob"
  | deployment => "Deployment"
  | node => "Node"
  | operatorConfig => "OperatorConfig"
  | pod => "Pod"
  | secret => "Secret"
  | service => "Service"
  | webhookConfiguration => "ValidatingWebhookConfiguration"

/-- All kinds in the order of their names. -/
def all : List Kind :=
  [auditConfig, configMap, cronJob, deployment, node, operatorConfig, pod, secret, service,
    webhookConfiguration]

def ofName? (name : String) : Option Kind :=
  all.find? fun kind => kind.name == name

/-- The group and version that serve a kind. -/
def apiVersion : Kind → String
  | auditConfig | operatorConfig => "audit.microscaler.io/v1alpha1"
  | cronJob => "batch/v1"
  | deployment => "apps/v1"
  | webhookConfiguration => "admissionregistration.k8s.io/v1"
  | configMap | node | pod | secret | service => "v1"

/-- The core kinds, which have no group. -/
def isCore : Kind → Bool
  | configMap | node | pod | secret | service => true
  | _ => false

/-- The name of a collection of objects of a kind. -/
def plural : Kind → String
  | auditConfig => "auditconfigs"
  | configMap => "configmaps"
  | cronJob => "cronjobs"
  | deployment => "deployments"
  | node => "nodes"
  | operatorConfig => "operatorconfigs"
  | pod => "pods"
  | secret => "secrets"
  | service => "services"
  | webhookConfiguration => "validatingwebhookconfigurations"

/-- Objects of the kind belong to a namespace. -/
def isNamespaced : Kind → Bool
  | node | operatorConfig | webhookConfiguration => false
  | _ => true

end Kind

end ClusterAudit
