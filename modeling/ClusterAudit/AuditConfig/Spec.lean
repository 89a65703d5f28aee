import ClusterAudit.Condition
import ClusterAudit.Labels

/-!
What a user asks for: an audit configuration switches the scanning features on and off, and the
operator policy applies to all configurations of the cluster.
-/

namespace ClusterAudit

/-! ## Parts of a configuration -/

/-- A secret in the namespace of the configuration. -/
structure SecretReference where
  name : String
deriving DecidableEq, Repr

/-- An image of a feature; an empty part falls back to the operator's default. -/
structure ImageSpec where
  name : String := ""
  tag : String := ""
deriving DecidableEq, Repr

/-- The resources of a feature's container. -/
structure ResourceSpec where
  limits : Texts := Dictionary.empty
  requests : Texts := Dictionary.empty
deriving DecidableEq, Repr

namespace ResourceSpec

/-- Neither limits nor requests are set. -/
def isEmpty (resources : ResourceSpec) : Bool :=
  resources.limits.isEmpty && resources.requests.isEmpty

end ResourceSpec

/-- The scanner of the cluster's workloads. -/
structure WorkloadsSpec where
  enable : Bool := false
  image : ImageSpec := {}
  resources : ResourceSpec := {}
  serviceAccountName : Option String := none
deriving DecidableEq, Repr

/-- The scanners of the cluster's nodes. -/
structure NodesSpec where
  enable : Bool := false
  image : ImageSpec := {}
  resources : ResourceSpec := {}
  schedule : Option String := none
deriving DecidableEq, Repr

namespace NodesSpec

/-- The start of every hour. -/
def defaultSchedule : String := "0 * * * *"

/-- The schedule in effect: a blank one counts as not set. -/
def effectiveSchedule (nodes : NodesSpec) : String :=
  (nodes.schedule.filter fun schedule => Text.trim schedule ≠ "").getD defaultSchedule

end NodesSpec

/-- Whether the webhook blocks what it rejects, or only reports it. -/
inductive AdmissionMode where
  | permissive
  | enforcing
deriving DecidableEq, Repr

namespace AdmissionMode

def name : AdmissionMode → String
  | permissive => "permissive"
  | enforcing => "enforcing"

def ofName? (name : String) : Option AdmissionMode :=
  [permissive, enforcing].find? fun mode => mode.name == name

end AdmissionMode

/-- The admission webhook. -/
structure AdmissionSpec where
  enable : Bool := false
  image : ImageSpec := {}
  mode : AdmissionMode := .permissive
  replicas : Option Int := none
deriving DecidableEq, Repr

namespace AdmissionSpec

/-- The number of replicas in effect, at least one. -/
def effectiveReplicas (admission : AdmissionSpec) : Int :=
  (admission.replicas.filter fun replicas => 0 < replicas).getD 1

end AdmissionSpec

/-- The scan API. -/
structure ScanApiSpec where
  enable : Bool := false
  image : ImageSpec := {}
  resources : ResourceSpec := {}
deriving DecidableEq, Repr

/-! ## Configurations -/

/-- What an audit configuration asks for. -/
structure AuditConfigSpec where
  credentialsSecretRef : Option SecretReference := none
  workloads : WorkloadsSpec := {}
  nodes : NodesSpec := {}
  admission : AdmissionSpec := {}
  scanApi : ScanApiSpec := {}
deriving DecidableEq, Repr

namespace AuditConfigSpec

/-- The scan API runs if it is asked for, and for the webhook, which sends it every review. -/
def scanApiEnabled (spec : AuditConfigSpec) : Bool :=
  spec.scanApi.enable || spec.admission.enable

/-- The secret with the scanners' credentials. -/
def credentials (spec : AuditConfigSpec) : Option String :=
  spec.credentialsSecretRef.map SecretReference.name

end AuditConfigSpec

/-- What the operator has seen: one condition per feature that has reported, and the names of the
workload scanner's pods. -/
structure AuditConfigStatus where
  conditions : List Condition := []
  pods : List String := []
deriving DecidableEq, Repr

/-- The policy for all configurations of the cluster. -/
structure OperatorPolicy where
  /-- Image tags are used as they are, without a look at the registry. -/
  skipContainerResolution : Bool := false
  /-- Scanners under the name of earlier releases are left alone. -/
  disableLegacyWorkloadCleanup : Bool := false
deriving DecidableEq, Repr

end ClusterAudit
