import ClusterAudit.Text.Decimal

/-!
What can go wrong: in a call to the cluster, in resolving an image, in the configuration of the
process, and in a reconcile pass. Each error keeps its cause, and one function gives its text.
-/

namespace ClusterAudit

open Text

/-! ## Cluster calls -/

/-- Why a call to the cluster failed. -/
inductive ClusterError where
  | notFound (what : String)
  | alreadyExists (what : String)
  | conflict (what : String)
  | api (code : Nat) (reason : String)
  | unfit
  | transport
deriving DecidableEq, Repr

namespace ClusterError

def name : ClusterError → String
  | notFound _ => "NotFound"
  | alreadyExists _ => "AlreadyExists"
  | conflict _ => "Conflict"
  | api _ _ => "Api"
  | unfit => "Serialization"
  | transport => "Kube"

/-- The error that a status of the API server stands for. -/
def ofStatus (code : Nat) (reason message : String) : ClusterError :=
  if code = 404 then notFound message
  else if code = 409 then
    if reason = "AlreadyExists" then alreadyExists message else conflict message
  else api code message

/-- The text of an error; that of an object that does not fit its type, or of a broken connection,
is not fixed. -/
def message? : ClusterError → Option String
  | notFound what => some ("Not found: " ++ what)
  | alreadyExists what => some ("Already exists: " ++ what)
  | conflict what => some ("Conflict: " ++ what)
  | api code reason => some ("Kubernetes API error (" ++ ofNat code ++ "): " ++ reason)
  | unfit => none
  | transport => none

def isNotFound : ClusterError → Bool
  | notFound _ => true
  | _ => false

def isAlreadyExists : ClusterError → Bool
  | alreadyExists _ => true
  | _ => false

def isConflict : ClusterError → Bool
  | conflict _ => true
  | _ => false

end ClusterError

/-! ## Image resolution -/

/-- Why an image could not be resolved. -/
inductive ImageError where
  | http
  | invalidReference (reference : String)
  | authentication (reason : String)
  | registry (status : Nat) (reference : String)
  | missingDigest (reference : String)
deriving DecidableEq, Repr

namespace ImageError

def name : ImageError → String
  | http => "Http"
  | invalidReference _ => "InvalidReference"
  | authentication _ => "Authentication"
  | registry _ _ => "Registry"
  | missingDigest _ => "MissingDigest"

/-- The text of an error; that of a failed exchange with a registry is not fixed. -/
def message? : ImageError → Option String
  | http => none
  | invalidReference reference => some ("Invalid image reference: " ++ reference)
  | authentication reason => some ("Registry authentication failed: " ++ reason)
  | registry status reference =>
      some ("Registry error (" ++ ofNat status ++ "): " ++ reference)
  | missingDigest reference => some ("Registry returned no digest for " ++ reference)

end ImageError

/-! ## Configuration -/

/-- What is wrong with the settings of the process or with the object being reconciled. -/
inductive Misconfiguration where
  | notANumber (variableName value : String)
  | noWorkers
  | notAnAddress (value : String)
  | unknownLogFormat (value : String)
  | noNamespace (name : String)
  | noUid (namespaceName name : String)
  | other (reason : String)
deriving DecidableEq, Repr

namespace Misconfiguration

def message : Misconfiguration → String
  | notANumber variableName value =>
      variableName ++ " must be a non-negative integer, got '" ++ value ++ "'"
  | noWorkers => "RECONCILE_CONCURRENCY must be at least 1"
  | notAnAddress value =>
      "PROBE_BIND_ADDRESS '" ++ value ++
        "' is not a socket address: invalid socket address syntax"
  | unknownLogFormat value => "LOG_FORMAT must be 'text' or 'json', got '" ++ value ++ "'"
  | noNamespace name => "AuditConfig " ++ name ++ " has no namespace"
  | noUid namespaceName name => "AuditConfig " ++ namespaceName ++ "/" ++ name ++ " has no uid"
  | other reason => reason

end Misconfiguration

/-! ## Passes -/

/-- Why a reconcile pass failed. -/
inductive ReconcileError where
  | cluster (cause : ClusterError)
  | image (cause : ImageError)
  | misconfigured (cause : Misconfiguration)
  | serialization (reason : String)
  | timeout (seconds : Nat)
  | metrics (reason : String)
  | io (reason : String)
deriving DecidableEq, Repr

namespace ReconcileError

/-- The name of an error. That of a cause in another part of the program follows the part's. -/
def name : ReconcileError → String
  | cluster cause => "Cluster." ++ cause.name
  | image cause => "Image." ++ cause.name
  | misconfigured _ => "InvalidConfig"
  | serialization _ => "Serialization"
  | timeout _ => "Timeout"
  | metrics _ => "Metrics"
  | io _ => "Io"

/-- The text of an error, if the text of its cause is fixed. -/
def message? : ReconcileError → Option String
  | cluster cause => cause.message?.map ("Cluster API error: " ++ ·)
  | image cause => cause.message?.map ("Image resolution failed: " ++ ·)
  | misconfigured cause => some ("Invalid configuration: " ++ cause.message)
  | serialization reason => some ("Serialization error: " ++ reason)
  | timeout seconds => some ("Reconciliation timed out after " ++ ofNat seconds ++ "s")
  | metrics reason => some ("Metrics error: " ++ reason)
  | io reason => some ("I/O error: " ++ reason)

/-- Another writer was there first. -/
def isConflict : ReconcileError → Bool
  | cluster cause => cause.isConflict
  | _ => false

end ReconcileError

end ClusterAudit
