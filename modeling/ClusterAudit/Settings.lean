import ClusterAudit.Error
import ClusterAudit.SocketAddress
import ClusterAudit.Text.Blank

/-!
Settings of the process, read once from its environment. A variable that is blank counts as unset.
-/

namespace ClusterAudit

/-- The form of log lines. -/
inductive LogFormat where
  | text
  | json
deriving DecidableEq, Repr

/-- The settings of the process; durations are in seconds. -/
structure Settings where
  namespaceName : Option String
  operatorConfigName : String
  concurrency : Nat
  requeueInterval : Nat
  resyncInterval : Nat
  reconcileTimeout : Nat
  probeAddress : SocketAddress
  logFormat : LogFormat
deriving DecidableEq, Repr

namespace Settings

open Text

/-- The name of the policy object that is read when no other is set. -/
def defaultOperatorConfigName : String := "audit-operator-config"

/-- The settings when no variable is set. -/
def standard : Settings where
  namespaceName := none
  operatorConfigName := defaultOperatorConfigName
  concurrency := 4
  requeueInterval := 1
  resyncInterval := 600
  reconcileTimeout := 120
  probeAddress := .v4 [0, 0, 0, 0] 8081
  logFormat := .text

/-- The trimmed value of a variable that is set and not blank. -/
def value? (environment : String → Option String) (name : String) : Option String :=
  ((environment name).map trim).filter (· ≠ "")

/-- A whole number up to `most`, or the default when the variable is not set. -/
def number (environment : String → Option String) (name : String) (most default : Nat) :
    Except Misconfiguration Nat :=
  match value? environment name with
  | none => .ok default
  | some text =>
      match unsignedUpTo? most text.toList with
      | some value => .ok value
      | none => .error (.notANumber name text)

/-- A number of seconds. -/
def seconds (environment : String → Option String) (name : String) (default : Nat) :
    Except Misconfiguration Nat :=
  number environment name (Nat.pow 2 64 - 1) default

/-- The number of passes that may run at once. -/
def readConcurrency (environment : String → Option String) : Except Misconfiguration Nat := do
  let concurrency ← number environment "RECONCILE_CONCURRENCY" 65535 standard.concurrency
  if concurrency = 0 then .error .noWorkers else .ok concurrency

def readProbeAddress (environment : String → Option String) :
    Except Misconfiguration SocketAddress :=
  match value? environment "PROBE_BIND_ADDRESS" with
  | none => .ok standard.probeAddress
  | some text =>
      match SocketAddress.parse? text with
      | some address => .ok address
      | none => .error (.notAnAddress text)

def readLogFormat (environment : String → Option String) : Except Misconfiguration LogFormat :=
  match value? environment "LOG_FORMAT" with
  | none => .ok .text
  | some "text" => .ok .text
  | some "json" => .ok .json
  | some other => .error (.unknownLogFormat other)

/-- Reads the settings; the first wrong variable, in the order in which they are read here, is the
error. -/
def read (environment : String → Option String) : Except Misconfiguration Settings := do
  let concurrency ← readConcurrency environment
  let probeAddress ← readProbeAddress environment
  let logFormat ← readLogFormat environment
  let requeueInterval ← seconds environment "REQUEUE_INTERVAL_SECS" standard.requeueInterval
  let resyncInterval ← seconds environment "RESYNC_INTERVAL_SECS" standard.resyncInterval
  let reconcileTimeout ← seconds environment "RECONCILE_TIMEOUT_SECS" standard.reconcileTimeout
  return {
    namespaceName := value? environment "WATCH_NAMESPACE"
    operatorConfigName :=
      (value? environment "OPERATOR_CONFIG_NAME").getD standard.operatorConfigName
    concurrency, requeueInterval, resyncInterval, reconcileTimeout, probeAddress, logFormat }

end Settings

end ClusterAudit
