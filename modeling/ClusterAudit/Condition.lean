import ClusterAudit.Instant

/-!
Conditions record the health of one feature over time. A list of them holds at most one entry per
type, in the order in which the types were first set; setting one gives a new list.
-/

namespace ClusterAudit

/-- The feature that a condition reports on. -/
inductive ConditionType where
  | workloadScanningDegraded
  | nodeScanningDegraded
  | admissionDegraded
  | scanApiDegraded
deriving DecidableEq, Repr

namespace ConditionType

/-- The name of a condition type in a status. -/
def name : ConditionType → String
  | workloadScanningDegraded => "WorkloadScanningDegraded"
  | nodeScanningDegraded => "NodeScanningDegraded"
  | admissionDegraded => "AdmissionDegraded"
  | scanApiDegraded => "ScanApiDegraded"

def all : List ConditionType :=
  [workloadScanningDegraded, nodeScanningDegraded, admissionDegraded, scanApiDegraded]

def ofName? (name : String) : Option ConditionType :=
  all.find? fun type => type.name == name

end ConditionType

/-- Whether a condition holds. -/
inductive ConditionStatus where
  | holds
  | fails
  | unknown
deriving DecidableEq, Repr

namespace ConditionStatus

def name : ConditionStatus → String
  | holds => "True"
  | fails => "False"
  | unknown => "Unknown"

def all : List ConditionStatus :=
  [holds, fails, unknown]

def ofName? (name : String) : Option ConditionStatus :=
  all.find? fun status => status.name == name

def ofBool (value : Bool) : ConditionStatus :=
  if value then holds else fails

end ConditionStatus

/-- One entry of a status. -/
structure Condition where
  type : ConditionType
  status : ConditionStatus
  reason : String
  message : String
  lastUpdate : Instant
  lastTransition : Instant
deriving DecidableEq, Repr

/-- Which differences from an existing condition of the same status cause an update. -/
inductive UpdatePolicy where
  | always
  | never
  | ifReasonOrMessageChange
deriving DecidableEq, Repr

namespace UpdatePolicy

def name : UpdatePolicy → String
  | always => "Always"
  | never => "Never"
  | ifReasonOrMessageChange => "IfReasonOrMessageChange"

def ofName? (name : String) : Option UpdatePolicy :=
  [always, never, ifReasonOrMessageChange].find? fun policy => policy.name == name

end UpdatePolicy

/-- The value that a feature wants its condition to have. -/
structure ConditionUpdate where
  type : ConditionType
  status : ConditionStatus
  reason : String
  message : String
deriving DecidableEq, Repr

namespace ConditionUpdate

/-- The update that says whether a feature is degraded. -/
def ofDegraded (type : ConditionType) (degraded : Bool) (reason message : String) :
    ConditionUpdate :=
  { type, status := ConditionStatus.ofBool degraded, reason, message }

end ConditionUpdate

namespace Condition

/-- The first condition of a type. -/
def find? (conditions : List Condition) (type : ConditionType) : Option Condition :=
  conditions.find? fun condition => condition.type == type

/-- A condition that has just been set for the first time. -/
def fresh (update : ConditionUpdate) (now : Instant) : Condition :=
  { type := update.type
    status := update.status
    reason := update.reason
    message := update.message
    lastUpdate := now
    lastTransition := now }

/-- Whether an update of the same status is written to an existing condition. -/
def takesUpdate (existing : Condition) (update : ConditionUpdate) : UpdatePolicy → Bool
  | .always => true
  | .never => false
  | .ifReasonOrMessageChange =>
      existing.reason != update.reason || existing.message != update.message

/-- An existing condition after an update of its type. A change of status sets both instants; a
change of reason or message sets the update instant as the policy says. -/
def updated (existing : Condition) (update : ConditionUpdate) (policy : UpdatePolicy)
    (now : Instant) : Condition :=
  if existing.status != update.status then fresh update now
  else if existing.takesUpdate update policy then
    { existing with reason := update.reason, message := update.message, lastUpdate := now }
  else existing

/-- Sets a condition: the first entry of its type is updated, and a new type is appended. -/
def set (conditions : List Condition) (update : ConditionUpdate) (policy : UpdatePolicy)
    (now : Instant) : List Condition :=
  match conditions with
  | [] => [fresh update now]
  | condition :: rest =>
      if condition.type == update.type then condition.updated update policy now :: rest
      else condition :: set rest update policy now

/-- Sets conditions in order, each written only where its status, reason or message differs. -/
def applyUpdates (conditions : List Condition) (updates : List ConditionUpdate) (now : Instant) :
    List Condition :=
  updates.foldl (fun conditions update => set conditions update .ifReasonOrMessageChange now)
    conditions

end Condition

end ClusterAudit
