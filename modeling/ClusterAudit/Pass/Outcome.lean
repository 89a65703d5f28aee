import ClusterAudit.Owner
import ClusterAudit.Pass.Basic
import ClusterAudit.Schedule

/-!
What a feature works with in a pass, and how it ends.
-/

namespace ClusterAudit

/-- How a feature ended: whether it changed the cluster, and the condition that it reports. -/
structure Outcome where
  progress : Progress
  condition : Option ConditionUpdate := none
deriving DecidableEq, Repr

namespace Outcome

/-- All is in place. -/
def settled (condition : ConditionUpdate) : Outcome where
  progress := .done
  condition := some condition

/-- The cluster was changed, and there is nothing to report yet. -/
def changed : Outcome where
  progress := .requeue

/-- The end of a feature that may have changed the cluster. -/
def ofChange (isMutation : Bool) (condition : Option ConditionUpdate) : Outcome where
  progress := if isMutation then .requeue else .done
  condition

end Outcome

/-- What a pass has read before the features run, with the time and a fresh token. -/
structure PassContext where
  config : AuditConfig
  owner : Owner
  policy : OperatorPolicy
  now : Instant
  token : String

namespace PassContext

def spec (context : PassContext) : AuditConfigSpec :=
  context.config.content

def namespaceName (context : PassContext) : String :=
  context.owner.namespaceName

def name (context : PassContext) : String :=
  context.owner.name

/-- The place of an object of the configuration's namespace. -/
def key (context : PassContext) (name : String) : Key where
  namespaceName := context.namespaceName
  name

/-- The selector of the objects of one feature. -/
def selector (context : PassContext) (component : Component) : String :=
  Selector.ofLabels (Labels.ofComponent context.name component)

/-- The conditions that the configuration's status has. -/
def conditions (context : PassContext) : List Condition :=
  (context.config.status.getD {}).conditions

/-- The condition of a feature that is switched off, if the feature has ever reported. -/
def disabled (context : PassContext) (type : ConditionType) (reason message : String) :
    Option ConditionUpdate :=
  if (Condition.find? context.conditions type).isSome then
    some (ConditionUpdate.ofDegraded type false reason message)
  else none

end PassContext

end ClusterAudit
