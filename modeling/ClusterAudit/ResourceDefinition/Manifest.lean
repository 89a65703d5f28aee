import ClusterAudit.ResourceDefinition.AuditConfig
import ClusterAudit.ResourceDefinition.OperatorConfig

/-!
The manifest of all definitions, to be applied to a cluster before the operator starts.
-/

namespace ClusterAudit.ResourceDefinition

/-- The definition of one of the operator's own kinds. -/
def ofKind? : Kind → Option ResourceDefinition
  | .auditConfig => some auditConfig
  | .operatorConfig => some operatorConfig
  | _ => none

/-- All definitions in one stream of documents. -/
def manifest : String :=
  auditConfig.toText ++ "---\n" ++ operatorConfig.toText

end ClusterAudit.ResourceDefinition
