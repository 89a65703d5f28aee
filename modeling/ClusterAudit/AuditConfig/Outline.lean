import ClusterAudit.AuditConfig.Document
import ClusterAudit.Schema.Outline

/-!
The outlines of audit configurations and of the operator policy. All their records are strict.
-/

namespace ClusterAudit

namespace ImageSpec

def outline : Outline := .plain ["name", "tag"]

end ImageSpec

namespace ResourceSpec

def outline : Outline :=
  .strict [("limits", Schema.textTable.outline), ("requests", Schema.textTable.outline)]

end ResourceSpec

namespace AuditConfigSpec

/-- The outline of a feature that runs in a container, with one further part at most. -/
def featureOutline (further : List String) : Outline :=
  .strict ([("enable", .whole), ("image", ImageSpec.outline),
    ("resources", ResourceSpec.outline)] ++ further.map fun name => (name, .whole))

def admissionOutline : Outline :=
  .strict [("enable", .whole), ("image", ImageSpec.outline), ("mode", .choice),
    ("replicas", .whole)]

def outline : Outline :=
  .strict [("credentialsSecretRef", .plain ["name"]),
    ("workloads", featureOutline ["serviceAccountName"]),
    ("nodes", featureOutline ["schedule"]),
    ("admission", admissionOutline),
    ("scanApi", featureOutline [])]

end AuditConfigSpec

namespace Condition

def outline : Outline :=
  .strict (partNames.map fun name =>
    (name, if name = "type" ∨ name = "status" then .choice else .whole))

end Condition

namespace AuditConfigStatus

def outline : Outline :=
  .strict [("conditions", .list Condition.outline), ("pods", .whole)]

end AuditConfigStatus

namespace OperatorPolicy

def outline : Outline :=
  .plain ["skipContainerResolution", "disableLegacyWorkloadCleanup"]

end OperatorPolicy

end ClusterAudit
