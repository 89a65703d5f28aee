import ClusterAudit.Error
import ClusterAudit.Object.Basic

/-!
The identity of the audit configuration that a pass is for. It is stamped onto every object that the
configuration owns.
-/

namespace ClusterAudit

/-- The name and namespace of a configuration, and the reference by which its objects name it. -/
structure Owner where
  name : String
  namespaceName : String
  reference : OwnerReference
deriving DecidableEq, Repr

namespace Owner

/-- The reference to a configuration, which needs its name and uid. -/
def referenceTo? (metadata : Metadata) : Option OwnerReference := do
  return {
    apiVersion := Kind.auditConfig.apiVersion
    kind := Kind.auditConfig.name
    name := ← metadata.name
    uid := ← metadata.uid
    controller := some true }

/-- The identity of a configuration. It must have a namespace, a name and a uid. -/
def of (config : AuditConfig) : Except Misconfiguration Owner :=
  let name := config.displayName
  match config.metadata.namespaceName with
  | none => .error (.noNamespace name)
  | some namespaceName =>
      match referenceTo? config.metadata with
      | none => .error (.noUid namespaceName name)
      | some reference => .ok { name, namespaceName, reference }

/-- The metadata of an object of the configuration's namespace. -/
def childMetadata (owner : Owner) (name : String) (component : Component) : Metadata where
  name := some name
  namespaceName := some owner.namespaceName
  labels := some (Labels.ofComponent owner.name component)
  owners := some [owner.reference]

end Owner

end ClusterAudit
