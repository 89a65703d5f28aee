import ClusterAudit.Schema.Basic

/-!
The schemas of metadata, references and label selectors.
-/

namespace ClusterAudit.Schema

def ownerReference : Schema :=
  record (requireds text ["apiVersion", "kind", "name", "uid"] ++
    optionals flag ["blockOwnerDeletion", "controller"])

def managedFieldsEntry : Schema :=
  record (optionals text ["apiVersion", "fieldsType", "manager", "operation", "subresource"] ++
    [optional "fieldsV1" anything, optional "time" instant])

def metadata : Schema :=
  record (
    optionals text ["generateName", "name", "namespace", "resourceVersion", "selfLink", "uid"] ++
    optionals textTable ["annotations", "labels"] ++
    optionals instant ["creationTimestamp", "deletionTimestamp"] ++
    optionals int64 ["deletionGracePeriodSeconds", "generation"] ++
    [optional "finalizers" texts,
      optional "managedFields" (list managedFieldsEntry),
      optional "ownerReferences" (list ownerReference)])

def labelRequirement : Schema :=
  record (requireds text ["key", "operator"] ++ [optional "values" texts])

def labelSelector : Schema :=
  record [optional "matchExpressions" (list labelRequirement), optional "matchLabels" textTable]

/-- A reference to an object of the same namespace. -/
def localReference : Schema :=
  record [required "name" text]

def objectReference : Schema :=
  record (optionals text
    ["apiVersion", "fieldPath", "kind", "name", "namespace", "resourceVersion", "uid"])

/-- A condition of an object: its type and status, and when it was last seen to change. -/
def condition (instants : List String) : Schema :=
  record (requireds text ["status", "type"] ++ optionals text ["message", "reason"] ++
    optionals instant instants)

end ClusterAudit.Schema
