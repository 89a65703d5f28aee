import ClusterAudit.Condition.Document
import ClusterAudit.Labels
import ClusterAudit.Schema.Metadata

/-!
Metadata of objects: their names, versions, labels and owners.
-/

namespace ClusterAudit

open Json

/-! ## Owners -/

/-- A reference from an object to one that owns it. -/
structure OwnerReference where
  apiVersion : String
  kind : String
  name : String
  uid : String
  controller : Option Bool := none
  blockOwnerDeletion : Option Bool := none
deriving DecidableEq, Repr

namespace OwnerReference

def ofJson? (json : Json) : Option OwnerReference := do
  let parts := member? (← json.asMembers?)
  return {
    apiVersion := ← required asString? parts "apiVersion"
    kind := ← required asString? parts "kind"
    name := ← required asString? parts "name"
    uid := ← required asString? parts "uid"
    controller := ← optional asBool? parts "controller"
    blockOwnerDeletion := ← optional asBool? parts "blockOwnerDeletion" }

def toJson (reference : OwnerReference) : Json :=
  record [
    ("apiVersion", some (str reference.apiVersion)),
    ("kind", some (str reference.kind)),
    ("name", some (str reference.name)),
    ("uid", some (str reference.uid)),
    ("controller", reference.controller.map bool),
    ("blockOwnerDeletion", reference.blockOwnerDeletion.map bool)] []

end OwnerReference

/-! ## Metadata -/

/-- The metadata of an object. Members that the operator does not look at stay as they are. -/
structure Metadata where
  name : Option String := none
  generateName : Option String := none
  namespaceName : Option String := none
  uid : Option String := none
  resourceVersion : Option String := none
  labels : Option Texts := none
  annotations : Option Texts := none
  owners : Option (List OwnerReference) := none
  finalizers : Option (List String) := none
  deletionTimestamp : Option Instant := none
  rest : Members := []
deriving DecidableEq, Repr

namespace Metadata

/-- The name of an object, or the start of the name that it asks for. -/
def displayName (metadata : Metadata) : String :=
  (metadata.name.or metadata.generateName).getD ""

/-- The object is owned by the one with a given uid. -/
def isOwnedBy (metadata : Metadata) (uid : String) : Bool :=
  (metadata.owners.getD []).any fun owner => owner.uid == uid

def partNames : List String :=
  ["name", "generateName", "namespace", "uid", "resourceVersion", "labels", "annotations",
    "ownerReferences", "finalizers", "deletionTimestamp"]

/-- The metadata of a document in normal form. -/
def ofJson? (json : Json) : Option Metadata := do
  let members ← json.asMembers?
  let parts := member? members
  return {
    name := ← optional asString? parts "name"
    generateName := ← optional asString? parts "generateName"
    namespaceName := ← optional asString? parts "namespace"
    uid := ← optional asString? parts "uid"
    resourceVersion := ← optional asString? parts "resourceVersion"
    labels := ← optional asTexts? parts "labels"
    annotations := ← optional asTexts? parts "annotations"
    owners := ← optional (asListOf? OwnerReference.ofJson?) parts "ownerReferences"
    finalizers := ← optional asStrings? parts "finalizers"
    deletionTimestamp := ← optional Instant.ofJson? parts "deletionTimestamp"
    rest := without partNames members }

def toJson (metadata : Metadata) : Json :=
  record [
    ("name", metadata.name.map str),
    ("generateName", metadata.generateName.map str),
    ("namespace", metadata.namespaceName.map str),
    ("uid", metadata.uid.map str),
    ("resourceVersion", metadata.resourceVersion.map str),
    ("labels", metadata.labels.map ofTexts),
    ("annotations", metadata.annotations.map ofTexts),
    ("ownerReferences", metadata.owners.map fun owners => arr (owners.map OwnerReference.toJson)),
    ("finalizers", metadata.finalizers.map ofStrings),
    ("deletionTimestamp", metadata.deletionTimestamp.map fun time => str time.toText)]
    metadata.rest

/-- Metadata with its instants cut to whole seconds. -/
def inSeconds (metadata : Metadata) : Metadata :=
  { metadata with
    deletionTimestamp := metadata.deletionTimestamp.map Instant.inSeconds
    rest := Schema.metadata.membersInSeconds metadata.rest }

end Metadata

end ClusterAudit
