import ClusterAudit.Pass.Basic

/-!
Steps that bring one object to what is wanted of it. Each reads the live object first, so that a
step that is repeated changes nothing.
-/

namespace ClusterAudit

/-- What a step did to an object. -/
inductive Change where
  | created
  | updated
  | unchanged
deriving DecidableEq, Repr

namespace Change

def name : Change → String
  | created => "Created"
  | updated => "Updated"
  | unchanged => "Unchanged"

/-- The step changed the cluster. -/
def isMutation (change : Change) : Bool :=
  change != unchanged

end Change

/-- An object that a step has created, or found. -/
inductive Applied (kind : Kind) where
  | created (object : Object kind)
  | existing (object : Object kind)

namespace Pass

variable {kind : Kind}

/-- Creates an object unless there is one of its name. -/
def createIfAbsent (namespaceName : String) (desired : Object kind) : Pass (Applied kind) := do
  match ← get kind { namespaceName, name := desired.displayName } with
  | some live => return .existing live
  | none => return .created (← create kind namespaceName desired)

/-- Creates an object without a look, and says whether it did. One of its name may exist. -/
def createTolerant (namespaceName : String) (object : Object kind) : Pass Bool := do
  match ← attempt (.create kind namespaceName object) with
  | .ok _ => return true
  | .error error => if error.isAlreadyExists then return false else fail (.cluster error)

/-- Deletes an object if there is one, and says whether it did. -/
def deleteIfPresent (kind : Kind) (key : Key) : Pass Bool := do
  match ← attempt (.delete kind key) with
  | .ok _ => return true
  | .error error => if error.isNotFound then return false else fail (.cluster error)

/-- Replaces an object of a namespace by one that was made from it. -/
def update (namespaceName : String) (object : Object kind) : Pass (Object kind) :=
  replace kind { namespaceName, name := object.displayName } object

/-- Brings an object of a namespace to what is wanted: creates it, leaves it if the two agree, or
merges what is wanted into it. -/
def ensure (namespaceName : String) (desired : Object kind)
    (same : Object kind → Object kind → Bool)
    (merge : Object kind → Object kind → Object kind) : Pass Change := do
  match ← createIfAbsent namespaceName desired with
  | .created _ => return .created
  | .existing live =>
      if same live desired then return .unchanged
      else
        let _ ← update namespaceName (merge live desired)
        return .updated

/-- Brings an object of the whole cluster to what is wanted. -/
def ensureCluster (desired : Object kind) (same : Object kind → Object kind → Bool)
    (merge : Object kind → Object kind → Object kind) : Pass Change := do
  match ← get kind (Key.ofCluster desired.displayName) with
  | none =>
      let _ ← create kind "" desired
      return .created
  | some live =>
      if same live desired then return .unchanged
      else
        let _ ← replace kind (Key.ofCluster desired.displayName) (merge live desired)
        return .updated

end Pass

end ClusterAudit
