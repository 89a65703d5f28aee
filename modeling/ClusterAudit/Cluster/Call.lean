import ClusterAudit.Error
import ClusterAudit.Object.Basic

/-!
Calls to the cluster, and what each call gives back.
-/

namespace ClusterAudit

/-- The place of an object among those of its kind. The namespace is empty for kinds that belong to
the whole cluster. -/
structure Key where
  namespaceName : String
  name : String
deriving DecidableEq, Repr

namespace Key

instance : Ord Key where
  compare := compareLex (compareOn Key.namespaceName) (compareOn Key.name)

instance : Std.TransOrd Key :=
  inferInstanceAs
    (Std.TransCmp (compareLex (compareOn Key.namespaceName) (compareOn Key.name)))

/-- The place of an object of the whole cluster. -/
def ofCluster (name : String) : Key :=
  { namespaceName := "", name }

end Key

/-- The kinds of calls. -/
inductive Verb where
  | get
  | list
  | create
  | replace
  | delete
  | patchStatus
deriving DecidableEq, Repr

namespace Verb

def name : Verb → String
  | get => "Get"
  | list => "List"
  | create => "Create"
  | replace => "Replace"
  | delete => "Delete"
  | patchStatus => "PatchStatus"

def ofName? (name : String) : Option Verb :=
  [get, list, create, replace, delete, patchStatus].find? fun verb => verb.name == name

end Verb

/-- A call to the cluster. -/
inductive Call where
  | get (kind : Kind) (key : Key)
  | list (kind : Kind) (namespaceName selector : String)
  | create (kind : Kind) (namespaceName : String) (object : Object kind)
  | replace (kind : Kind) (key : Key) (object : Object kind)
  | delete (kind : Kind) (key : Key)
  | patchStatus (kind : Kind) (key : Key) (status : Json)

namespace Call

/-- What a call gives back if it does not fail. -/
abbrev Reply : Call → Type
  | get kind _ => Option (Object kind)
  | list kind _ _ => List (Object kind)
  | create kind _ _ => Object kind
  | replace kind _ _ => Object kind
  | delete _ _ => Unit
  | patchStatus _ _ _ => Unit

/-- The document of a reply: the object, if there is one, or the objects. Calls that give back
nothing have said all by not failing. -/
def replyJson : (call : Call) → call.Reply → Json
  | get _ _, object => Json.ofMembers [("object", (object.map Object.toJson).getD .null)]
  | list _ _ _, objects => Json.ofMembers [("items", .arr (objects.map Object.toJson))]
  | create _ _ _, object => Json.ofMembers [("object", object.toJson)]
  | replace _ _ _, object => Json.ofMembers [("object", object.toJson)]
  | delete _ _, _ => Json.ofMembers [("ok", .bool true)]
  | patchStatus _ _ _, _ => Json.ofMembers [("ok", .bool true)]

end Call

end ClusterAudit
