import ClusterAudit.Json.Basic

/-!
Merging a patch into a value: the members of an object patch are merged one by one, a null member
removes a name that the value has, and any other patch replaces the value.
-/

namespace ClusterAudit.Json

mutual

/-- A value after a patch. A patch object creates a member before it is merged, so what it puts
under a new name is merged into null. -/
def mergePatch (target patch : Json) : Json :=
  match target, patch with
  | obj members, obj changes => obj (mergeMembers members changes)
  | _, patch => patch

/-- The members of an object after the members of a patch. -/
def mergeMembers (members : List (String × Json)) : List (String × Json) → List (String × Json)
  | [] => members
  | (name, value) :: rest =>
      match value with
      | null => mergeMembers (members.filter fun entry => entry.1 != name) rest
      | value =>
          mergeMembers
            (insertEntry name (mergePatch ((member? members name).getD null) value) members) rest

end

end ClusterAudit.Json
