import ClusterAudit.Json.Outline
import ClusterAudit.Schema.Basic

/-!
The outlines of the cluster's types. Their records take members again and again.
-/

namespace ClusterAudit.Schema

/-- The value may stand at a member: it fits the type, or it is null and something stands for it. -/
def admits (isRequired : Bool) (schema : Schema) (json : Json) : Bool :=
  (json == .null && (standIn? isRequired schema).isSome) || (schema.normalize? json).isSome

mutual

/-- Which parts of a draft a type looks at. -/
def outline : Schema → Outline
  | list item => .list item.outline
  | table value => .table value.outline fun json => (value.normalize? json).isSome
  | record members => .loose (memberOutlines members)
  | _ => .whole

/-- The outlines of the members of a record, and what may stand there. -/
def memberOutlines :
    List (String × Bool × Schema) → List (String × Outline × (Json → Bool))
  | [] => []
  | (name, isRequired, schema) :: rest =>
      (name, schema.outline, schema.admits isRequired) :: memberOutlines rest

end

end ClusterAudit.Schema
