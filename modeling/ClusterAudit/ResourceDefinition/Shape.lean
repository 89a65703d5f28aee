import ClusterAudit.Json.Basic

/-!
Shapes of values as the API server checks them, and their documents.
-/

namespace ClusterAudit

/-- What is said about a property besides its shape. -/
structure PropertyNotes where
  name : String
  description : String
  default : Option Json := none
  isNullable : Bool := false
  isRequired : Bool := false
deriving DecidableEq, Repr

/-- The values that a property takes. The items of a list and the values of a table all have one
shape; a record has named properties. -/
inductive Shape where
  | boolean
  | text
  | instant
  | integer
  | oneOf (names : List String)
  | list (description : Option String) (item : Shape)
  | table (value : Shape)
  | record (properties : List (PropertyNotes × Shape))
deriving Repr

/-- A property of a record. -/
abbrev Property := PropertyNotes × Shape

namespace PropertyNotes

/-- The members of a property's document that its shape does not give. -/
def members (notes : PropertyNotes) : Members :=
  [("description", Json.str notes.description)] ++
    (notes.default.map fun default => ("default", default)).toList ++
    if notes.isNullable then [("nullable", Json.bool true)] else []

end PropertyNotes

namespace Shape

/-- The names of the properties that must be there, in order. -/
def requiredNames (properties : List Property) : List String :=
  ((properties.filter fun property => property.1.isRequired).map fun property =>
    property.1.name).mergeSort

/-- The member that lists what must be there; it is left out if nothing must. -/
def requiredMember (properties : List Property) : Members :=
  match requiredNames properties with
  | [] => []
  | names => [("required", Json.ofStrings names)]

/-- The member that names a type. -/
def typed (name : String) : String × Json :=
  ("type", .str name)

mutual

/-- The members of the document of a shape. -/
def members : Shape → Members
  | boolean => [typed "boolean"]
  | text => [typed "string"]
  | instant => [typed "string", ("format", .str "date-time")]
  | integer => [typed "integer", ("format", .str "int32")]
  | oneOf names => [typed "string", ("enum", Json.ofStrings names)]
  | list description item =>
      [typed "array", ("items", Json.ofMembers
        ((description.map fun text => ("description", Json.str text)).toList ++ members item))]
  | table value => [typed "object", ("additionalProperties", Json.ofMembers (members value))]
  | record properties =>
      [typed "object", ("properties", Json.ofMembers (propertyMembers properties))] ++
        requiredMember properties

/-- The documents of properties under their names. -/
def propertyMembers : List Property → Members
  | [] => []
  | (notes, shape) :: rest =>
      (notes.name, Json.ofMembers (notes.members ++ members shape)) :: propertyMembers rest

end

end Shape

end ClusterAudit
