import ClusterAudit.Kind
import ClusterAudit.ResourceDefinition.Shape
import ClusterAudit.Yaml.Document

/-!
Definitions of the operator's own kinds of objects, as a cluster takes them in.
-/

namespace ClusterAudit

/-- A column that the cluster's tools show for objects of a kind. -/
structure PrinterColumn where
  name : String
  type : String
  path : String
deriving DecidableEq, Repr

namespace PrinterColumn

def toJson (column : PrinterColumn) : Json :=
  Json.ofMembers [("name", .str column.name), ("type", .str column.type),
    ("jsonPath", .str column.path)]

end PrinterColumn

/-- The definition of a kind: its short names and columns, the shape of what a user writes, and that
of what is reported, if anything is. -/
structure ResourceDefinition where
  kind : Kind
  shortNames : List String := []
  columns : List PrinterColumn := []
  spec : Shape
  status : Option Property := none
deriving Repr

namespace ResourceDefinition

/-- The group of the operator's own kinds. -/
def groupName : String := "audit.microscaler.io"

/-- The version in which they are served. -/
def versionName : String := "v1alpha1"

/-- The shape of a whole object. Of its parts only what a user writes must be there. -/
def schemaJson (definition : ResourceDefinition) : Json :=
  let spec := Json.ofMembers definition.spec.members
  let status := Shape.propertyMembers definition.status.toList
  Json.ofMembers [
    ("description", .str ("Auto-generated derived type for " ++ definition.kind.name ++
      "Spec via \x60CustomResource\x60")),
    ("properties", Json.ofMembers (("spec", spec) :: status)),
    ("required", Json.ofStrings ["spec"]),
    ("title", .str definition.kind.name),
    ("type", .str "object")]

/-- The names of the kind. -/
def namesJson (definition : ResourceDefinition) : Json :=
  Json.ofMembers [
    ("categories", .arr []),
    ("kind", .str definition.kind.name),
    ("plural", .str definition.kind.plural),
    ("shortNames", Json.ofStrings definition.shortNames),
    ("singular", .str definition.kind.name.toLower)]

/-- The one version of the kind. What is reported is written on its own. -/
def versionJson (definition : ResourceDefinition) : Json :=
  let subresources := definition.status.map fun property => (property.1.name, Json.obj [])
  Json.ofMembers [
    ("additionalPrinterColumns", .arr (definition.columns.map PrinterColumn.toJson)),
    ("name", .str versionName),
    ("schema", Json.ofMembers [("openAPIV3Schema", definition.schemaJson)]),
    ("served", .bool true),
    ("storage", .bool true),
    ("subresources", Json.ofMembers subresources.toList)]

def toJson (definition : ResourceDefinition) : Json :=
  Json.ofMembers [
    ("apiVersion", .str "apiextensions.k8s.io/v1"),
    ("kind", .str "CustomResourceDefinition"),
    ("metadata", Json.ofMembers [
      ("name", .str (definition.kind.plural ++ "." ++ groupName))]),
    ("spec", Json.ofMembers [
      ("group", .str groupName),
      ("names", definition.namesJson),
      ("scope", .str (if definition.kind.isNamespaced then "Namespaced" else "Cluster")),
      ("versions", .arr [definition.versionJson])])]

/-- The manifest of a definition. -/
def toText (definition : ResourceDefinition) : String :=
  (Yaml.ofJson definition.toJson).toText

end ResourceDefinition

end ClusterAudit
