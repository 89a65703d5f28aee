import ClusterAudit.Digest.Uuid
import ClusterAudit.Owner
import ClusterAudit.Yaml.Document

/-!
Inventories tell a scanner what to look at. A revision identifies the text of an inventory.
-/

namespace ClusterAudit

/-- What a scanner connects to, and what it looks for there. -/
structure Connection where
  type : String
  host : Option String := none
  discover : Option (List String) := none
deriving DecidableEq, Repr

/-- An inventory of one asset. -/
structure Inventory where
  name : String
  labels : Texts
  assetId : String
  assetName : String
  connection : Connection
deriving DecidableEq, Repr

namespace Inventory

/-- The inventory of one asset of a configuration. -/
def ofAsset (owner : Owner) (assetId : String) (connection : Connection) : Inventory where
  name := owner.name ++ "-inventory"
  labels := Labels.ofConfig owner.name
  assetId
  assetName := owner.namespaceName ++ "/" ++ assetId
  connection

/-- Everything that the cluster's API server knows of. -/
def ofWorkloads (owner : Owner) : Inventory :=
  ofAsset owner "api-server" { type := "k8s", discover := some ["auto"] }

/-- The file system of a node. -/
def ofNodes (owner : Owner) : Inventory :=
  ofAsset owner "host" { type := "fs", host := some "/mnt/host" }

/-! ## Text -/

def connectionYaml (connection : Connection) : Yaml :=
  .table ([("type", Yaml.text connection.type)] ++
    (connection.host.map fun host => ("host", Yaml.text host)).toList ++
    (connection.discover.map fun targets =>
      ("discover", Yaml.table [("targets", Yaml.list (targets.map Yaml.text))])).toList)

def toYaml (inventory : Inventory) : Yaml :=
  .table [
    ("apiVersion", .text "v1"),
    ("kind", .text "Inventory"),
    ("metadata", .table [
      ("name", .text inventory.name),
      ("labels", .table (inventory.labels.entries.map fun entry => (entry.1, .text entry.2)))]),
    ("spec", .table [("assets", .list [.table [
      ("id", .text inventory.assetId),
      ("name", .text inventory.assetName),
      ("connections", .list [connectionYaml inventory.connection])]])])]

def toText (inventory : Inventory) : String :=
  inventory.toYaml.toText

/-- A short identifier of the text of an inventory. -/
def revision (text : String) : String :=
  String.ofList (Digest.nameDigits text)

end Inventory

end ClusterAudit
