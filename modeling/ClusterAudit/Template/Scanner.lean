import ClusterAudit.Inventory
import ClusterAudit.Naming

/-!
What the scanners' pods have in common: their resources, the volumes mounted into them and the
variables of their environment.
-/

namespace ClusterAudit.Template

open Json

/-- The key of an inventory in its config map. -/
def inventoryKey : String := "inventory"

/-- The key of the credentials in their secret. -/
def credentialsKey : String := "config"

/-- Where a scanner finds its configuration. -/
def configPath : String := "/etc/opt/audit/config.yml"

/-- Where a scanner finds its inventory. -/
def inventoryPath : String := "/etc/opt/audit/inventory.yml"

/-! ## Resources -/

/-- The amounts that are set, or the default ones if none are. -/
def amountsOr (defaults amounts : Texts) : Texts :=
  if amounts.isEmpty then defaults else amounts

/-- The resources of a container: limits and requests each fall back to their defaults. -/
def resources (spec : ResourceSpec) : ResourceRequirements where
  limits := some
    (amountsOr (Dictionary.ofList [("cpu", "500m"), ("memory", "512Mi")]) spec.limits)
  requests := some
    (amountsOr (Dictionary.ofList [("cpu", "100m"), ("memory", "128Mi")]) spec.requests)

/-! ## Volumes -/

/-- A source of a projected volume that shows one key of an object at a path. -/
def projection (type name key path : String) : Json :=
  ofMembers [(type, ofMembers [
    ("name", str name),
    ("items", arr [ofMembers [("key", str key), ("path", str path)]])])]

/-- The volume with the inventory and, if there are any, the credentials. -/
def configVolume (configMap : String) (credentials : Option String) : Volume where
  name := "config"
  source := [("projected", ofMembers [
    ("defaultMode", int 420),
    ("sources", arr (
      projection "configMap" configMap inventoryKey "audit/inventory.yml" ::
        (credentials.map fun secret =>
          projection "secret" secret credentialsKey "audit/config.yml").toList))])]

/-- The volume with the root of the host's file system. -/
def hostVolume : Volume where
  name := "root"
  source := [("hostPath", ofMembers [("path", str "/"), ("type", str "")])]

/-- The mounts of a scanner. -/
def scannerMounts : List VolumeMount :=
  [{ name := "root", mountPath := "/mnt/host/", readOnly := some true },
    { name := "config", mountPath := "/etc/opt/", readOnly := some true }]

/-- The environment of a scanner. -/
def scannerEnvironment : List EnvVar :=
  [{ name := "DEBUG", value := some "false" }, { name := "PROCFS", value := some "on" }]

/-! ## Objects -/

/-- The config map with an inventory. -/
def inventoryConfigMap (metadata : Metadata) (inventory : String) : ConfigMap where
  metadata
  content := { data := some (Dictionary.ofList [(inventoryKey, inventory)]) }

/-- The selector of the pods that carry the given labels. -/
def selecting (labels : Texts) : LabelSelector where
  matchLabels := some labels

/-- A port that a container listens on. -/
def containerPort (name : String) (port : Int) : Json :=
  ofMembers [("containerPort", int port), ("name", str name), ("protocol", str "TCP")]

/-- A service in front of the pods of one feature, on one port. -/
def clusterService (metadata : Metadata) (labels : Texts) (portName : String)
    (port targetPort : Int) : Service where
  metadata
  content := some {
    type := some "ClusterIP"
    selector := some labels
    ports := some [ofMembers [("name", str portName), ("port", int port),
      ("protocol", str "TCP"), ("targetPort", int targetPort)]] }

end ClusterAudit.Template
