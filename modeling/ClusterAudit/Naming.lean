import ClusterAudit.Digest.Uuid

/-!
Names of the objects that the operator manages. Each is a function of the names of the
configuration and, for node scans, of the node, so that every pass finds what earlier ones made.
-/

namespace ClusterAudit.Naming

/-- The workload scanner's inventory. -/
def workloadConfigMap (config : String) : String := config ++ "-deploy"

/-- The workload scanner. -/
def workloadDeployment (config : String) : String := config ++ "-workload"

/-- The workload scanner under the name that earlier releases gave it. -/
def legacyWorkloadDeployment (config : String) : String := config

/-- The node scanners' inventory. -/
def nodeConfigMap (config : String) : String := config ++ "-node"

/-- The admission webhook's server. -/
def webhookDeployment (config : String) : String := config ++ "-webhook-manager"

/-- The service in front of the webhook's server. -/
def webhookService (config : String) : String := config ++ "-webhook-service"

/-- The certificate of the webhook's server, which others provide. -/
def webhookCertSecret (config : String) : String := config ++ "-webhook-server-cert"

/-- The cluster-wide registration of the webhook. -/
def webhookConfiguration (namespaceName config : String) : String :=
  namespaceName ++ "-" ++ config ++ "-audit"

/-- The scan API's token. -/
def scanApiSecret (config : String) : String := config ++ "-scan-api-token"

/-- The scan API's server and its service. -/
def scanApi (config : String) : String := config ++ "-scan-api"

/-! ## Node scans -/

/-- The largest number of bytes in the name of a node scan, which leaves room for the suffix of its
jobs. -/
def nodeScanMost : Nat := 52

/-- The first characters of a text that make up the given number of bytes. There are none if the
cut falls inside a character. -/
def takeBytes? : (bytes : Nat) → List Char → Option (List Char)
  | 0, _ => some []
  | _ + 1, [] => none
  | bytes + 1, character :: rest =>
      if character.utf8Size ≤ bytes + 1 then
        (takeBytes? (bytes + 1 - character.utf8Size) rest).map (character :: ·)
      else none
termination_by bytes => bytes
decreasing_by
  have := character.utf8Size_pos
  omega

/-- A text without the dashes and points at its end. -/
def withoutSeparatorsAtEnd (text : List Char) : List Char :=
  (text.reverse.dropWhile fun character => character == '-' || character == '.').reverse

/-- The name of a node scan. One that is too long is cut and made unique by a digest of the whole;
it has no name if the cut falls inside a character. -/
def nodeCronJob? (config node : String) : Option String :=
  let full := config ++ "-node-" ++ node
  if full.utf8ByteSize ≤ nodeScanMost then some full
  else
    (takeBytes? (nodeScanMost - 9) full.toList).map fun kept =>
      String.ofList (withoutSeparatorsAtEnd kept ++ '-' :: (Digest.nameDigits full).take 8)

end ClusterAudit.Naming
