import ClusterAudit.Template.Scanner

/-!
The scan API: a secret with its token, a deployment and a service.
-/

namespace ClusterAudit.Template.ScanApi

open Json

/-- The port of the scan API. -/
def port : Int := 8080

/-- The key of the token in its secret. -/
def tokenKey : String := "token"

/-- The address of the scan API within the cluster. -/
def url (owner : Owner) : String :=
  "http://" ++ Naming.scanApi owner.name ++ "." ++ owner.namespaceName ++ ".svc:" ++
    Text.ofInt port

/-- The secret with a fresh token. It is only ever created, so that a token once given stays. -/
def tokenSecret (owner : Owner) (token : String) : Secret where
  metadata := owner.childMetadata (Naming.scanApiSecret owner.name) .scanApi
  content := {
    type := some "Opaque"
    stringData := some (Dictionary.ofList [(tokenKey, token)]) }

def container (spec : ScanApiSpec) (owner : Owner) (image : String) : Container where
  name := "scan-api"
  image := some image
  command := some ["audit-scanner"]
  args := some ["serve-api", "--address", "0.0.0.0", "--port", Text.ofInt port]
  env := some [{
    name := "SCAN_API_TOKEN"
    valueFrom := some (ofMembers [("secretKeyRef", ofMembers [("key", str tokenKey),
      ("name", str (Naming.scanApiSecret owner.name))])]) }]
  resources := some (resources spec.resources)
  ports := some [containerPort "http" port]
  readinessProbe := some (ofMembers [
    ("httpGet", ofMembers [("path", str "/health/check"), ("port", int port),
      ("scheme", str "HTTP")]),
    ("initialDelaySeconds", int 10),
    ("periodSeconds", int 10)])

/-- The deployment of the scan API with a resolved image. -/
def deployment (config : AuditConfigSpec) (owner : Owner) (image : String) : Deployment where
  metadata := owner.childMetadata (Naming.scanApi owner.name) .scanApi
  content := some {
    replicas := some 1
    selector := selecting (Labels.ofComponent owner.name .scanApi)
    template := {
      metadata := some { labels := some (Labels.ofComponent owner.name .scanApi) }
      spec := some { containers := [container config.scanApi owner image] } } }

def service (owner : Owner) : Service :=
  clusterService (owner.childMetadata (Naming.scanApi owner.name) .scanApi)
    (Labels.ofComponent owner.name .scanApi) "http" port port

end ClusterAudit.Template.ScanApi
