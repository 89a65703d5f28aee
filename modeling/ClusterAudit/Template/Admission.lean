import ClusterAudit.Template.ScanApi

/-!
The admission webhook: a deployment, a service and the registration with the cluster. The
certificate of the server and the bundle that it is trusted by come from elsewhere.
-/

namespace ClusterAudit.Template.Admission

open Json

/-- The port of the webhook's server. -/
def port : Int := 9443

/-- Where the server finds its certificate. -/
def certificatePath : String := "/tmp/k8s-webhook-server/serving-certs"

/-- The label of a registration that names the namespace of its configuration. -/
def namespaceKey : String := "audit.microscaler.io/namespace"

def container (spec : AdmissionSpec) (owner : Owner) (image : String) : Container where
  name := "webhook"
  image := some image
  command := some ["audit-operator"]
  args := some ["webhook", "--port=" ++ Text.ofInt port, "--cert-dir=" ++ certificatePath,
    "--mode=" ++ spec.mode.name, "--scan-api-url=" ++ ScanApi.url owner]
  env := some [{
    name := "SCAN_API_TOKEN_SECRET"
    value := some (Naming.scanApiSecret owner.name) }]
  volumeMounts := some [{ name := "cert", mountPath := certificatePath, readOnly := some true }]
  ports := some [containerPort "webhook" port]

/-- The volume with the server's certificate. -/
def certificateVolume (owner : Owner) : Volume where
  name := "cert"
  source := [("secret", ofMembers [("defaultMode", int 420),
    ("secretName", str (Naming.webhookCertSecret owner.name))])]

/-- The deployment of the webhook's server with a resolved image. -/
def deployment (config : AuditConfigSpec) (owner : Owner) (image : String) : Deployment where
  metadata := owner.childMetadata (Naming.webhookDeployment owner.name) .webhook
  content := some {
    replicas := some config.admission.effectiveReplicas
    selector := selecting (Labels.ofComponent owner.name .webhook)
    template := {
      metadata := some { labels := some (Labels.ofComponent owner.name .webhook) }
      spec := some {
        containers := [container config.admission owner image]
        volumes := some [certificateVolume owner] } } }

def service (owner : Owner) : Service :=
  clusterService (owner.childMetadata (Naming.webhookService owner.name) .webhook)
    (Labels.ofComponent owner.name .webhook) "webhook" 443 port

/-! ## Registration -/

/-- What becomes of an object when the webhook cannot be asked. -/
def failurePolicy : AdmissionMode → String
  | .permissive => "Ignore"
  | .enforcing => "Fail"

/-- The rule that sends new and changed objects of some collections to the webhook. -/
def rule (group : String) (collections : List String) : Json :=
  ofMembers [
    ("apiGroups", ofStrings [group]),
    ("apiVersions", ofStrings ["v1"]),
    ("operations", ofStrings ["CREATE", "UPDATE"]),
    ("resources", ofStrings collections),
    ("scope", str "*")]

/-- The webhook of a configuration. Objects of its own namespace are not sent to it, so that it
never stands in its own way. -/
def webhook (config : AuditConfigSpec) (owner : Owner) : Webhook where
  name := "policy." ++ owner.name ++ "." ++ owner.namespaceName ++ ".audit.microscaler.io"
  client := [("service", ofMembers [
    ("name", str (Naming.webhookService owner.name)),
    ("namespace", str owner.namespaceName),
    ("path", str "/validate-k8s-resources"),
    ("port", int 443)])]
  settings := [
    ("admissionReviewVersions", ofStrings ["v1"]),
    ("failurePolicy", str (failurePolicy config.admission.mode)),
    ("matchPolicy", str "Equivalent"),
    ("namespaceSelector", LabelSelector.toJson {
      matchExpressions := some [{
        key := "kubernetes.io/metadata.name"
        operator := "NotIn"
        values := some [owner.namespaceName] }] }),
    ("objectSelector", LabelSelector.toJson {}),
    ("rules", arr [
      rule "" ["pods"],
      rule "apps" ["deployments", "daemonsets", "statefulsets", "replicasets"],
      rule "batch" ["jobs", "cronjobs"]]),
    ("sideEffects", str "None"),
    ("timeoutSeconds", int 10)]

/-- The registration of a configuration's webhook. An object of a namespace cannot own it. -/
def registration (config : AuditConfigSpec) (owner : Owner) : WebhookConfiguration where
  metadata := {
    name := some (Naming.webhookConfiguration owner.namespaceName owner.name)
    labels := some ((Labels.ofConfig owner.name).insert namespaceKey owner.namespaceName) }
  content := some [webhook config owner]

end ClusterAudit.Template.Admission
