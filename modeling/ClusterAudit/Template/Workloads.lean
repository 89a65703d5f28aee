import ClusterAudit.Template.Scanner

/-!
The workload scanner: a config map with its inventory and one deployment.
-/

namespace ClusterAudit.Template.Workloads

open Json

/-- The service account of the scanner if the configuration names none. -/
def defaultServiceAccount : String := "audit-operator-k8s-resources-scanning"

/-- The annotation of the pods that says when they were last made to restart. -/
def restartedAtKey : String := "kubectl.kubernetes.io/restartedAt"

/-- The annotation of the pods that says which inventory they were started with. -/
def revisionKey : String := "audit.microscaler.io/inventory-revision"

def configMap (owner : Owner) (inventory : String) : ConfigMap :=
  inventoryConfigMap (owner.childMetadata (Naming.workloadConfigMap owner.name) .workloads)
    inventory

def serviceAccount (spec : WorkloadsSpec) : String :=
  (spec.serviceAccountName.filter fun name => name ≠ "").getD defaultServiceAccount

def container (spec : WorkloadsSpec) (image : String) : Container where
  name := "audit-scanner"
  image := some image
  command := some ["audit-scanner"]
  args := some ["serve", "--config", configPath, "--inventory-file", inventoryPath]
  env := some scannerEnvironment
  volumeMounts := some scannerMounts
  resources := some (resources spec.resources)
  readinessProbe := some (ofMembers [
    ("exec", ofMembers [("command",
      ofStrings ["audit-scanner", "status", "--config", configPath])]),
    ("initialDelaySeconds", int 10),
    ("periodSeconds", int 300),
    ("timeoutSeconds", int 5)])

/-- The deployment of the scanner with a resolved image. Its pods carry the revision of the
inventory. -/
def deployment (config : AuditConfigSpec) (owner : Owner) (image inventory : String) :
    Deployment where
  metadata := owner.childMetadata (Naming.workloadDeployment owner.name) .workloads
  content := some {
    replicas := some 1
    selector := selecting (Labels.ofComponent owner.name .workloads)
    template := {
      metadata := some {
        labels := some (Labels.ofComponent owner.name .workloads)
        annotations := some
          (Dictionary.ofList [(revisionKey, Inventory.revision inventory)]) }
      spec := some {
        containers := [container config.workloads image]
        volumes := some [hostVolume,
          configVolume (Naming.workloadConfigMap owner.name) config.credentials]
        serviceAccountName := some (serviceAccount config.workloads)
        tolerations := some [ofMembers [("effect", str "NoSchedule"),
          ("key", str "node-role.kubernetes.io/master")]] } } }

/-- An annotation of the pods of a deployment. -/
def annotation? (deployment : Deployment) (key : String) : Option String :=
  deployment.content.bind fun spec => spec.template.annotation? key

/-- The revision of the inventory that the pods of a deployment were started with. -/
def podRevision? (deployment : Deployment) : Option String :=
  annotation? deployment revisionKey

/-- Annotates the pods of a deployment. -/
def annotate (deployment : Deployment) (key value : String) : Deployment :=
  let spec := deployment.content.getD {}
  { deployment with content := some { spec with template := spec.template.annotate key value } }

end ClusterAudit.Template.Workloads
