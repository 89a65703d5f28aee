import ClusterAudit.Template.Scanner

/-!
The node scanners: a config map with their inventory, and one cron job for each node.
-/

namespace ClusterAudit.Template.Nodes

open Json

def configMap (owner : Owner) (inventory : String) : ConfigMap :=
  inventoryConfigMap (owner.childMetadata (Naming.nodeConfigMap owner.name) .nodes) inventory

def container (spec : NodesSpec) (image : String) : Container where
  name := "audit-node-scanner"
  image := some image
  command := some ["audit-scanner"]
  args := some ["scan", "local", "--config", configPath, "--inventory-file", inventoryPath,
    "--score-threshold", "0"]
  env := some scannerEnvironment
  volumeMounts := some scannerMounts
  resources := some (resources spec.resources)

/-- The metadata of the jobs and of their pods. -/
def podMetadata (owner : Owner) : Metadata where
  labels := some (Labels.ofComponent owner.name .nodes)

/-- The cron job that scans one node, if the node's name gives it a name. -/
def cronJob? (config : AuditConfigSpec) (owner : Owner) (image node : String) : Option CronJob :=
  (Naming.nodeCronJob? owner.name node).map fun name =>
    { metadata := owner.childMetadata name .nodes
      content := some {
        schedule := config.nodes.effectiveSchedule
        concurrencyPolicy := some "Forbid"
        successfulJobsHistoryLimit := some 1
        failedJobsHistoryLimit := some 1
        jobTemplate := {
          metadata := some (podMetadata owner)
          spec := some { template := {
            metadata := some (podMetadata owner)
            spec := some {
              containers := [container config.nodes image]
              volumes := some [hostVolume,
                configVolume (Naming.nodeConfigMap owner.name) config.credentials]
              nodeName := some node
              tolerations := some [ofMembers [("operator", str "Exists")]]
              restartPolicy := some "OnFailure" } } } } } }

/-- The node that the jobs of a cron job run on. -/
def pinnedNode? (cronJob : CronJob) : Option String := do
  (← (← cronJob.content).pod?).nodeName

/-- The last scan has not succeeded, and none is running. -/
def isFailing (cronJob : CronJob) : Bool :=
  cronJob.status.any CronJobStatus.isFailing

end ClusterAudit.Template.Nodes
