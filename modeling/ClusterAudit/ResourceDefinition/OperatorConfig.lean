import ClusterAudit.ResourceDefinition.Basic

/-!
The definition of operator policies.
-/

namespace ClusterAudit.ResourceDefinition

/-- A rule of the policy that is off unless it is asked for. -/
def ruleProperty (name description : String) : Property :=
  ({ name, description, default := some (.bool false) }, .boolean)

def operatorConfig : ResourceDefinition where
  kind := .operatorConfig
  spec := .record [
    ruleProperty "skipContainerResolution"
      ("Trust image tags as-is instead of resolving them to digests.\n" ++
        "Needed for locally built images that were never pushed."),
    ruleProperty "disableLegacyWorkloadCleanup"
      ("Stop looking for Deployments left behind by releases that named the\n" ++
        "workload scanner after the AuditConfig itself.")]

end ClusterAudit.ResourceDefinition
