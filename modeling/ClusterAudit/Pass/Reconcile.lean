import ClusterAudit.Pass.Admission
import ClusterAudit.Pass.Nodes
import ClusterAudit.Pass.ScanApi
import ClusterAudit.Pass.Workloads

/-!
One pass over an audit configuration. The features run in order until one changes the cluster, and
the conditions that they report are written at the end. An error ends the pass, and nothing is
written.
-/

namespace ClusterAudit

namespace Feature

/-- The configuration asks for the feature. -/
def isEnabled (spec : AuditConfigSpec) : Feature → Bool
  | workloads => spec.workloads.enable
  | nodes => spec.nodes.enable
  | admission => spec.admission.enable
  | scanApi => spec.scanApiEnabled

/-- Brings the feature into place. -/
def reconcile (context : PassContext) : Feature → Pass Outcome
  | workloads => Pass.Workloads.reconcile context
  | nodes => Pass.Nodes.reconcile context
  | admission => Pass.Admission.reconcile context
  | scanApi => Pass.ScanApi.reconcile context

/-- Removes the feature. -/
def tearDown (context : PassContext) : Feature → Pass Outcome
  | workloads => Pass.Workloads.tearDown context
  | nodes => Pass.Nodes.tearDown context
  | admission => Pass.Admission.tearDown context
  | scanApi => Pass.ScanApi.tearDown context

/-- Runs the feature: brings it into place if the configuration asks for it, or removes it. -/
def run (context : PassContext) (feature : Feature) : Pass Outcome :=
  if feature.isEnabled context.spec then feature.reconcile context else feature.tearDown context

end Feature

namespace Pass

/-- Runs features in order until one changes the cluster, and collects what they report. -/
def runFeatures (context : PassContext) :
    List Feature → Pass (Progress × List ConditionUpdate)
  | [] => done (.done, [])
  | feature :: rest => do
      let outcome ← feature.run context
      match outcome.progress with
      | .requeue => note feature (done (.requeue, outcome.condition.toList))
      | .done =>
          let (progress, updates) ← runFeatures context rest
          return (progress, outcome.condition.toList ++ updates)

/-- The status after a pass: the conditions with what the features reported, and the names of the
workload scanner's pods in order. -/
def nextStatus (context : PassContext) (updates : List ConditionUpdate)
    (pods : List (Object .pod)) : AuditConfigStatus where
  conditions := Condition.applyUpdates context.conditions updates context.now
  pods := (pods.map Object.displayName).mergeSort

/-- Writes the status, if it differs from the one that was read. -/
def persistStatus (context : PassContext) (updates : List ConditionUpdate) : Pass Unit := do
  let pods ← list .pod context.namespaceName (context.selector .workloads)
  let next := nextStatus context updates pods
  if next = context.config.status.getD {} then return
  else patchStatus .auditConfig (context.key context.name) next.toJson

/-- The operator policy of a given name, or the default one. -/
def operatorPolicy (policyName : String) : Pass OperatorPolicy := do
  match ← get .operatorConfig (Key.ofCluster policyName) with
  | some policy => return policy.content
  | none => return {}

/-- Runs the features of a configuration and writes its status. -/
def reconcileFeatures (policyName : String) (config : AuditConfig) (now : Instant)
    (token : String) : Pass Progress := do
  let policy ← operatorPolicy policyName
  let owner ← configured (Owner.of config)
  let context : PassContext := { config, owner, policy, now, token }
  let (progress, updates) ← runFeatures context Feature.all
  persistStatus context updates
  return progress

/-- One pass over the configuration at a place, at a given time and with a fresh token. -/
def reconcile (policyName : String) (key : Key) (now : Instant) (token : String) :
    Pass Progress := do
  match ← get .auditConfig key with
  | none => return .done
  | some config =>
      if config.metadata.deletionTimestamp.isSome then
        Admission.finalize config
        return .done
      else reconcileFeatures policyName config now token

end Pass

end ClusterAudit
