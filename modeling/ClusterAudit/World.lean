import ClusterAudit.Cluster.Store
import ClusterAudit.Image.Catalog
import ClusterAudit.Metrics
import ClusterAudit.Pass.Reconcile
import ClusterAudit.Settings

/-!
The operator at work: passes are run one after the other against a cluster in memory, a catalog of
images and a set of counters.
-/

namespace ClusterAudit

/-- How a pass ended. -/
inductive Ending (Result : Type) where
  | done (result : Result)
  | failed (error : ReconcileError)
  | crashed
deriving Repr

/-- The cluster, the catalog, the counters, and the name of the operator policy that is read. -/
structure World where
  store : Store := Store.empty
  catalog : ImageCatalog := {}
  metrics : Metrics := {}
  policyName : String := Settings.defaultOperatorConfigName

namespace World

/-- Runs a pass. -/
def run {Result : Type} (world : World) : Pass Result → Ending Result × World
  | .done result => (.done result, world)
  | .fail error => (.failed error, world)
  | .crash => (.crashed, world)
  | .call call next =>
      let (reply, store) := world.store.answer call
      { world with store }.run (next reply)
  | .image request next =>
      let (reply, catalog) := world.catalog.resolve request
      { world with catalog }.run (next reply)
  | .note feature next =>
      { world with metrics := world.metrics.recordMutation feature.name }.run next

/-- A fresh identifier, and the world that has given it. -/
def freshIdentifier (world : World) : String × World :=
  let (token, store) := world.store.freshIdentifier
  (token, { world with store })

/-- The counter of a pass's result. -/
def resultName : Ending Progress → Option String
  | .done .done => some "converged"
  | .done .requeue => some "requeue"
  | .failed _ => some "error"
  | .crashed => none

/-- Counts a pass by how it ended. -/
def recordEnding (world : World) (ending : Ending Progress) : World :=
  match resultName ending with
  | some result => { world with metrics := world.metrics.recordReconcile result }
  | none => world

/-- Runs one pass over a configuration. -/
def reconcile (world : World) (key : Key) (now : Instant) : Ending Progress × World :=
  let (token, world) := world.freshIdentifier
  let (ending, world) := world.run (Pass.reconcile world.policyName key now token)
  (ending, world.recordEnding ending)

end World

/-! ## Reports -/

/-- What a pass did: how it ended, which calls changed the cluster, and which images it asked for,
both with the oldest first. -/
structure PassReport where
  ending : Ending Progress
  calls : List LogEntry
  images : List String
deriving Repr

namespace PassReport

/-- What happened between two states of the world. -/
def between (before after : World) (ending : Ending Progress) : PassReport where
  ending
  calls := after.store.log.drop before.store.log.length
  images := after.catalog.asked.reverse.drop before.catalog.asked.length

/-- The pass wants another one to follow. -/
def wantsMore (report : PassReport) : Bool :=
  match report.ending with
  | .done .requeue => true
  | _ => false

end PassReport

namespace World

/-- Runs passes over a configuration, a given number at most, until one wants no other to
follow. -/
def reconcileRepeatedly (key : Key) (now : Instant) : Nat → World → List PassReport × World
  | 0, world => ([], world)
  | passes + 1, world =>
      let (ending, after) := world.reconcile key now
      let report := PassReport.between world after ending
      if report.wantsMore then
        let (reports, last) := reconcileRepeatedly key now passes after
        (report :: reports, last)
      else ([report], after)

end World

end ClusterAudit
