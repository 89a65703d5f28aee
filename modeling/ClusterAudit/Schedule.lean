import ClusterAudit.Backoff
import ClusterAudit.Error
import ClusterAudit.Settings

/-!
When the next pass for an object runs: soon after a pass that changed something, later after one
that found all in place, and after a growing delay while passes fail.
-/

namespace ClusterAudit

/-- How a pass that did not fail ended. -/
inductive Progress where
  | done
  | requeue
deriving DecidableEq, Repr

namespace Progress

def name : Progress → String
  | done => "Done"
  | requeue => "Requeue"

def ofName? (name : String) : Option Progress :=
  [done, requeue].find? fun progress => progress.name == name

end Progress

namespace Schedule

/-- The delay, in seconds, after a pass that did not fail. -/
def afterSuccess (settings : Settings) : Progress → Nat
  | .done => settings.resyncInterval
  | .requeue => settings.requeueInterval

/-- The delay after a failed pass. A conflict only means that another writer was there first; it is
retried at once and counts as no failure of the key. -/
def afterFailure (settings : Settings) (tracker : BackoffTracker) (key : String)
    (error : ReconcileError) : Nat × BackoffTracker :=
  if error.isConflict then (settings.requeueInterval, tracker) else tracker.next key

/-- How long a pass runs, in milliseconds, or that it never ends. -/
inductive Duration where
  | takes (milliseconds : Nat)
  | endless
deriving DecidableEq, Repr

/-- The result of a pass that is given up at a deadline. A pass that ends at once has a result even
under a deadline of zero. -/
def withDeadline {Result : Type} (deadline : Nat) (duration : Duration)
    (result : Except ReconcileError Result) : Except ReconcileError Result :=
  match duration with
  | .endless => .error (.timeout (deadline / 1000))
  | .takes milliseconds =>
      if milliseconds = 0 ∨ milliseconds < deadline then result
      else .error (.timeout (deadline / 1000))

end Schedule

end ClusterAudit
