/-!
Retry delays after failures. Each delay is the sum of the two before it, up to a cap, so that a
failing cluster is not hammered while a single failure is retried soon.
-/

namespace ClusterAudit

/-- A sequence of delays in seconds: the last one given, the next one, and its bounds. -/
structure Backoff where
  least : Nat
  previous : Nat
  current : Nat
  most : Nat
deriving DecidableEq, Repr

namespace Backoff

/-- The sequence between two bounds; the lower one is at least a second and wins over the upper. -/
def between (least most : Nat) : Backoff :=
  let least := max least 1
  { least, previous := 0, current := least, most := max most least }

/-- The delay to wait now, and the sequence after it. -/
def next (backoff : Backoff) : Nat × Backoff :=
  (backoff.current,
    { backoff with
      previous := backoff.current
      current := min (backoff.previous + backoff.current) backoff.most })

/-- The sequence from its start. -/
def reset (backoff : Backoff) : Backoff :=
  { backoff with previous := 0, current := backoff.least }

end Backoff

/-- The delay sequences of the keys that have failed since their last success. -/
structure BackoffTracker where
  least : Nat
  most : Nat
  failing : List (String × Backoff)
deriving Repr

namespace BackoffTracker

def between (least most : Nat) : BackoffTracker :=
  { least, most, failing := [] }

/-- Delays from thirty seconds to ten minutes. -/
def standard : BackoffTracker :=
  between 30 600

/-- The sequence of a key, a new one if it has not failed yet. -/
def sequenceOf (tracker : BackoffTracker) (key : String) : Backoff :=
  (tracker.failing.lookup key).getD (Backoff.between tracker.least tracker.most)

/-- Forgets the failures of a key. -/
def reset (tracker : BackoffTracker) (key : String) : BackoffTracker :=
  { tracker with failing := tracker.failing.filter fun entry => entry.1 != key }

/-- The delay after a failure of a key. -/
def next (tracker : BackoffTracker) (key : String) : Nat × BackoffTracker :=
  let (delay, sequence) := (tracker.sequenceOf key).next
  (delay, { tracker with failing := (key, sequence) :: (tracker.reset key).failing })

end BackoffTracker

end ClusterAudit
