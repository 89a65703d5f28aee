import ClusterAudit.Proofs.Backoff
import ClusterAudit.Proofs.Dictionary
import ClusterAudit.Schedule

/-!
When failed passes are tried again. The delays of a key are the Fibonacci numbers in units of the
least delay, cut off at the largest one. What counts is how often the key has failed since it was
last reset; conflicts and other keys do not count, in whatever order all of it happens.
-/

namespace ClusterAudit

/-! ## Sequences of several keys -/

namespace BackoffTracker

variable {tracker : BackoffTracker} {key other : String}

theorem sequenceOf_reset_self :
    (tracker.reset key).sequenceOf key = Backoff.between tracker.least tracker.most := by
  rw [sequenceOf, reset, lookup_filter_fst tracker.failing key fun present => present != key]
  simp

theorem sequenceOf_reset_of_ne (different : key ≠ other) :
    (tracker.reset other).sequenceOf key = tracker.sequenceOf key := by
  rw [sequenceOf, reset, lookup_filter_fst tracker.failing key fun present => present != other,
    if_pos (bne_iff_ne.mpr different)]
  rfl

theorem sequenceOf_next_self :
    (tracker.next key).2.sequenceOf key = (tracker.sequenceOf key).next.2 := by
  simp [sequenceOf, next]

theorem sequenceOf_next_of_ne (different : key ≠ other) :
    (tracker.next other).2.sequenceOf key = tracker.sequenceOf key := by
  have kept : (tracker.reset other).sequenceOf key = tracker.sequenceOf key :=
    sequenceOf_reset_of_ne different
  rw [← kept]
  simp only [sequenceOf, next, lookup_cons_of_ne different]
  rfl

end BackoffTracker

/-! ## Histories -/

namespace Schedule

/-- What the delays depend on: a pass over a key has failed, or its failures are forgotten since a
pass has not. -/
inductive Event where
  | failure (key : String) (error : ReconcileError)
  | reset (key : String)

namespace Event

/-- The key that an event is about. -/
def key : Event → String
  | failure key _ => key
  | reset key => key

def isResetOf (key : String) : Event → Bool
  | failure _ _ => false
  | reset other => other == key

/-- The event is a failure of a key that is no mere conflict. -/
def isFailureOf (key : String) : Event → Bool
  | failure other error => other == key && !error.isConflict
  | reset _ => false

end Event

/-- How often a key has failed since it was last reset, in a history with the oldest event first.
Conflicts do not count. -/
def failures (key : String) (history : List Event) : Nat :=
  (history.reverse.takeWhile fun event => !event.isResetOf key).countP (Event.isFailureOf key)

/-- The tracker after an event. -/
def tracked (settings : Settings) (tracker : BackoffTracker) : Event → BackoffTracker
  | .failure key error => (afterFailure settings tracker key error).2
  | .reset key => tracker.reset key

/-- The tracker after a history. -/
def track (settings : Settings) (tracker : BackoffTracker) (history : List Event) :
    BackoffTracker :=
  history.foldl (tracked settings) tracker

variable {settings : Settings} {tracker : BackoffTracker} {least most : Nat} {key : String}
  {error : ReconcileError} {history : List Event}

theorem failures_append_singleton (key : String) (history : List Event) (event : Event) :
    failures key (history ++ [event]) =
      if event.isResetOf key then 0
      else failures key history + if event.isFailureOf key then 1 else 0 := by
  rw [failures, List.reverse_append, List.reverse_singleton, List.singleton_append]
  cases resets : event.isResetOf key with
  | true => simp [resets]
  | false =>
      rw [List.takeWhile_cons_of_pos (by simp [resets]), List.countP_cons]
      rfl

/-- Failures only add up while the key is not reset. -/
theorem failures_le_append {later : List Event} (unreset : .reset key ∉ later) :
    failures key history ≤ failures key (history ++ later) := by
  induction later using List.reverseRecOn with
  | nil => rw [List.append_nil]
  | append_singleton earlier event inductionHypothesis =>
      rw [List.mem_append, not_or, List.mem_singleton] at unreset
      have isNoReset : event.isResetOf key = false := by
        cases event with
        | failure other error => rfl
        | reset other => exact beq_eq_false_iff_ne.mpr fun same => unreset.2 (same ▸ rfl)
      rw [← List.append_assoc, failures_append_singleton, isNoReset]
      exact (inductionHypothesis unreset.1).trans (Nat.le_add_right ..)

/-- Only events of the key itself count. -/
theorem failures_filter (key : String) (history : List Event) :
    failures key (history.filter fun event => event.key == key) = failures key history := by
  induction history using List.reverseRecOn with
  | nil => rfl
  | append_singleton earlier event inductionHypothesis =>
      rw [List.filter_append, failures_append_singleton, List.filter_singleton]
      cases about : event.key == key with
      | true => rw [cond_true, failures_append_singleton, inductionHypothesis]
      | false =>
          have unconcerned :
              event.isResetOf key = false ∧ event.isFailureOf key = false := by
            cases event with
            | failure other error =>
                have otherKey : (other == key) = false := about
                exact ⟨rfl, by rw [Event.isFailureOf, otherKey, Bool.false_and]⟩
            | reset other => exact ⟨about, rfl⟩
          rw [cond_false, List.append_nil, inductionHypothesis, unconcerned.1, unconcerned.2]
          rfl

theorem afterFailure_of_isConflict (conflicting : error.isConflict = true) :
    afterFailure settings tracker key error = (settings.requeueInterval, tracker) :=
  if_pos conflicting

theorem afterFailure_of_not_isConflict (failing : error.isConflict = false) :
    afterFailure settings tracker key error = tracker.next key :=
  if_neg (Bool.eq_false_iff.mp failing)

/-- A tracker that has seen a history: every key is as far in its sequence as it has failed. -/
structure Follows (least most : Nat) (history : List Event) (tracker : BackoffTracker) : Prop where
  sameLeast : tracker.least = least
  sameMost : tracker.most = most
  sequences : ∀ key, tracker.sequenceOf key = Backoff.taken least most (failures key history)

theorem follows_between (least most : Nat) :
    Follows least most [] (BackoffTracker.between least most) where
  sameLeast := rfl
  sameMost := rfl
  sequences _ := Backoff.between_eq_taken least most

/-- A tracker keeps up with what happens. -/
theorem Follows.tracked (follows : Follows least most history tracker) (event : Event) :
    Follows least most (history ++ [event]) (tracked settings tracker event) := by
  cases event with
  | reset resetKey =>
      refine { follows with sequences := ?_ }
      intro key
      rw [failures_append_singleton, Schedule.tracked]
      by_cases same : resetKey = key
      · subst same
        rw [BackoffTracker.sequenceOf_reset_self, follows.sameLeast, follows.sameMost,
          Backoff.between_eq_taken]
        simp [Event.isResetOf]
      · rw [BackoffTracker.sequenceOf_reset_of_ne fun equal => same equal.symm,
          follows.sequences]
        simp [Event.isResetOf, Event.isFailureOf, same]
  | failure failedKey error =>
      rw [Schedule.tracked]
      cases conflicting : error.isConflict with
      | true =>
          rw [afterFailure_of_isConflict conflicting]
          refine { follows with sequences := ?_ }
          intro key
          rw [failures_append_singleton, follows.sequences]
          simp [Event.isResetOf, Event.isFailureOf, conflicting]
      | false =>
          rw [afterFailure_of_not_isConflict conflicting]
          refine { follows with sequences := ?_ }
          intro key
          rw [failures_append_singleton]
          by_cases same : failedKey = key
          · subst same
            rw [BackoffTracker.sequenceOf_next_self, follows.sequences, Backoff.next_taken]
            simp [Event.isResetOf, Event.isFailureOf, conflicting]
          · rw [BackoffTracker.sequenceOf_next_of_ne fun equal => same equal.symm,
              follows.sequences]
            simp [Event.isResetOf, Event.isFailureOf, same]

theorem follows_track (settings : Settings) (least most : Nat) (history : List Event) :
    Follows least most history
      (track settings (BackoffTracker.between least most) history) := by
  induction history using List.reverseRecOn with
  | nil => exact follows_between least most
  | append_singleton earlier event inductionHypothesis =>
      rw [track, List.foldl_append]
      exact inductionHypothesis.tracked event

/-- The delay that a failure gets after a history. -/
theorem delay_afterFailure (settings : Settings) (least most : Nat) (history : List Event)
    (failing : error.isConflict = false) :
    (afterFailure settings (track settings (BackoffTracker.between least most) history) key
      error).1 = Backoff.delay least most (failures key history + 1) := by
  have follows := follows_track settings least most history
  rw [afterFailure_of_not_isConflict failing]
  exact congrArg Backoff.current (follows.sequences key)

/-- Whatever has happened before: a conflict is tried again after the requeue interval and leaves
the delays as they are. Any other failure of a key waits for as many units as the Fibonacci number
of the key's failures since its last reset, up to the ceiling. So the delays of a key depend on no
other key, and only grow until it is reset; with bounds of 63 bits no sum leaves 64. -/
theorem afterFailure_track (settings : Settings) (least most : Nat) (history : List Event)
    (key : String) (error : ReconcileError) :
    let tracker := track settings (BackoffTracker.between least most) history
    let answer := afterFailure settings tracker key error
    let unit := max 1 least
    let ceiling := max unit most
    (error.isConflict = true → answer = (settings.requeueInterval, tracker)) ∧
    (error.isConflict = false →
      answer.1 = min ceiling (unit * Nat.fib (failures key (history ++ [.failure key error]))) ∧
      answer.1 ≤ ceiling ∧
      (∀ other, (other.filter fun event => event.key == key) =
          history.filter (fun event => event.key == key) →
        (afterFailure settings (track settings (BackoffTracker.between least most) other) key
          error).1 = answer.1) ∧
      ∀ later laterError, .reset key ∉ later → laterError.isConflict = false →
        answer.1 ≤ (afterFailure settings (track settings (BackoffTracker.between least most)
          (history ++ .failure key error :: later)) key laterError).1) ∧
    (least < 2 ^ 63 → most < 2 ^ 63 →
      (tracker.sequenceOf key).previous + (tracker.sequenceOf key).current < 2 ^ 64) := by
  intro tracker answer unit ceiling
  refine ⟨afterFailure_of_isConflict, ?_, ?_⟩
  · intro failing
    have delayed : answer.1 = Backoff.delay least most (failures key history + 1) :=
      delay_afterFailure settings least most history failing
    have counted : failures key (history ++ [.failure key error]) = failures key history + 1 := by
      rw [failures_append_singleton]
      simp [Event.isResetOf, Event.isFailureOf, failing]
    refine ⟨?_, ?_, ?_, ?_⟩
    · rw [delayed, counted]
      rfl
    · rw [delayed]
      exact Backoff.delay_le_ceiling _
    · intro other sameEvents
      rw [delayed, delay_afterFailure settings least most other failing,
        ← failures_filter key other, sameEvents, failures_filter]
    · intro later laterError unreset laterFailing
      have stillUnreset : .reset key ∉ .failure key error :: later := by
        rw [List.mem_cons, not_or]
        exact ⟨nofun, unreset⟩
      rw [delayed, delay_afterFailure settings least most _ laterFailing]
      apply Backoff.delay_mono
      exact Nat.succ_le_succ (failures_le_append stillUnreset)
  · intro leastSmall mostSmall
    have sequence := (follows_track settings least most history).sequences key
    rw [sequence]
    exact Backoff.taken_sum_lt _ leastSmall mostSmall

/-- Two failures of a key, one of another key, and a conflict. -/
def troubledHistory : List Event :=
  [.failure "security/audit" (.timeout 120), .failure "team/audit" (.timeout 120),
    .failure "security/audit" (.timeout 120),
    .failure "security/audit" (.cluster (.conflict "AuditConfig audit"))]

/-- After these a conflict is tried again at once, and the third failure of the key waits for two
units of thirty seconds. Later ones wait no shorter. -/
theorem afterFailure_troubledHistory :
    let tracker := track Settings.standard (BackoffTracker.between 30 600) troubledHistory
    afterFailure Settings.standard tracker "security/audit"
        (.cluster (.conflict "AuditConfig audit")) = (1, tracker) ∧
      (afterFailure Settings.standard tracker "security/audit" (.timeout 120)).1 = 60 ∧
      (∀ later, .reset "security/audit" ∉ later →
        60 ≤ (afterFailure Settings.standard
          (track Settings.standard (BackoffTracker.between 30 600)
            (troubledHistory ++ .failure "security/audit" (.timeout 120) :: later))
          "security/audit" (.timeout 120)).1) ∧
      (tracker.sequenceOf "security/audit").previous +
        (tracker.sequenceOf "security/audit").current < 2 ^ 64 := by
  obtain ⟨conflicting, _, _⟩ := afterFailure_track Settings.standard 30 600 troubledHistory
    "security/audit" (.cluster (.conflict "AuditConfig audit"))
  obtain ⟨_, failing, fits⟩ := afterFailure_track Settings.standard 30 600 troubledHistory
    "security/audit" (.timeout 120)
  obtain ⟨delayed, _, _, grows⟩ := failing rfl
  have sixty : min (max (max 1 30) 600) (max 1 30 * Nat.fib (failures "security/audit"
      (troubledHistory ++ [.failure "security/audit" (.timeout 120)]))) = 60 := by decide
  rw [sixty] at delayed
  refine ⟨conflicting rfl, delayed, ?_, fits (by decide) (by decide)⟩
  intro later unreset
  rw [← delayed]
  exact grows later (.timeout 120) unreset rfl

end Schedule

end ClusterAudit
