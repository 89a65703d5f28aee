import ClusterAudit.Backoff
import Mathlib.Data.Nat.Fib.Basic

/-!
The delays of one sequence. They are the Fibonacci numbers in units of the least delay, cut off at
the largest one. No delay exceeds its bounds, but the sum that the next one is cut from is made
before the cut, and leaves 64 bits in some run exactly if one of the bounds does not fit in 63.
-/

namespace ClusterAudit

namespace Backoff

/-! ## Delays -/

/-- The unit of the delays: a second at least. -/
def unit (least : Nat) : Nat :=
  max 1 least

/-- The largest delay, which the least one may exceed. -/
def ceiling (least most : Nat) : Nat :=
  max (unit least) most

/-- The delay after the given number of failures, the last one included. -/
def delay (least most failures : Nat) : Nat :=
  min (ceiling least most) (unit least * Nat.fib failures)

/-- The sequence from which the given number of delays has been taken. -/
def taken (least most failures : Nat) : Backoff where
  least := unit least
  previous := delay least most failures
  current := delay least most (failures + 1)
  most := ceiling least most

variable {least most : Nat}

theorem unit_le_ceiling : unit least ≤ ceiling least most :=
  Nat.le_max_left ..

theorem delay_le_ceiling (failures : Nat) : delay least most failures ≤ ceiling least most :=
  Nat.min_le_left ..

theorem delay_mono {fewer failures : Nat} (more : fewer ≤ failures) :
    delay least most fewer ≤ delay least most failures := by
  have grown : unit least * Nat.fib fewer ≤ unit least * Nat.fib failures :=
    Nat.mul_le_mul_left _ (Nat.fib_mono more)
  rw [delay, delay]
  omega

/-- The sum of two delays is cut off where the sum of the numbers behind them is. So it does no harm
that a delay that was cut off enters the next sum. -/
theorem min_delay_add_delay (failures : Nat) :
    min (delay least most failures + delay least most (failures + 1)) (ceiling least most) =
      delay least most (failures + 2) := by
  have sum : unit least * Nat.fib (failures + 2) =
      unit least * Nat.fib failures + unit least * Nat.fib (failures + 1) := by
    rw [Nat.fib_add_two, Nat.mul_add]
  rw [delay, delay, delay, sum]
  omega

theorem between_eq_taken (least most : Nat) : between least most = taken least most 0 := by
  have first : delay least most 1 = unit least := by
    rw [delay, Nat.fib_one, Nat.mul_one]
    exact Nat.min_eq_right unit_le_ceiling
  have none : delay least most 0 = 0 := by
    rw [delay, Nat.fib_zero, Nat.mul_zero, Nat.min_zero]
  have sameUnit : max least 1 = unit least := Nat.max_comm ..
  have sameCeiling : max most (unit least) = ceiling least most := Nat.max_comm ..
  simp only [between, taken, first, none, sameUnit, sameCeiling]

theorem next_taken (least most failures : Nat) :
    (taken least most failures).next =
      (delay least most (failures + 1), taken least most (failures + 1)) := by
  simp only [next, taken, min_delay_add_delay]

/-- Bounds of 63 bits keep all sums within 64. -/
theorem taken_sum_lt (failures : Nat) (leastSmall : least < 2 ^ 63) (mostSmall : most < 2 ^ 63) :
    (taken least most failures).previous + (taken least most failures).current < 2 ^ 64 := by
  have small : ceiling least most < 2 ^ 63 := by
    rw [ceiling, unit]
    omega
  have previous : delay least most failures ≤ ceiling least most := delay_le_ceiling _
  have current : delay least most (failures + 1) ≤ ceiling least most := delay_le_ceiling _
  change delay least most failures + delay least most (failures + 1) < 2 ^ 64
  omega

/-! ## Runs -/

/-- What a sequence is asked for: its next delay, or to start anew. -/
inductive Step where
  | next
  | reset
deriving DecidableEq, Repr

variable {backoff : Backoff}

/-- The sequence after a step. -/
def after (backoff : Backoff) : Step → Backoff
  | .next => backoff.next.2
  | .reset => backoff.reset

/-- The sequence after several steps. -/
def run (backoff : Backoff) (steps : List Step) : Backoff :=
  steps.foldl after backoff

theorem run_append_singleton (backoff : Backoff) (steps : List Step) (step : Step) :
    backoff.run (steps ++ [step]) = (backoff.run steps).after step := by
  rw [run, List.foldl_append]
  rfl

/-- The sum of the last delay and of the one that is due. The delay after these is cut from it. -/
def sum (backoff : Backoff) : Nat :=
  backoff.previous + backoff.current

theorem after_next_taken (failures : Nat) :
    (taken least most failures).after .next = taken least most (failures + 1) := by
  rw [after, next_taken]

theorem after_reset_taken (failures : Nat) :
    (taken least most failures).after .reset = taken least most 0 := by
  have sameUnit : max least 1 = unit least := Nat.max_comm ..
  have sameCeiling : max most (unit least) = ceiling least most := Nat.max_comm ..
  rw [← between_eq_taken]
  simp only [between, sameUnit, sameCeiling, after, reset, taken]

/-- Whatever a sequence has been asked for, it is as after some number of delays. -/
theorem exists_run_eq_taken (least most : Nat) (steps : List Step) :
    ∃ failures, (between least most).run steps = taken least most failures := by
  induction steps using List.reverseRecOn with
  | nil => exact ⟨0, between_eq_taken least most⟩
  | append_singleton earlier step inductionHypothesis =>
      obtain ⟨failures, earlierTaken⟩ := inductionHypothesis
      rw [run_append_singleton, earlierTaken]
      cases step with
      | next => exact ⟨failures + 1, after_next_taken failures⟩
      | reset => exact ⟨0, after_reset_taken failures⟩

theorem run_replicate_next (least most failures : Nat) :
    (between least most).run (List.replicate failures .next) = taken least most failures := by
  induction failures with
  | zero => exact between_eq_taken least most
  | succ fewer inductionHypothesis =>
      rw [List.replicate_succ', run_append_singleton, inductionHypothesis, after_next_taken]

/-! ## Sums -/

/-- After enough failures all delays are the largest one. -/
theorem delay_eq_ceiling {failures : Nat} (enough : ceiling least most < failures) :
    delay least most failures = ceiling least most := by
  have grown : failures ≤ Nat.fib failures + 1 := Nat.le_fib_add_one failures
  have positive : 1 ≤ unit least := Nat.le_max_left ..
  have units : Nat.fib failures ≤ unit least * Nat.fib failures := Nat.le_mul_of_pos_left _ positive
  rw [delay]
  omega

theorem exists_sum_eq (least most : Nat) :
    ∃ steps, ((between least most).run steps).sum = 2 * ceiling least most := by
  refine ⟨List.replicate (ceiling least most + 1) .next, ?_⟩
  have previous : delay least most (ceiling least most + 1) = ceiling least most :=
    delay_eq_ceiling (Nat.lt_succ_self _)
  have current : delay least most (ceiling least most + 1 + 1) = ceiling least most :=
    delay_eq_ceiling (by omega)
  rw [run_replicate_next]
  change delay least most (ceiling least most + 1) + delay least most (ceiling least most + 1 + 1) =
    2 * ceiling least most
  omega

/-- In every run of a sequence both of its delays stay within the ceiling, but their sum may reach
twice the ceiling. So all sums of all runs fit in 64 bits exactly if both bounds fit in 63. -/
theorem sum_run_lt_iff (least most : Nat) :
    (∀ steps, ((between least most).run steps).previous ≤ max (max least 1) most ∧
      ((between least most).run steps).current ≤ max (max least 1) most) ∧
    ((∀ steps, ((between least most).run steps).sum < 2 ^ 64) ↔
      least < 2 ^ 63 ∧ most < 2 ^ 63) := by
  have sameCeiling : max (max least 1) most = ceiling least most := by
    rw [ceiling, unit, Nat.max_comm least]
  constructor
  · intro steps
    obtain ⟨failures, isTaken⟩ := exists_run_eq_taken least most steps
    rw [isTaken, sameCeiling]
    exact ⟨delay_le_ceiling _, delay_le_ceiling _⟩
  · constructor
    · intro fit
      obtain ⟨steps, twice⟩ := exists_sum_eq least most
      have small := fit steps
      rw [twice, ← sameCeiling] at small
      omega
    · rintro ⟨leastSmall, mostSmall⟩ steps
      obtain ⟨failures, isTaken⟩ := exists_run_eq_taken least most steps
      rw [isTaken]
      exact taken_sum_lt failures leastSmall mostSmall

/-- Two delays of the largest number of seconds have no sum of 64 bits. -/
theorem exists_sum_too_large :
    ∃ least most steps, least < 2 ^ 64 ∧ most < 2 ^ 64 ∧
      2 ^ 64 ≤ ((between least most).run steps).sum :=
  ⟨2 ^ 64 - 1, 2 ^ 64 - 1, [.next], by decide, by decide, by decide⟩

end Backoff

end ClusterAudit
