import ClusterAudit.Proofs.Quantity.Grammar
import Mathlib.Algebra.Order.Floor.Div
import Mathlib.Data.Rat.Floor

/-!
What quantities are worth. A numeral stands for a rational amount, which is rounded away from zero to
whole nano-units. Reading a text finds that value exactly if the digits, taken as one whole number
and multiplied by the power of two of the suffix, and the value itself stay below the bound.
-/

namespace ClusterAudit.Quantity

open Text

/-! ## Exact values -/

namespace Numeral

/-- The exact amount in base units, apart from the sign. -/
def amount (numeral : Numeral) : ℚ :=
  decimalValue numeral.whole numeral.fraction * 10 ^ numeral.scale.tens * 2 ^ numeral.scale.twos

/-- The amount in nano-units, rounded up to a whole number and put under the sign. -/
def nanos (numeral : Numeral) : Int :=
  applySign numeral.negative ⌈numeral.amount * 10 ^ 9⌉₊

/-- The digits as one whole number, without regard to the point, times the power of two. -/
def scaled (numeral : Numeral) : Nat :=
  wholeValue (numeral.whole ++ numeral.fraction) * 2 ^ numeral.scale.twos

theorem natAbs_nanos (numeral : Numeral) :
    numeral.nanos.natAbs = ⌈numeral.amount * 10 ^ 9⌉₊ :=
  natAbs_applySign _ _

/-- The amount in nano-units is a whole number, shifted by decimal places. -/
theorem amount_eq (numeral : Numeral) :
    numeral.amount * 10 ^ 9 =
      numeral.scaled * 10 ^ (numeral.scale.tens - numeral.fraction.length + 9) := by
  have ten : (10 : ℚ) ≠ 0 := by norm_num
  rw [amount, scaled, decimalValue_eq, zpow_add₀ ten, zpow_sub₀ ten, zpow_natCast]
  push_cast
  field_simp
  norm_num

end Numeral

/-! ## Rounding -/

/-- Dropping decimal places rounds up. -/
theorem ceil_div_pow_eq_shiftDown (magnitude places : Nat) :
    ⌈(magnitude : ℚ) / 10 ^ places⌉₊ = shiftDown magnitude places := by
  have positive : 0 < 10 ^ places := Nat.pow_pos (by decide)
  have positiveCast : (0 : ℚ) < 10 ^ places := by positivity
  refine eq_of_forall_ge_iff fun most => ?_
  change _ ↔ magnitude ⌈/⌉ 10 ^ places ≤ most
  rw [Nat.ceil_le, div_le_iff₀ positiveCast, ceilDiv_le_iff_le_mul positive, Nat.mul_comm]
  exact_mod_cast Iff.rfl

theorem shiftDown_le (magnitude places : Nat) : shiftDown magnitude places ≤ magnitude := by
  have positive : 0 < 10 ^ places := Nat.pow_pos (by decide)
  change magnitude ⌈/⌉ 10 ^ places ≤ magnitude
  rw [ceilDiv_le_iff_le_mul positive]
  exact Nat.le_mul_of_pos_left magnitude positive

/-- Of a magnitude with fewer places than are dropped, only whether it is zero is left. -/
theorem shiftDown_of_lt {magnitude places : Nat} (small : magnitude < 10 ^ places) :
    shiftDown magnitude places = min magnitude 1 := by
  change (magnitude + 10 ^ places - 1) / 10 ^ places = min magnitude 1
  rcases Nat.eq_zero_or_pos magnitude with rfl | positive
  · exact Nat.div_eq_of_lt (by omega)
  · rw [Nat.min_eq_right positive]
    exact Nat.div_eq_of_lt_le (by omega) (by omega)

theorem bound_lt_pow {places : Nat} (many : 39 ≤ places) : bound < 10 ^ places :=
  calc
    bound < 10 ^ 39 := by decide
    _ ≤ 10 ^ places := Nat.pow_le_pow_right (by decide) many

/-! ## Reading the value -/

theorem bounded?_eq_some_iff {magnitude kept : Nat} :
    bounded? magnitude = some kept ↔ magnitude < bound ∧ magnitude = kept := by
  simp [bounded?]

theorem bounded?_of_lt {magnitude : Nat} (small : magnitude < bound) :
    bounded? magnitude = some magnitude :=
  if_pos small

theorem bounded?_of_le {magnitude : Nat} (large : bound ≤ magnitude) :
    bounded? magnitude = none :=
  if_neg (Nat.not_lt.mpr large)

/-- Numbers only grow while digits are read, so that only the last one counts. -/
theorem mantissa?_eq {start : Nat} {text : List Char} (digits : AreDigits text)
    (small : start < bound) :
    mantissa? start text = bounded? (start * 10 ^ text.length + wholeValue text) := by
  induction text generalizing start with
  | nil =>
      rw [wholeValue_nil, List.length_nil, Nat.pow_zero, Nat.mul_one, Nat.add_zero,
        bounded?_of_lt small, mantissa?]
  | cons first rest inductionHypothesis =>
      obtain ⟨isDigitFirst, areDigits⟩ := areDigits_cons_iff.mp digits
      have value : start * 10 ^ (first :: rest).length + wholeValue (first :: rest) =
          (start * 10 + digitWorth first) * 10 ^ rest.length + wholeValue rest := by
        rw [wholeValue_cons, List.length_cons]
        ring
      rw [mantissa?, digitValue?_eq_some_iff.mpr ⟨isDigitFirst, rfl⟩, value]
      by_cases next : start * 10 + digitWorth first < bound
      · simp only [bounded?_of_lt next, Option.bind_eq_bind, Option.bind_some]
        exact inductionHypothesis areDigits next
      · have grows : start * 10 + digitWorth first ≤
            (start * 10 + digitWorth first) * 10 ^ rest.length + wholeValue rest :=
          Nat.le_add_right_of_le (Nat.le_mul_of_pos_right _ (Nat.pow_pos (by decide)))
        have large := Nat.not_lt.mp next
        simp only [bounded?_of_le large, bounded?_of_le (large.trans grows), Option.bind_eq_bind,
          Option.bind_some, Option.bind_none]

/-- The last step of a computation: the digits are moved by decimal places. -/
theorem ceil_shift_eq (scaled : Nat) (places : Int) (small : scaled < bound) :
    (if 0 ≤ places then bounded? (scaled * Nat.pow 10 places.toNat)
      else if 39 ≤ -places then some (min scaled 1)
      else some (shiftDown scaled (-places).toNat)) =
    bounded? ⌈(scaled : ℚ) * 10 ^ places⌉₊ := by
  by_cases up : 0 ≤ places
  · obtain ⟨count, rfl⟩ := Int.eq_ofNat_of_zero_le up
    have whole : (scaled : ℚ) * 10 ^ (count : Int) = ((scaled * 10 ^ count : Nat) : ℚ) := by
      push_cast
      rw [zpow_natCast]
    rw [if_pos up, whole, Nat.ceil_natCast]
    rfl
  · obtain ⟨count, opposite⟩ := Int.eq_ofNat_of_zero_le (show 0 ≤ -places by omega)
    have down : (scaled : ℚ) * 10 ^ places = scaled / 10 ^ count := by
      rw [← neg_neg places, opposite, zpow_neg, zpow_natCast, div_eq_mul_inv]
    have keeps := (shiftDown_le scaled count).trans_lt small
    rw [if_neg up, down, ceil_div_pow_eq_shiftDown, bounded?_of_lt keeps, opposite]
    by_cases far : 39 ≤ count
    · have small := small.trans (bound_lt_pow far)
      rw [if_pos (by exact_mod_cast far), shiftDown_of_lt small]
    · rw [if_neg (by exact_mod_cast far), Int.toNat_natCast]

namespace Numeral

variable {numeral : Numeral}

theorem magnitude?_eq (digits : AreDigits (numeral.whole ++ numeral.fraction)) :
    numeral.magnitude? =
      (bounded? numeral.scaled).bind fun _ => bounded? ⌈numeral.amount * 10 ^ 9⌉₊ := by
  have read : mantissa? 0 (numeral.whole ++ numeral.fraction) =
      bounded? (wholeValue (numeral.whole ++ numeral.fraction)) := by
    rw [mantissa?_eq digits (by decide), Nat.zero_mul, Nat.zero_add]
  have grows : wholeValue (numeral.whole ++ numeral.fraction) ≤ numeral.scaled :=
    Nat.le_mul_of_pos_right _ (Nat.pow_pos (by decide))
  by_cases fits : numeral.scaled < bound
  · have scaled : bounded? (wholeValue (numeral.whole ++ numeral.fraction) *
        Nat.pow 2 numeral.scale.twos) = some numeral.scaled := bounded?_of_lt fits
    rw [bounded?_of_lt fits, Option.bind_some, Numeral.amount_eq, ← ceil_shift_eq _ _ fits]
    simp only [magnitude?, read, bounded?_of_lt (grows.trans_lt fits), scaled,
      Option.bind_eq_bind, Option.bind_some]
  · have scaled : bounded? (wholeValue (numeral.whole ++ numeral.fraction) *
        Nat.pow 2 numeral.scale.twos) = none := bounded?_of_le (Nat.not_lt.mp fits)
    rw [bounded?_of_le (Nat.not_lt.mp fits), Option.bind_none]
    by_cases first : wholeValue (numeral.whole ++ numeral.fraction) < bound
    · simp only [magnitude?, read, bounded?_of_lt first, scaled, Option.bind_eq_bind,
        Option.bind_some, Option.bind_none]
    · simp only [magnitude?, read, bounded?_of_le (Nat.not_lt.mp first), Option.bind_eq_bind,
        Option.bind_none]

theorem value?_eq_some_iff {quantity : Quantity}
    (digits : AreDigits (numeral.whole ++ numeral.fraction)) :
    numeral.value? = some quantity ↔
      numeral.scaled < bound ∧ numeral.nanos.natAbs < bound ∧ quantity = ⟨numeral.nanos⟩ := by
  rw [value?, magnitude?_eq digits, natAbs_nanos]
  by_cases fits : numeral.scaled < bound
  · by_cases small : ⌈numeral.amount * 10 ^ 9⌉₊ < bound
    · simp only [bounded?_of_lt fits, bounded?_of_lt small, Option.bind_some, Option.map_some,
        Option.some.injEq, fits, small, true_and]
      exact eq_comm
    · simp [bounded?_of_lt fits, bounded?_of_le (Nat.not_lt.mp small), small]
  · simp [bounded?_of_le (Nat.not_lt.mp fits), fits]

end Numeral

/-- What is read is the value of the numeral that a text is written for. Nothing else is refused but
numerals that are too large, or become so on the way. -/
theorem parse_eq_ok_iff {input : String} {quantity : Quantity} :
    parse input = .ok quantity ↔
      ∃ numeral, IsWritten (trimmed input.toList) numeral ∧ numeral.scaled < bound ∧
        numeral.nanos.natAbs < bound ∧ quantity = ⟨numeral.nanos⟩ := by
  have parsed : parse input = .ok quantity ↔
      (Numeral.read? (trimmed input.toList)).bind Numeral.value? = some quantity := by
    rw [parse]
    cases (Numeral.read? (trimmed input.toList)).bind Numeral.value? <;> simp
  rw [parsed, Option.bind_eq_some_iff]
  refine exists_congr fun numeral => ?_
  rw [read?_eq_some_iff]
  exact and_congr_right fun written => Numeral.value?_eq_some_iff written.areDigits

theorem parse_eq_error {input : String} {failure : QuantityError}
    (parsed : parse input = .error failure) : failure = ⟨input⟩ := by
  rw [parse] at parsed
  cases read : (Numeral.read? (trimmed input.toList)).bind Numeral.value? with
  | some quantity =>
      rw [read] at parsed
      cases parsed
  | none =>
      rw [read] at parsed
      cases parsed
      rfl

end ClusterAudit.Quantity
