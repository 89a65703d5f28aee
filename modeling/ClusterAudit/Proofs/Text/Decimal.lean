import ClusterAudit.Text.Decimal
import Mathlib.Algebra.Group.Nat.Defs

/-!
Numbers are read back from their decimal digits, with or without leading zeros.
-/

namespace ClusterAudit.Text

/-! ## Single digits -/

theorem digitValue?_of_lt {digit : Nat} (small : digit < 10) :
    digitValue? (Char.ofNat (48 + digit)) = some digit := by
  have all : ∀ digit : Fin 10, digitValue? (Char.ofNat (48 + digit.val)) = some digit.val := by
    decide
  exact all ⟨digit, small⟩

theorem digitValue?_digitOf (value : Nat) : digitValue? (digitOf value) = some (value % 10) :=
  digitValue?_of_lt (Nat.mod_lt value (by decide))

theorem isDigit_of_digitValue? {character : Char} {digit : Nat}
    (read : digitValue? character = some digit) : isDigit character = true := by
  by_cases between : '0' ≤ character ∧ character ≤ '9'
  · simp [isDigit, between]
  · rw [digitValue?, if_neg between] at read
    cases read

theorem digit_lt_of_digitValue? {character : Char} {digit : Nat}
    (read : digitValue? character = some digit) : digit < 10 := by
  by_cases between : '0' ≤ character ∧ character ≤ '9'
  · rw [digitValue?, if_pos between] at read
    have upper : character.toNat ≤ '9'.toNat := between.2
    have nine : '9'.toNat = 57 := by decide
    have zero : '0'.toNat = 48 := by decide
    have same : character.toNat - '0'.toNat = digit := Option.some.inj read
    omega
  · rw [digitValue?, if_neg between] at read
    cases read

theorem isDigit_digitOf (value : Nat) : isDigit (digitOf value) = true :=
  isDigit_of_digitValue? (digitValue?_digitOf value)

/-! ## Reading -/

theorem extendDigits?_append (start : Nat) (first second : List Char) :
    extendDigits? start (first ++ second) =
      (extendDigits? start first).bind fun middle => extendDigits? middle second := by
  induction first generalizing start with
  | nil => rfl
  | cons character rest inductionHypothesis =>
      rw [List.cons_append, extendDigits?, extendDigits?]
      cases digitValue? character with
      | none => rfl
      | some digit => exact inductionHypothesis (start * 10 + digit)

theorem extendDigits?_digits (value : Nat) : extendDigits? 0 (digits value) = some value := by
  induction value using Nat.strongRecOn with
  | ind value inductionHypothesis =>
      rw [digits]
      by_cases small : value < 10
      · have same : value % 10 = value := Nat.mod_eq_of_lt small
        simp [small, extendDigits?, digitValue?_digitOf, same]
      · have smaller : value / 10 < value := by omega
        have whole : value / 10 * 10 + value % 10 = value := by omega
        rw [if_neg small, extendDigits?_append, inductionHypothesis (value / 10) smaller]
        simp [extendDigits?, digitValue?_digitOf, whole]

theorem ofNat_injective : Function.Injective ofNat := by
  intro left right same
  have sameDigits : digits left = digits right := String.ofList_injective same
  have value := extendDigits?_digits left
  rw [sameDigits, extendDigits?_digits] at value
  exact (Option.some.inj value).symm

theorem extendDigits?_zeros (count : Nat) :
    extendDigits? 0 (List.replicate count '0') = some 0 := by
  induction count with
  | zero => rfl
  | succ count inductionHypothesis =>
      have zero : digitValue? '0' = some 0 := by decide
      rw [List.replicate_succ, extendDigits?, zero]
      exact inductionHypothesis

theorem digits_ne_nil (value : Nat) : digits value ≠ [] := by
  rw [digits]
  split <;> simp

theorem paddedDigits_ne_nil (width value : Nat) : paddedDigits width value ≠ [] := by
  intro empty
  exact digits_ne_nil value (List.append_eq_nil_iff.mp empty).2

theorem natOfDigits?_eq_extendDigits? {text : List Char} (filled : text ≠ []) :
    natOfDigits? text = extendDigits? 0 text := by
  cases text with
  | nil => exact absurd rfl filled
  | cons first rest => rfl

/-- A number is read back from its digits, with any number of leading zeros. -/
theorem natOfDigits?_paddedDigits (width value : Nat) :
    natOfDigits? (paddedDigits width value) = some value := by
  rw [natOfDigits?_eq_extendDigits? (paddedDigits_ne_nil width value), paddedDigits,
    extendDigits?_append, extendDigits?_zeros]
  exact extendDigits?_digits value

theorem extendDigits?_lt {start value : Nat} {text : List Char}
    (read : extendDigits? start text = some value) :
    value < (start + 1) * 10 ^ text.length := by
  induction text generalizing start with
  | nil =>
      have same : start = value := Option.some.inj read
      simp [same]
  | cons character rest inductionHypothesis =>
      rw [extendDigits?] at read
      cases first : digitValue? character with
      | none =>
          rw [first] at read
          cases read
      | some digit =>
          rw [first] at read
          have bound := inductionHypothesis read
          have small := digit_lt_of_digitValue? first
          have step : start * 10 + digit + 1 ≤ (start + 1) * 10 := by omega
          have grown := Nat.mul_le_mul_right (10 ^ rest.length) step
          rw [List.length_cons, Nat.pow_succ]
          calc
            value < (start * 10 + digit + 1) * 10 ^ rest.length := bound
            _ ≤ (start + 1) * 10 * 10 ^ rest.length := grown
            _ = (start + 1) * (10 ^ rest.length * 10) := by
              rw [Nat.mul_assoc, Nat.mul_comm 10]

theorem natOfDigits?_lt {text : List Char} {value : Nat}
    (read : natOfDigits? text = some value) : value < 10 ^ text.length := by
  cases text with
  | nil => cases read
  | cons first rest =>
      have bound : value < (0 + 1) * 10 ^ (first :: rest).length := extendDigits?_lt read
      simpa using bound

/-! ## Lengths -/

theorem length_digits_le {width value : Nat} (filled : 0 < width) (small : value < 10 ^ width) :
    (digits value).length ≤ width := by
  induction width generalizing value with
  | zero => omega
  | succ width inductionHypothesis =>
      rw [digits]
      by_cases single : value < 10
      · simp [single]
      · have width_ne_zero : width ≠ 0 := by
          intro none
          rw [none] at small
          omega
        have shorter : value / 10 < 10 ^ width := by
          rw [Nat.pow_succ] at small
          omega
        have rest := inductionHypothesis (by omega) shorter
        rw [if_neg single, List.length_append, List.length_singleton]
        omega

theorem length_paddedDigits {width value : Nat} (filled : 0 < width)
    (small : value < 10 ^ width) : (paddedDigits width value).length = width := by
  have fits := length_digits_le filled small
  rw [paddedDigits, List.length_append, List.length_replicate]
  omega

theorem isDigit_of_mem_digits {value : Nat} {character : Char}
    (member : character ∈ digits value) : isDigit character = true := by
  induction value using Nat.strongRecOn with
  | ind value inductionHypothesis =>
      rw [digits] at member
      by_cases small : value < 10
      · rw [if_pos small, List.mem_singleton] at member
        rw [member]
        exact isDigit_digitOf value
      · rw [if_neg small, List.mem_append, List.mem_singleton] at member
        rcases member with earlier | last
        · exact inductionHypothesis (value / 10) (by omega) earlier
        · rw [last]
          exact isDigit_digitOf value

theorem isDigit_of_mem_paddedDigits {width value : Nat} {character : Char}
    (member : character ∈ paddedDigits width value) : isDigit character = true := by
  rw [paddedDigits, List.mem_append] at member
  rcases member with zero | digit
  · rw [List.eq_of_mem_replicate zero]
    decide
  · exact isDigit_of_mem_digits digit

end ClusterAudit.Text
