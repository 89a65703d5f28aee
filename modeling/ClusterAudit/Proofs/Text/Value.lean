import ClusterAudit.Proofs.Text.Decimal
import Mathlib.Data.Nat.Digits.Defs
import Mathlib.Algebra.Order.Field.Rat
import Mathlib.Tactic.FieldSimp

/-!
What decimal digits stand for: a natural number, or a rational number if some of them stand after a
point. Whole numbers are read exactly if they are written with an optional sign and digits, and then
the number is what the digits stand for.
-/

namespace ClusterAudit.Text

/-! ## Values of digits -/

/-- Decimal digits and nothing else. -/
def AreDigits (text : List Char) : Prop :=
  ∀ character ∈ text, isDigit character = true

/-- What a single digit stands for. -/
def digitWorth (digit : Char) : Nat :=
  digit.toNat - '0'.toNat

/-- What digits stand for before a point, the last of them being the ones. -/
def wholeValue (digits : List Char) : Nat :=
  Nat.ofDigits 10 (digits.reverse.map digitWorth)

/-- What digits stand for after a point, the first of them being the tenths. -/
def fractionValue (digits : List Char) : ℚ :=
  Nat.ofDigits (1 / 10 : ℚ) (digits.map digitWorth) / 10

/-- The number with the given digits before and after its point. -/
def decimalValue (whole fraction : List Char) : ℚ :=
  wholeValue whole + fractionValue fraction

theorem areDigits_cons_iff {first : Char} {rest : List Char} :
    AreDigits (first :: rest) ↔ isDigit first = true ∧ AreDigits rest :=
  List.forall_mem_cons

theorem areDigits_append_iff {first second : List Char} :
    AreDigits (first ++ second) ↔ AreDigits first ∧ AreDigits second :=
  List.forall_mem_append

@[simp]
theorem wholeValue_nil : wholeValue [] = 0 :=
  rfl

theorem wholeValue_append (first second : List Char) :
    wholeValue (first ++ second) = wholeValue first * 10 ^ second.length + wholeValue second := by
  rw [wholeValue, List.reverse_append, List.map_append, Nat.ofDigits_append, List.length_map,
    List.length_reverse, ← wholeValue, ← wholeValue]
  ring

theorem wholeValue_cons (first : Char) (rest : List Char) :
    wholeValue (first :: rest) = digitWorth first * 10 ^ rest.length + wholeValue rest := by
  have single : wholeValue [first] = digitWorth first := Nat.ofDigits_singleton
  rw [← single, ← wholeValue_append, List.singleton_append]

theorem wholeValue_zeros (count : Nat) : wholeValue (List.replicate count '0') = 0 := by
  have zero : digitWorth '0' = 0 := by decide
  rw [wholeValue, List.reverse_replicate, List.map_replicate, zero, Nat.ofDigits_replicate_zero]

theorem wholeValue_append_zeros (digits : List Char) (count : Nat) :
    wholeValue (digits ++ List.replicate count '0') = wholeValue digits * 10 ^ count := by
  rw [wholeValue_append, wholeValue_zeros, List.length_replicate, Nat.add_zero]

theorem fractionValue_cons (first : Char) (rest : List Char) :
    fractionValue (first :: rest) = (digitWorth first + fractionValue rest) / 10 := by
  rw [fractionValue, fractionValue, List.map_cons, Nat.ofDigits]
  ring

/-- Digits after a point stand for as many of the last place as they stand for before it. -/
theorem fractionValue_eq (digits : List Char) :
    fractionValue digits = wholeValue digits / 10 ^ digits.length := by
  induction digits with
  | nil => simp [fractionValue, wholeValue, Nat.ofDigits]
  | cons first rest inductionHypothesis =>
      rw [fractionValue_cons, inductionHypothesis, wholeValue_cons, List.length_cons]
      push_cast
      field_simp
      ring

/-- A decimal number is a whole number of its last place. -/
theorem decimalValue_eq (whole fraction : List Char) :
    decimalValue whole fraction = wholeValue (whole ++ fraction) / 10 ^ fraction.length := by
  rw [decimalValue, fractionValue_eq, wholeValue_append]
  push_cast
  field_simp

/-- Zeros at the end of the fraction do not count. -/
theorem decimalValue_append_zeros (whole fraction : List Char) (count : Nat) :
    decimalValue whole (fraction ++ List.replicate count '0') = decimalValue whole fraction := by
  rw [decimalValue_eq, decimalValue_eq, ← List.append_assoc, wholeValue_append_zeros,
    List.length_append, List.length_replicate]
  push_cast
  field_simp
  ring

/-! ## Reading digits -/

theorem digitValue?_eq_some_iff {character : Char} {digit : Nat} :
    digitValue? character = some digit ↔
      isDigit character = true ∧ digit = digitWorth character := by
  by_cases between : '0' ≤ character ∧ character ≤ '9'
  · simp [digitValue?, isDigit, digitWorth, between, eq_comm]
  · simp [digitValue?, isDigit, between]

theorem extendDigits?_eq_some_iff {start value : Nat} {text : List Char} :
    extendDigits? start text = some value ↔
      AreDigits text ∧ value = start * 10 ^ text.length + wholeValue text := by
  induction text generalizing start with
  | nil => simp [extendDigits?, AreDigits, eq_comm (a := value)]
  | cons first rest inductionHypothesis =>
      rw [extendDigits?, areDigits_cons_iff, wholeValue_cons, List.length_cons]
      cases read : digitValue? first with
      | none =>
          have noDigit : ¬ isDigit first = true := by
            intro digit
            rw [digitValue?_eq_some_iff.mpr ⟨digit, rfl⟩] at read
            cases read
          simp [noDigit]
      | some digit =>
          obtain ⟨isDigitFirst, rfl⟩ := digitValue?_eq_some_iff.mp read
          have regroup : (start * 10 + digitWorth first) * 10 ^ rest.length + wholeValue rest =
              start * 10 ^ (rest.length + 1) +
                (digitWorth first * 10 ^ rest.length + wholeValue rest) := by ring
          simp only [inductionHypothesis, isDigitFirst, true_and, regroup]

theorem natOfDigits?_eq_some_iff {text : List Char} {value : Nat} :
    natOfDigits? text = some value ↔ text ≠ [] ∧ AreDigits text ∧ value = wholeValue text := by
  by_cases filled : text = []
  · simp [filled, natOfDigits?]
  · rw [natOfDigits?_eq_extendDigits? filled, extendDigits?_eq_some_iff]
    simp [filled]

/-! ## Signs and whole numbers -/

/-- An optional sign, and whether it is a minus. -/
inductive IsSign : List Char → Bool → Prop
  | absent : IsSign [] false
  | plus : IsSign ['+'] false
  | minus : IsSign ['-'] true

/-- A number of the given magnitude under a sign. -/
def applySign (negative : Bool) (magnitude : Nat) : Int :=
  if negative then - Int.ofNat magnitude else Int.ofNat magnitude

/-- A whole number in decimal: an optional sign and at least one digit. -/
inductive IsInteger : List Char → Int → Prop
  | intro {sign digits : List Char} {negative : Bool} :
      IsSign sign negative → digits ≠ [] → AreDigits digits →
        IsInteger (sign ++ digits) (applySign negative (wholeValue digits))

theorem natAbs_applySign (negative : Bool) (magnitude : Nat) :
    (applySign negative magnitude).natAbs = magnitude := by
  cases negative <;> simp [applySign]

theorem isInteger_of_natOfDigits? {sign digits : List Char} {negative : Bool} {value : Int}
    (isSign : IsSign sign negative)
    (read : (natOfDigits? digits).map (applySign negative) = some value) :
    IsInteger (sign ++ digits) value := by
  obtain ⟨number, readDigits, rfl⟩ := Option.map_eq_some_iff.mp read
  obtain ⟨filled, areDigits, rfl⟩ := natOfDigits?_eq_some_iff.mp readDigits
  exact .intro isSign filled areDigits

theorem isInteger_of_signed? {text : List Char} {value : Int} (read : signed? text = some value) :
    IsInteger text value := by
  unfold signed? at read
  split at read
  · exact isInteger_of_natOfDigits? .plus read
  · exact isInteger_of_natOfDigits? .minus read
  · exact isInteger_of_natOfDigits? .absent read

/-- A text that starts with a digit starts with neither sign. -/
theorem signed?_of_areDigits {text : List Char} (digits : AreDigits text) :
    signed? text = (natOfDigits? text).map Int.ofNat := by
  unfold signed?
  split
  · have plus := digits '+' List.mem_cons_self
    exact absurd plus (by decide)
  · have minus := digits '-' List.mem_cons_self
    exact absurd minus (by decide)
  · rfl

theorem signed?_of_isInteger {text : List Char} {value : Int} (integer : IsInteger text value) :
    signed? text = some value := by
  cases integer with
  | @intro sign digits negative isSign filled areDigits =>
      have read := natOfDigits?_eq_some_iff.mpr ⟨filled, areDigits, rfl⟩
      cases isSign with
      | absent => rw [List.nil_append, signed?_of_areDigits areDigits, read]; rfl
      | plus => rw [List.singleton_append, signed?, read]; rfl
      | minus => rw [List.singleton_append, signed?, read]; rfl

theorem signed?_eq_some_iff {text : List Char} {value : Int} :
    signed? text = some value ↔ IsInteger text value :=
  ⟨isInteger_of_signed?, signed?_of_isInteger⟩

end ClusterAudit.Text
