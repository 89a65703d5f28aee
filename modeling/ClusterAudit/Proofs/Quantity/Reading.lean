import ClusterAudit.Proofs.Quantity.Words

/-!
What reading a quantity gives. Only what is written as a quantity is read, in words of fixed width as
well as exactly, and a quantity is then the value of what is written, rounded away from zero to whole
nano-units. A value that a quantity could hold is refused all the same if the digits, taken as one
whole number and multiplied by the power of two of the suffix, are too large: zeros at the end of a
fraction may make the same amount unreadable.
-/

namespace ClusterAudit.Quantity

open Text

/-! ## Rounded values -/

theorem compare_eq (left right : Quantity) : compare left right = compare left.nanos right.nanos :=
  rfl

/-- Whatever a short text is, reading it in words of fixed width is no fault and gives the same as
reading it exactly. What is read is the rounded value of the one numeral that the text is written
for, so that quantities are in the order of these values. -/
theorem reads_rounded_value {input : String} (short : input.utf8ByteSize < 2 ^ 31 - 32) :
    Words.parse input ≠ .fault ∧ Words.parse input = .ofExcept (parse input) ∧
      ∀ quantity, parse input = .ok quantity →
        ∃ numeral, IsWritten (trimmed input.toList) numeral ∧
          (∀ other, IsWritten (trimmed input.toList) other → other = numeral) ∧
          quantity.nanos = numeral.nanos ∧
          ∀ otherInput otherQuantity otherNumeral, parse otherInput = .ok otherQuantity →
            IsWritten (trimmed otherInput.toList) otherNumeral →
              compare quantity otherQuantity = compare numeral.nanos otherNumeral.nanos := by
  have inWords := Words.parse_eq_ofExcept short
  refine ⟨?_, inWords, ?_⟩
  · rw [inWords]
    cases parse input <;> simp [Words.Evaluation.ofExcept]
  · intro quantity parsed
    obtain ⟨numeral, written, _, _, rfl⟩ := parse_eq_ok_iff.mp parsed
    refine ⟨numeral, written, fun other otherWritten => otherWritten.unique written, rfl, ?_⟩
    intro otherInput otherQuantity otherNumeral otherParsed otherWritten
    obtain ⟨read, readWritten, _, _, rfl⟩ := parse_eq_ok_iff.mp otherParsed
    rw [otherWritten.unique readWritten, compare_eq]

/-- A negative number between blanks, with an exponent and more places than are kept. -/
theorem reads_roundedText :
    " -12.5e-10 ".utf8ByteSize < 2 ^ 31 - 32 ∧ parse " -12.5e-10 " = .ok ⟨-2⟩ ∧
      Words.parse " -12.5e-10 " = .value ⟨-2⟩ ∧
      ∃ numeral, IsWritten "-12.5e-10".toList numeral ∧ -2 = numeral.nanos := by
  have short : " -12.5e-10 ".utf8ByteSize < 2 ^ 31 - 32 := by decide
  have parsed : parse " -12.5e-10 " = .ok ⟨-2⟩ := by decide +kernel
  obtain ⟨_, inWords, exact⟩ := reads_rounded_value short
  obtain ⟨numeral, written, _, same, _⟩ := exact ⟨-2⟩ parsed
  rw [parsed] at inWords
  have blanks : trimmed " -12.5e-10 ".toList = "-12.5e-10".toList := by decide +kernel
  rw [blanks] at written
  exact ⟨short, parsed, inWords, numeral, written, same⟩

/-! ## Refused values -/

namespace Numeral

/-- A numeral with zeros at the end of its fraction. -/
def withZeros (numeral : Numeral) (count : Nat) : Numeral :=
  { numeral with fraction := numeral.fraction ++ List.replicate count '0' }

theorem nanos_withZeros (numeral : Numeral) (count : Nat) :
    (numeral.withZeros count).nanos = numeral.nanos := by
  rw [nanos, nanos, amount, amount, withZeros, decimalValue_append_zeros]

theorem scaled_withZeros (numeral : Numeral) (count : Nat) :
    (numeral.withZeros count).scaled = numeral.scaled * 10 ^ count := by
  rw [scaled, scaled, withZeros, ← List.append_assoc, wholeValue_append_zeros]
  ring

end Numeral

/-- A text that is written for a value that fits is read exactly if its digits fit as well. -/
theorem parse_of_isWritten {input : String} {numeral : Numeral}
    (written : IsWritten (trimmed input.toList) numeral) (small : numeral.nanos.natAbs < bound) :
    parse input = if numeral.scaled < bound then .ok ⟨numeral.nanos⟩ else .error ⟨input⟩ := by
  by_cases fits : numeral.scaled < bound
  · rw [if_pos fits]
    exact parse_eq_ok_iff.mpr ⟨numeral, written, fits, small, rfl⟩
  · rw [if_neg fits]
    cases parsed : parse input with
    | ok quantity =>
        obtain ⟨read, readWritten, readFits, _, _⟩ := parse_eq_ok_iff.mp parsed
        rw [readWritten.unique written] at readFits
        exact absurd readFits fits
    | error failure => rw [parse_eq_error parsed]

theorem lt_bound_iff {magnitude : Nat} : magnitude < bound ↔ magnitude ≤ 2 ^ 127 - 1 := by
  have power : bound = 2 ^ 127 := rfl
  rw [power]
  omega

/-- A text that is written for a value that a quantity can hold is read as that value, if its digits
as one whole number and times the power of two of its suffix are no larger than a quantity can be,
and is refused otherwise. Zeros at the end of the fraction make that number larger and leave the
value as it is. -/
theorem reads_value_of_small_digits {input : String} {numeral : Numeral}
    (written : IsWritten (trimmed input.toList) numeral)
    (representable : numeral.nanos.natAbs ≤ 2 ^ 127 - 1) :
    (parse input =
      if wholeValue (numeral.whole ++ numeral.fraction) * 2 ^ numeral.scale.twos ≤ 2 ^ 127 - 1 then
        .ok ⟨numeral.nanos⟩
      else .error ⟨input⟩) ∧
    ∀ count zeroed, IsWritten (trimmed zeroed.toList) (numeral.withZeros count) →
      parse zeroed =
        if wholeValue (numeral.whole ++ numeral.fraction) * 2 ^ numeral.scale.twos * 10 ^ count ≤
            2 ^ 127 - 1 then
          .ok ⟨numeral.nanos⟩
        else .error ⟨zeroed⟩ := by
  have small := lt_bound_iff.mpr representable
  constructor
  · simp only [← lt_bound_iff]
    exact parse_of_isWritten written small
  · intro count zeroed zeroedWritten
    have sameValue := numeral.nanos_withZeros count
    have read := parse_of_isWritten zeroedWritten (sameValue ▸ small)
    rw [sameValue, Numeral.scaled_withZeros] at read
    simp only [← lt_bound_iff]
    exact read

/-- A tenth is read, and is refused if it is written with so many zeros that the digits exceed what a
quantity can hold. -/
theorem reads_value_tenth :
    IsWritten (trimmed "0.1".toList) ⟨false, ['0'], ['1'], ⟨0, 0⟩⟩ ∧
      parse "0.1" = .ok ⟨100000000⟩ ∧
      parse "0.1000000000000000000000000000000000000000" =
        .error ⟨"0.1000000000000000000000000000000000000000"⟩ := by
  have written : IsWritten (trimmed "0.1".toList) ⟨false, ['0'], ['1'], ⟨0, 0⟩⟩ :=
    isWritten_of_read? (by decide +kernel)
  have value : Numeral.nanos ⟨false, ['0'], ['1'], ⟨0, 0⟩⟩ = 100000000 := by decide +kernel
  obtain ⟨read, readZeroed⟩ := reads_value_of_small_digits written (by rw [value]; decide)
  have zeroedWritten : IsWritten (trimmed "0.1000000000000000000000000000000000000000".toList)
      (Numeral.withZeros ⟨false, ['0'], ['1'], ⟨0, 0⟩⟩ 39) :=
    isWritten_of_read? (by decide +kernel)
  rw [value, if_pos (by decide +kernel)] at read
  have refused := readZeroed 39 _ zeroedWritten
  rw [if_neg (by decide +kernel)] at refused
  exact ⟨written, read, refused⟩

/-- One is refused if it is written with 39 zeros after the point, though it is small. -/
theorem exists_representable_refused :
    ∃ input numeral, input.utf8ByteSize < 2 ^ 31 - 32 ∧
      IsWritten (trimmed input.toList) numeral ∧ numeral.nanos.natAbs ≤ 2 ^ 127 - 1 ∧
      parse input = .error ⟨input⟩ ∧ parse "1" = .ok ⟨numeral.nanos⟩ :=
  ⟨"1.000000000000000000000000000000000000000", ⟨false, ['1'], List.replicate 39 '0', ⟨0, 0⟩⟩,
    by decide, isWritten_of_read? (by decide +kernel), by decide +kernel, by decide +kernel,
    by decide +kernel⟩

end ClusterAudit.Quantity
