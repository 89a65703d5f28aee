import ClusterAudit.Proofs.Instant
import ClusterAudit.Proofs.Labels
import ClusterAudit.Proofs.Quantity.Value

/-!
Quantities as they are displayed. What is displayed is read back as the same quantity, except for
negative ones of less than one unit: their whole part is zero, which shows no sign, and so they are
displayed like their opposites.
-/

namespace ClusterAudit.Quantity

open Text

/-! ## Digits -/

theorem areDigits_digits (value : Nat) : AreDigits (digits value) :=
  fun _ => isDigit_of_mem_digits

theorem areDigits_paddedDigits (width value : Nat) : AreDigits (paddedDigits width value) :=
  fun _ => isDigit_of_mem_paddedDigits

theorem wholeValue_digits (value : Nat) : wholeValue (digits value) = value := by
  have same := (extendDigits?_eq_some_iff.mp (extendDigits?_digits value)).2
  rw [Nat.zero_mul, Nat.zero_add] at same
  exact same.symm

theorem wholeValue_paddedDigits (width value : Nat) :
    wholeValue (paddedDigits width value) = value :=
  (natOfDigits?_eq_some_iff.mp (natOfDigits?_paddedDigits width value)).2.2.symm

theorem withoutTrailingZeros_append_zeros (text : List Char) :
    ∃ count, withoutTrailingZeros text ++ List.replicate count '0' = text := by
  have zeros : ∀ character ∈ text.reverse.takeWhile (· == '0'), character = '0' :=
    fun character member => by simpa using List.mem_takeWhile_imp (p := (· == '0')) member
  have joined : text.reverse.takeWhile (· == '0') ++ text.reverse.dropWhile (· == '0') =
      text.reverse := List.takeWhile_append_dropWhile
  refine ⟨(text.reverse.takeWhile (· == '0')).length, List.reverse_injective ?_⟩
  rw [List.reverse_append, List.reverse_replicate, ← List.eq_replicate_of_mem zeros,
    withoutTrailingZeros, List.reverse_reverse, joined]

/-! ## Displayed numerals -/

/-- The digits that are displayed after the point. There are none without a point. -/
def displayedFraction (magnitude : Nat) : List Char :=
  if magnitude % 1000000000 = 0 then []
  else withoutTrailingZeros (paddedDigits 9 (magnitude % 1000000000))

/-- What is displayed of a quantity. The sign is that of its whole part. -/
def displayed (quantity : Quantity) : Numeral where
  negative := decide (quantity.nanos ≤ -1000000000)
  whole := digits (quantity.nanos.natAbs / 1000000000)
  fraction := displayedFraction quantity.nanos.natAbs
  scale := ⟨0, 0⟩

/-- Nothing but zeros is left out of the nine places after the point. -/
theorem displayedFraction_append_zeros (magnitude : Nat) :
    ∃ count, displayedFraction magnitude ++ List.replicate count '0' =
      paddedDigits 9 (magnitude % 1000000000) := by
  rw [displayedFraction]
  by_cases whole : magnitude % 1000000000 = 0
  · rw [if_pos whole, whole]
    exact ⟨9, by decide +kernel⟩
  · rw [if_neg whole]
    exact withoutTrailingZeros_append_zeros _

theorem length_displayed_places (magnitude : Nat) :
    (paddedDigits 9 (magnitude % 1000000000)).length = 9 :=
  length_paddedDigits (by decide) (by omega)

theorem wholeValue_displayed_places (magnitude : Nat) :
    wholeValue (digits (magnitude / 1000000000) ++ paddedDigits 9 (magnitude % 1000000000)) =
      magnitude := by
  rw [wholeValue_append, wholeValue_digits, wholeValue_paddedDigits, length_displayed_places]
  omega

theorem amount_displayed (quantity : Quantity) :
    (displayed quantity).amount * 10 ^ 9 = quantity.nanos.natAbs := by
  obtain ⟨count, padded⟩ := displayedFraction_append_zeros quantity.nanos.natAbs
  rw [Numeral.amount, displayed, ← decimalValue_append_zeros _ _ count, padded, decimalValue_eq,
    wholeValue_displayed_places, length_displayed_places]
  simp

theorem scaled_displayed_le (quantity : Quantity) :
    (displayed quantity).scaled ≤ quantity.nanos.natAbs := by
  obtain ⟨count, padded⟩ := displayedFraction_append_zeros quantity.nanos.natAbs
  rw [Numeral.scaled, displayed]
  calc
    wholeValue (digits (quantity.nanos.natAbs / 1000000000) ++
          displayedFraction quantity.nanos.natAbs) * 2 ^ 0
        = wholeValue (digits (quantity.nanos.natAbs / 1000000000) ++
            displayedFraction quantity.nanos.natAbs) := by rw [Nat.pow_zero, Nat.mul_one]
    _ ≤ wholeValue (digits (quantity.nanos.natAbs / 1000000000) ++
          displayedFraction quantity.nanos.natAbs) * 10 ^ count :=
        Nat.le_mul_of_pos_right _ (Nat.pow_pos (by decide))
    _ = quantity.nanos.natAbs := by
        rw [← wholeValue_append_zeros, List.append_assoc, padded, wholeValue_displayed_places]

theorem areDigits_displayedFraction (magnitude : Nat) :
    AreDigits (displayedFraction magnitude) := by
  obtain ⟨count, padded⟩ := displayedFraction_append_zeros magnitude
  have digits := areDigits_paddedDigits 9 (magnitude % 1000000000)
  rw [← padded] at digits
  exact (areDigits_append_iff.mp digits).1

/-! ## Displayed texts -/

/-- A whole part keeps the sign only if it is not zero. -/
theorem toList_ofInt_tdiv (number : Int) :
    (ofInt (number.tdiv 1000000000)).toList =
      (if number ≤ -1000000000 then ['-'] else []) ++ digits (number.natAbs / 1000000000) := by
  have magnitude : (number.tdiv 1000000000).natAbs = number.natAbs / 1000000000 :=
    Int.natAbs_tdiv number 1000000000
  have sign : number.tdiv 1000000000 < 0 ↔ number ≤ -1000000000 := by
    obtain ⟨size, rfl | rfl⟩ := number.eq_nat_or_neg
    · have quotient : (size : Int).tdiv 1000000000 = (size / 1000000000 : Nat) := rfl
      rw [quotient]
      omega
    · have quotient : (-(size : Int)).tdiv 1000000000 = -(size / 1000000000 : Nat) :=
        Int.neg_tdiv size 1000000000
      rw [quotient]
      omega
  rw [ofInt, magnitude]
  by_cases negative : number ≤ -1000000000
  · rw [if_pos (sign.mpr negative), if_pos negative, String.toList_append, ofNat,
      String.toList_ofList, String.toList_ofList]
  · rw [if_neg (mt sign.mp negative), if_neg negative, ofNat, String.toList_ofList]
    rfl

theorem isNumber_displayed (magnitude : Nat) :
    IsNumber
      (digits (magnitude / 1000000000) ++
        if magnitude % 1000000000 = 0 then [] else '.' :: displayedFraction magnitude)
      (digits (magnitude / 1000000000)) (displayedFraction magnitude) := by
  have someDigit := digits_ne_nil (magnitude / 1000000000)
  have wholeDigits := areDigits_digits (magnitude / 1000000000)
  by_cases whole : magnitude % 1000000000 = 0
  · have noFraction : displayedFraction magnitude = [] := if_pos whole
    rw [if_pos whole, List.append_nil, noFraction]
    exact .whole someDigit wholeDigits
  · rw [if_neg whole]
    exact .pointed (by simp [someDigit]) wholeDigits (areDigits_displayedFraction magnitude)

theorem toList_display (quantity : Quantity) :
    (display quantity).toList =
      (if quantity.nanos ≤ -1000000000 then ['-'] else []) ++
        (digits (quantity.nanos.natAbs / 1000000000) ++
          if quantity.nanos.natAbs % 1000000000 = 0 then []
          else '.' :: displayedFraction quantity.nanos.natAbs) := by
  rw [display, ← List.append_assoc, ← toList_ofInt_tdiv]
  by_cases whole : quantity.nanos.natAbs % 1000000000 = 0
  · rw [if_pos whole, if_pos whole, List.append_nil]
  · rw [if_neg whole, if_neg whole, displayedFraction, if_neg whole]
    simp

theorem isBlank_of_mem_display {quantity : Quantity} {character : Char}
    (member : character ∈ (display quantity).toList) : isBlank character = false := by
  rw [toList_display, List.mem_append] at member
  rcases member with inSign | inNumber
  · by_cases negative : quantity.nanos ≤ -1000000000
    · rw [if_pos negative, List.mem_singleton] at inSign
      rw [inSign]
      decide
    · rw [if_neg negative] at inSign
      cases inSign
  · have part := (isNumber_displayed quantity.nanos.natAbs).isNumberPart character inNumber
    rw [isNumberPart, Bool.or_eq_true, beq_iff_eq] at part
    rcases part with digit | rfl
    · exact Instant.isBlank_of_isDigit digit
    · decide

theorem isWritten_display (quantity : Quantity) :
    IsWritten (trimmed (display quantity).toList) (displayed quantity) := by
  have sign : IsSign (if quantity.nanos ≤ -1000000000 then ['-'] else [])
      (decide (quantity.nanos ≤ -1000000000)) := by
    by_cases negative : quantity.nanos ≤ -1000000000
    · rw [if_pos negative, decide_eq_true negative]
      exact .minus
    · rw [if_neg negative, decide_eq_false negative]
      exact .absent
  have written := IsWritten.intro sign (isNumber_displayed quantity.nanos.natAbs) .absent
  rw [List.append_nil, ← toList_display] at written
  rw [trimmed_eq_self fun _ => isBlank_of_mem_display]
  exact written

/-! ## Reading what is displayed -/

/-- What the displayed text of a quantity stands for. -/
def redisplayed (quantity : Quantity) : Quantity :=
  if -1000000000 < quantity.nanos ∧ quantity.nanos < 0 then ⟨-quantity.nanos⟩ else quantity

theorem nanos_displayed (quantity : Quantity) :
    (displayed quantity).nanos = (redisplayed quantity).nanos := by
  rw [Numeral.nanos, amount_displayed, Nat.ceil_natCast]
  by_cases negative : quantity.nanos ≤ -1000000000
  · have shown : applySign (displayed quantity).negative quantity.nanos.natAbs =
        -(quantity.nanos.natAbs : Int) := by
      rw [displayed, decide_eq_true negative]
      rfl
    rw [shown, redisplayed, if_neg (by omega)]
    omega
  · have shown : applySign (displayed quantity).negative quantity.nanos.natAbs =
        quantity.nanos.natAbs := by
      rw [displayed, decide_eq_false negative]
      rfl
    rw [shown, redisplayed]
    split
    · change (quantity.nanos.natAbs : Int) = -quantity.nanos
      omega
    · omega

/-- A quantity is read back from what is displayed of it, but for a sign that is not shown. -/
theorem parse_display {quantity : Quantity} (small : quantity.nanos.natAbs < bound) :
    parse (display quantity) = .ok (redisplayed quantity) := by
  have magnitude : (displayed quantity).nanos.natAbs = quantity.nanos.natAbs := by
    rw [Numeral.natAbs_nanos, amount_displayed, Nat.ceil_natCast]
  refine parse_eq_ok_iff.mpr ⟨displayed quantity, isWritten_display quantity, ?_, ?_, ?_⟩
  · exact (scaled_displayed_le quantity).trans_lt small
  · rwa [magnitude]
  · rw [nanos_displayed]

/-- The quantities that texts are read as are the ones below the bound. -/
theorem natAbs_lt_of_parse {input : String} {quantity : Quantity}
    (parsed : parse input = .ok quantity) : quantity.nanos.natAbs < bound := by
  obtain ⟨numeral, _, _, small, rfl⟩ := parse_eq_ok_iff.mp parsed
  exact small

theorem display_redisplayed (quantity : Quantity) :
    display (redisplayed quantity) = display quantity := by
  rw [redisplayed]
  split
  · next small =>
      have positive : ¬ -quantity.nanos ≤ -1000000000 := by omega
      have negative : ¬ quantity.nanos ≤ -1000000000 := by omega
      rw [← String.toList_inj, toList_display, toList_display, Int.natAbs_neg, if_neg positive,
        if_neg negative]
  · rfl

/-- Quantities are displayed alike exactly if what is displayed stands for the same. -/
theorem display_eq_iff {left right : Quantity} (leftSmall : left.nanos.natAbs < bound)
    (rightSmall : right.nanos.natAbs < bound) :
    display left = display right ↔ redisplayed left = redisplayed right := by
  constructor
  · intro same
    have read := parse_display leftSmall
    rw [same, parse_display rightSmall] at read
    exact (Except.ok.inj read).symm
  · intro same
    rw [← display_redisplayed left, same, display_redisplayed]

theorem redisplayed_eq_iff {left right : Quantity} :
    redisplayed left = redisplayed right ↔
      left = right ∨ left.nanos = -right.nanos ∧ left.nanos.natAbs < 1000000000 := by
  obtain ⟨leftNanos⟩ := left
  obtain ⟨rightNanos⟩ := right
  simp only [redisplayed]
  split <;> split <;> simp only [mk.injEq] <;> omega

/-- A quantity that has been read is displayed so that it is read back, unless it is negative and
less than one unit: then its opposite is read. Two of them are displayed alike only if they are equal
or opposite and less than one unit. -/
theorem display_reads_back {input : String} {quantity : Quantity}
    (parsed : parse input = .ok quantity) :
    (parse (display quantity) =
      .ok (if -1000000000 < quantity.nanos ∧ quantity.nanos < 0 then ⟨-quantity.nanos⟩
        else quantity)) ∧
    ∀ otherInput other, parse otherInput = .ok other →
      (display quantity = display other ↔
        quantity = other ∨
          quantity.nanos = -other.nanos ∧ quantity.nanos.natAbs < 1000000000) := by
  have small := natAbs_lt_of_parse parsed
  refine ⟨parse_display small, fun otherInput other otherParsed => ?_⟩
  rw [display_eq_iff small (natAbs_lt_of_parse otherParsed), redisplayed_eq_iff]

/-- The least quantity there is, with nine places after the point, is read back, and is not displayed
like its opposite. -/
theorem display_reads_back_least :
    parse "-170141183460469231731687303715.884105727" =
        .ok ⟨-170141183460469231731687303715884105727⟩ ∧
      parse (display ⟨-170141183460469231731687303715884105727⟩) =
        .ok ⟨-170141183460469231731687303715884105727⟩ ∧
      display ⟨-170141183460469231731687303715884105727⟩ ≠
        display ⟨170141183460469231731687303715884105727⟩ := by
  have parsed : parse "-170141183460469231731687303715.884105727" =
      .ok ⟨-170141183460469231731687303715884105727⟩ := by decide +kernel
  have otherParsed : parse "170141183460469231731687303715.884105727" =
      .ok ⟨170141183460469231731687303715884105727⟩ := by decide +kernel
  obtain ⟨readBack, alike⟩ := display_reads_back parsed
  refine ⟨parsed, readBack, ?_⟩
  rw [ne_eq, alike _ _ otherParsed]
  decide

/-- Half a unit and its opposite are displayed alike, and the opposite is not read back. -/
theorem exists_display_without_sign :
    ∃ input quantity, parse input = .ok quantity ∧ parse (display quantity) ≠ .ok quantity ∧
      ∃ otherInput other, parse otherInput = .ok other ∧ display quantity = display other ∧
        quantity ≠ other :=
  ⟨"-0.5", ⟨-500000000⟩, by decide +kernel, by decide +kernel, "0.5", ⟨500000000⟩,
    by decide +kernel, by decide +kernel, by decide⟩

end ClusterAudit.Quantity
