import ClusterAudit.Instant
import ClusterAudit.Proofs.Text.Decimal

/-!
Instants are read back from their texts. The calendar is taken apart into centuries of 36524 days,
cycles of four years, years and days, where the last day of a leap year belongs to the year in March
that ends with it.
-/

namespace ClusterAudit.Instant

open Text

/-! ## Calendar -/

/-- A day of an era of 400 years, which start in March: the century, the cycle of four years in it,
the year in that and the day of the year, counted from zero. -/
structure EraParts (dayOfEra century cycle year day : Nat) : Prop where
  whole : dayOfEra = 36524 * century + 1461 * cycle + 365 * year + day
  century_le : century ≤ 3
  cycle_le : cycle ≤ 24
  year_le : year ≤ 3
  day_le : day ≤ 365
  leap : day = 365 → year = 3 ∧ (cycle = 24 → century = 3)

theorem exists_eraParts {dayOfEra : Nat} (inEra : dayOfEra < 146097) :
    ∃ century cycle year day, EraParts dayOfEra century cycle year day := by
  by_cases last : dayOfEra = 146096
  · exact ⟨3, 24, 3, 365, by omega, by omega, by omega, by omega, by omega, by omega⟩
  · by_cases fourth : dayOfEra % 36524 % 1461 / 365 = 4
    · exact ⟨dayOfEra / 36524, dayOfEra % 36524 / 1461, 3, 365,
        by omega, by omega, by omega, by omega, by omega, by omega⟩
    · exact ⟨dayOfEra / 36524, dayOfEra % 36524 / 1461, dayOfEra % 36524 % 1461 / 365,
        dayOfEra % 36524 % 1461 % 365,
        by omega, by omega, by omega, by omega, by omega, by omega⟩

theorem EraParts.yearOfEra {dayOfEra century cycle year day : Nat}
    (parts : EraParts dayOfEra century cycle year day) :
    (dayOfEra - dayOfEra / 1460 + dayOfEra / 36524 - dayOfEra / 146096) / 365 =
      100 * century + 4 * cycle + year := by
  obtain ⟨whole, century_le, cycle_le, year_le, day_le, leap⟩ := parts
  by_cases last : dayOfEra = 146096
  · omega
  · have noEra : dayOfEra / 146096 = 0 := by omega
    have centuries : dayOfEra / 36524 = century := by omega
    have cycles : dayOfEra / 1460 =
        25 * century + cycle + (24 * century + cycle + 365 * year + day) / 1460 := by omega
    omega

/-- The day of a year that starts in March. -/
def Day.ofYearDay (year : Int) (dayOfYear : Nat) : Day :=
  let monthFromMarch := (5 * dayOfYear + 2) / 153
  let month := if monthFromMarch < 10 then monthFromMarch + 3 else monthFromMarch - 9
  { year := if month ≤ 2 then year + 1 else year
    month
    day := dayOfYear - (153 * monthFromMarch + 2) / 5 + 1 }

theorem Day.ofNumber_eq (number : Int) :
    ∃ (era : Int) (century cycle year day : Nat),
      EraParts (number + 719468 - era * 146097).toNat century cycle year day ∧
      0 ≤ number + 719468 - era * 146097 ∧
      Day.ofNumber number =
        Day.ofYearDay ((100 * century + 4 * cycle + year : Nat) + era * 400) day := by
  have divided : (number + 719468).fdiv 146097 = (number + 719468) / 146097 :=
    Int.fdiv_eq_ediv_of_nonneg _ (by decide)
  have inEra : (number + 719468 - (number + 719468) / 146097 * 146097).toNat < 146097 := by omega
  obtain ⟨century, cycle, year, day, parts⟩ := exists_eraParts inEra
  refine ⟨(number + 719468) / 146097, century, cycle, year, day, parts, by omega, ?_⟩
  have dayOfYear : (number + 719468 - (number + 719468) / 146097 * 146097).toNat -
      (365 * (100 * century + 4 * cycle + year) + (100 * century + 4 * cycle + year) / 4 -
        (100 * century + 4 * cycle + year) / 100) = day := by
    obtain ⟨whole, century_le, cycle_le, year_le, day_le, leap⟩ := parts
    have fourths : (100 * century + 4 * cycle + year) / 4 = 25 * century + cycle := by omega
    have hundredths : (100 * century + 4 * cycle + year) / 100 = century := by omega
    omega
  simp only [Day.ofNumber, divided, parts.yearOfEra, dayOfYear]
  rfl

theorem Day.number_ofYearDay {era : Int} {year dayOfYear : Nat} (inEra : year < 400)
    (inYear : dayOfYear ≤ 365) :
    (Day.ofYearDay (year + era * 400) dayOfYear).number =
      era * 146097 + (year * 365 + year / 4 - year / 100 + dayOfYear) - 719468 := by
  obtain ⟨month, same⟩ : ∃ month, (5 * dayOfYear + 2) / 153 = month := ⟨_, rfl⟩
  have divided : (year + era * 400 : Int).fdiv 400 = era := by
    rw [Int.fdiv_eq_ediv_of_nonneg _ (by decide)]
    omega
  -- The first ten months counted from March keep their year, January and February have the next one.
  by_cases early : month < 10
  · have later : ¬ month + 3 ≤ 2 := by omega
    have fromMarch : (month + 3 + 9) % 12 = month := by omega
    simp only [Day.number, Day.ofYearDay, same, early, later, if_true, if_false, divided,
      fromMarch]
    omega
  · have within : month - 9 ≤ 2 := by omega
    have fromMarch : (month - 9 + 9) % 12 = month := by omega
    have shifted : (year + era * 400 : Int) + 1 - 1 = year + era * 400 := by omega
    simp only [Day.number, Day.ofYearDay, same, early, within, if_true, if_false, shifted,
      divided, fromMarch]
    omega

theorem Day.number_ofNumber (number : Int) : (Day.ofNumber number).number = number := by
  obtain ⟨era, century, cycle, year, day, parts, positive, same⟩ := Day.ofNumber_eq number
  obtain ⟨whole, century_le, cycle_le, year_le, day_le, leap⟩ := parts
  rw [same, Day.number_ofYearDay (by omega) day_le]
  omega

theorem Day.isValid_ofYearDay {year : Int} {dayOfYear : Nat} (inYear : dayOfYear ≤ 365)
    (leap : dayOfYear = 365 → isLeapYear (year + 1) = true) :
    (Day.ofYearDay year dayOfYear).isValid = true := by
  have months : ∃ month, (5 * dayOfYear + 2) / 153 = month ∧ month ≤ 11 :=
    ⟨_, rfl, by omega⟩
  obtain ⟨month, same, month_le⟩ := months
  have lengths : ∀ year : Int, 28 ≤ daysInMonth year 2 := by
    intro year
    cases leapYear : isLeapYear year <;> simp [daysInMonth, leapYear]
  by_cases february : month = 11
  · subst february
    simp only [Day.isValid, Day.ofYearDay, same]
    by_cases last : dayOfYear = 365
    · subst last
      simp [daysInMonth, leap rfl]
    · have atLeast := lengths (year + 1)
      simp
      omega
  · have cases : month = 0 ∨ month = 1 ∨ month = 2 ∨ month = 3 ∨ month = 4 ∨ month = 5 ∨
        month = 6 ∨ month = 7 ∨ month = 8 ∨ month = 9 ∨ month = 10 := by omega
    -- Months differ in their lengths, so that each is checked by itself.
    rcases cases with rfl | rfl | rfl | rfl | rfl | rfl | rfl | rfl | rfl | rfl | rfl <;>
      simp [Day.isValid, Day.ofYearDay, same, daysInMonth] <;> omega

theorem Day.isValid_ofNumber (number : Int) : (Day.ofNumber number).isValid = true := by
  obtain ⟨era, century, cycle, year, day, parts, positive, same⟩ := Day.ofNumber_eq number
  obtain ⟨whole, century_le, cycle_le, year_le, day_le, leap⟩ := parts
  rw [same]
  apply Day.isValid_ofYearDay day_le
  intro last
  obtain ⟨yearLast, centuryLast⟩ := leap last
  simp only [isLeapYear, Bool.and_eq_true, Bool.or_eq_true, beq_iff_eq, bne_iff_ne]
  refine ⟨by omega, ?_⟩
  by_cases cycleLast : cycle = 24
  · have lastCentury := centuryLast cycleLast
    omega
  · omega

/-! ## Parts of a text -/

theorem isBlank_of_isDigit {character : Char} (digit : isDigit character = true) :
    isBlank character = false := by
  simp only [isDigit, Bool.and_eq_true, decide_eq_true_eq] at digit
  have lower : '0'.toNat ≤ character.toNat := digit.1
  have upper : character.toNat ≤ '9'.toNat := digit.2
  have zero : '0'.toNat = 48 := by decide
  have nine : '9'.toNat = 57 := by decide
  simp only [isBlank, Bool.or_eq_false_iff, Bool.and_eq_false_iff, decide_eq_false_iff_not,
    beq_eq_false_iff_ne]
  omega

theorem trimStart_cons_of_not_blank {character : Char} {rest : List Char}
    (solid : isBlank character = false) : trimStart (character :: rest) = character :: rest := by
  simp [trimStart, solid]

/-- A number is padded by digits, the first of which is no blank. -/
theorem exists_paddedDigits_eq_cons (width value : Nat) :
    ∃ first rest, paddedDigits width value = first :: rest ∧ isDigit first = true := by
  cases written : paddedDigits width value with
  | nil => exact absurd written (paddedDigits_ne_nil width value)
  | cons first rest =>
      refine ⟨first, rest, rfl, ?_⟩
      apply isDigit_of_mem_paddedDigits
      rw [written]
      exact List.mem_cons_self

theorem readDigits?_paddedDigits {most width value : Nat} {rest : List Char}
    (fits : (paddedDigits width value).length ≤ most)
    (stops : (paddedDigits width value).length = most ∨
      ∀ first ∈ rest.head?, isDigit first = false) :
    readDigits? most (paddedDigits width value ++ rest) = some (value, rest) := by
  have allDigits : ∀ character ∈ paddedDigits width value, isDigit character = true := by
    intro character member
    exact isDigit_of_mem_paddedDigits member
  have nothingMore :
      (rest.take (most - (paddedDigits width value).length)).takeWhile isDigit = [] := by
    rcases stops with full | ended
    · rw [full, Nat.sub_self, List.take_zero, List.takeWhile_nil]
    · cases rest with
      | nil => simp
      | cons first others =>
          have noDigit := ended first rfl
          cases most - (paddedDigits width value).length with
          | zero => rfl
          | succ count => simp [noDigit]
  have written : ((paddedDigits width value ++ rest).take most).takeWhile isDigit =
      paddedDigits width value := by
    rw [List.take_append, List.take_of_length_le fits, List.takeWhile_append_of_pos allDigits,
      nothingMore, List.append_nil]
  simp only [readDigits?, written, natOfDigits?_paddedDigits, Option.map_some,
    List.drop_left]

theorem trimStart_paddedDigits (width value : Nat) (rest : List Char) :
    trimStart (paddedDigits width value ++ rest) = paddedDigits width value ++ rest := by
  obtain ⟨first, others, written, digit⟩ := exists_paddedDigits_eq_cons width value
  rw [written, List.cons_append]
  exact trimStart_cons_of_not_blank (isBlank_of_isDigit digit)

theorem readNumber?_paddedDigits {value : Nat} (small : value < 100) (rest : List Char) :
    readNumber? 2 (paddedDigits 2 value ++ rest) = some (value, rest) := by
  have full : (paddedDigits 2 value).length = 2 := length_paddedDigits (by decide) small
  rw [readNumber?, trimStart_paddedDigits]
  exact readDigits?_paddedDigits (by omega) (Or.inl full)

theorem readAfter?_paddedDigits {separator : Char} (solid : isBlank separator = false)
    {value : Nat} (small : value < 100) (rest : List Char) :
    readAfter? separator (separator :: (paddedDigits 2 value ++ rest)) = some (value, rest) := by
  simp only [readAfter?, trimStart_cons_of_not_blank solid, if_true]
  exact readNumber?_paddedDigits small rest

/-- A year is read back, if a dash follows it. -/
theorem readYear?_yearText (year : Int) (rest : List Char) :
    readYear? (yearText year ++ '-' :: rest) = some (year, '-' :: rest) := by
  have dash : isDigit '-' = false := by decide
  have ends : ∀ first ∈ ('-' :: rest).head?, isDigit first = false := by
    intro first same
    rw [← Option.some.inj same]
    exact dash
  by_cases plain : 0 ≤ year ∧ year ≤ 9999
  · have small : year.natAbs < 10 ^ 4 := by omega
    have full : (paddedDigits 4 year.natAbs).length = 4 := length_paddedDigits (by decide) small
    have positive : (year.natAbs : Int) = year := by omega
    rw [yearText, if_pos plain, readYear?, trimStart_paddedDigits]
    have read : readDigits? 4 (paddedDigits 4 year.natAbs ++ '-' :: rest) =
        some (year.natAbs, '-' :: rest) :=
      readDigits?_paddedDigits (by omega) (Or.inl full)
    obtain ⟨first, others, written, digit⟩ := exists_paddedDigits_eq_cons 4 year.natAbs
    rw [written, List.cons_append] at read ⊢
    have noMinus : first ≠ '-' := by
      intro same
      rw [same] at digit
      cases digit
    have noPlus : first ≠ '+' := by
      intro same
      rw [same] at digit
      cases digit
    simp [noMinus, noPlus, read, positive]
  · have read : readDigits? (paddedDigits 4 year.natAbs ++ '-' :: rest).length
        (paddedDigits 4 year.natAbs ++ '-' :: rest) = some (year.natAbs, '-' :: rest) :=
      readDigits?_paddedDigits (by simp) (Or.inr ends)
    by_cases negative : year < 0
    · have minus : isBlank '-' = false := by decide
      have value : -(year.natAbs : Int) = year := by omega
      rw [yearText, if_neg plain, if_pos negative, List.cons_append, readYear?,
        trimStart_cons_of_not_blank minus]
      simp only [read, Option.map_some, value]
    · have plus : isBlank '+' = false := by decide
      have value : (year.natAbs : Int) = year := by omega
      rw [yearText, if_neg plain, if_neg negative, List.cons_append, readYear?,
        trimStart_cons_of_not_blank plus]
      simp only [read, Option.map_some, value]

theorem readFraction?_point {width value : Nat} (filled : 0 < width) (within : width ≤ 9)
    (small : value < 10 ^ width) (rest : List Char)
    (ends : ∀ first ∈ rest.head?, isDigit first = false) :
    readFraction? ('.' :: (paddedDigits width value ++ rest)) =
      some (value * 10 ^ (9 - width), rest) := by
  have full := length_paddedDigits filled small
  have allDigits : ∀ character ∈ paddedDigits width value, isDigit character = true := by
    intro character member
    exact isDigit_of_mem_paddedDigits member
  have noneTaken : rest.takeWhile isDigit = [] := by
    cases rest with
    | nil => rfl
    | cons first others => simp [ends first rfl]
  have noneDropped : rest.dropWhile isDigit = rest := by
    cases rest with
    | nil => rfl
    | cons first others => simp [ends first rfl]
  have kept : (paddedDigits width value).take 9 = paddedDigits width value := by
    apply List.take_of_length_le
    omega
  simp only [readFraction?, List.takeWhile_append_of_pos allDigits, noneTaken, List.append_nil,
    List.dropWhile_append_of_pos allDigits, noneDropped, kept, natOfDigits?_paddedDigits,
    Option.map_some, full]
  rfl

/-- A fraction of a second is read back, if no digit follows it. -/
theorem readFraction?_fractionText {nanos : Nat} (small : nanos < 1000000000)
    {first : Char} {rest : List Char} (noDigit : isDigit first = false) (noPoint : first ≠ '.') :
    readFraction? (fractionText nanos ++ first :: rest) = some (nanos, first :: rest) := by
  have ends : ∀ character ∈ (first :: rest).head?, isDigit character = false := by
    intro character same
    rw [← Option.some.inj same]
    exact noDigit
  by_cases none : nanos = 0
  · subst none
    simp [fractionText, readFraction?, noPoint]
  · by_cases milli : nanos % 1000000 = 0
    · have value : nanos / 1000000 * 10 ^ (9 - 3) = nanos := by omega
      have read := readFraction?_point (by decide) (by decide)
        (by omega : nanos / 1000000 < 10 ^ 3) (first :: rest) ends
      rw [value] at read
      simpa [fractionText, none, milli] using read
    · by_cases micro : nanos % 1000 = 0
      · have value : nanos / 1000 * 10 ^ (9 - 6) = nanos := by omega
        have read := readFraction?_point (by decide) (by decide)
          (by omega : nanos / 1000 < 10 ^ 6) (first :: rest) ends
        rw [value] at read
        simpa [fractionText, none, milli, micro] using read
      · have value : nanos * 10 ^ (9 - 9) = nanos := by omega
        have read := readFraction?_point (by decide) (by decide)
          (by omega : nanos < 10 ^ 9) (first :: rest) ends
        rw [value] at read
        simpa [fractionText, none, milli, micro] using read

/-! ## Instants -/

theorem Day.small_of_isValid {date : Day} (valid : date.isValid = true) :
    date.month < 100 ∧ date.day < 100 := by
  simp only [Day.isValid, Bool.and_eq_true, decide_eq_true_eq] at valid
  have longest : daysInMonth date.year date.month ≤ 31 := by
    rw [daysInMonth]
    repeat' split
    all_goals omega
  omega

/-- The text of a date and a time of day in universal time is read back. -/
theorem read?_civilText {date : Day} (valid : date.isValid = true) {hour minute second nanos : Nat}
    (hourSmall : hour < 24) (minuteSmall : minute < 60) (secondSmall : second ≤ 60)
    (nanosSmall : nanos < 1000000000)
    (named : isNamed (date.number * 86400 +
      (hour * 3600 + minute * 60 + ((if second = 60 then 59 else second : Nat) : Int))) = true) :
    read? (yearText date.year ++ '-' :: (paddedDigits 2 date.month ++ '-' ::
      (paddedDigits 2 date.day ++ 'T' :: (paddedDigits 2 hour ++ ':' ::
        (paddedDigits 2 minute ++ ':' :: (paddedDigits 2 second ++
          (fractionText nanos ++ ['Z']))))))) =
      some {
        seconds := date.number * 86400 +
          (hour * 3600 + minute * 60 + ((if second = 60 then 59 else second : Nat) : Int))
        nanos := if second = 60 then nanos + 1000000000 else nanos } := by
  obtain ⟨monthSmall, daySmall⟩ := Day.small_of_isValid valid
  have dash : isBlank '-' = false := by decide
  have colon : isBlank ':' = false := by decide
  have zone : readOffset? (trimStart ['Z']) = some (0, []) := by decide
  have nothing : trimStart [] = [] := rfl
  simp only [read?, readYear?_yearText, Option.bind_eq_bind, Option.bind_some,
    readAfter?_paddedDigits dash monthSmall, readAfter?_paddedDigits dash daySmall,
    readNumber?_paddedDigits (Nat.lt_trans hourSmall (by decide)),
    readAfter?_paddedDigits colon (Nat.lt_trans minuteSmall (by decide)),
    readAfter?_paddedDigits colon (Nat.lt_of_le_of_lt secondSmall (by decide)),
    readFraction?_fractionText nanosSmall (by decide : isDigit 'Z' = false) (by decide), zone, nothing,
    List.isEmpty_nil, valid, hourSmall, minuteSmall, secondSmall, beq_iff_eq, Int.sub_zero, named]
  simp
/-- An instant that has a text: its day can be named, and its nanoseconds lie in its second, or in
the leap second at the end of a minute. -/
structure IsCivil (instant : Instant) : Prop where
  named : isNamed instant.seconds = true
  nanos :
    instant.nanos < 1000000000 ∨
      (instant.nanos < 2000000000 ∧ instant.seconds % 60 = 59)

theorem ofText?_toText {instant : Instant} (civil : instant.IsCivil) :
    ofText? instant.toText = some instant := by
  obtain ⟨seconds, nanos⟩ := instant
  have named : isNamed seconds = true := civil.named
  have within : nanos < 1000000000 ∨ (nanos < 2000000000 ∧ seconds % 60 = 59) := civil.nanos
  have divided : seconds.fdiv 86400 = seconds / 86400 :=
    Int.fdiv_eq_ediv_of_nonneg _ (by decide)
  have valid := Day.isValid_ofNumber (seconds / 86400)
  have numbered := Day.number_ofNumber (seconds / 86400)
  obtain ⟨ofDay, isOfDay⟩ : ∃ ofDay, (seconds - seconds / 86400 * 86400).toNat = ofDay := ⟨_, rfl⟩
  have positive : (ofDay : Int) = seconds - seconds / 86400 * 86400 := by omega
  obtain ⟨second, isSecond⟩ : ∃ second,
      ofDay % 60 + (if isLeap { seconds, nanos } then 1 else 0) = second := ⟨_, rfl⟩
  have leap : (second = 60 ↔ 1000000000 ≤ nanos) ∧ second ≤ 60 ∧
      (if second = 60 then 59 else second) = ofDay % 60 := by
    by_cases late : 1000000000 ≤ nanos
    · have isLate : isLeap { seconds, nanos } = true := decide_eq_true late
      rw [isLate, if_pos rfl] at isSecond
      have atEnd : second = 60 := by omega
      rw [if_pos atEnd]
      omega
    · have isEarly : isLeap { seconds, nanos } = false := decide_eq_false late
      rw [isEarly, if_neg Bool.false_ne_true] at isSecond
      have notEnd : second ≠ 60 := by omega
      rw [if_neg notEnd]
      omega
  obtain ⟨leapSecond, secondSmall, plainSecond⟩ := leap
  have wholeSecond : (Day.ofNumber (seconds / 86400)).number * 86400 +
      ((ofDay / 3600 : Nat) * 3600 + (ofDay / 60 % 60 : Nat) * 60 +
        ((if second = 60 then 59 else second : Nat) : Int)) = seconds := by
    rw [plainSecond, numbered]
    omega
  have read := read?_civilText valid
    (by omega : ofDay / 3600 < 24) (by omega : ofDay / 60 % 60 < 60) secondSmall
    (Nat.mod_lt nanos (by decide : 1000000000 > 0)) (by rw [wholeSecond]; exact named)
  have wholeNanos : (if second = 60 then nanos % 1000000000 + 1000000000
      else nanos % 1000000000) = nanos := by
    by_cases late : second = 60
    · rw [if_pos late]
      omega
    · rw [if_neg late]
      omega
  rw [wholeSecond, wholeNanos] at read
  simp only [ofText?, toText, localText, civilText, String.toList_ofList, divided, isOfDay,
    isSecond, List.append_assoc, List.cons_append]
  exact read

/-! ## Instants that were read -/

theorem seconds_of_readOffset? {text rest : List Char} {offset : Int}
    (read : readOffset? text = some (offset, rest)) : offset % 60 = 0 := by
  have ofTime : ∀ {text rest : List Char} {offset : Int},
      readOffsetTime? text = some (offset, rest) → offset % 60 = 0 := by
    intro text rest offset read
    simp only [readOffsetTime?, Option.bind_eq_bind, Option.bind_eq_some_iff] at read
    obtain ⟨⟨hours, afterHours⟩, _, ⟨minutes, afterMinutes⟩, _, read⟩ := read
    split at read
    · cases read
      omega
    · cases read
  unfold readOffset? at read
  split at read
  · cases read
    rfl
  · cases read
    rfl
  · exact ofTime read
  · obtain ⟨⟨written, after⟩, readTime, same⟩ := Option.map_eq_some_iff.mp read
    have whole := ofTime readTime
    cases same
    omega
  · obtain ⟨⟨written, after⟩, readTime, same⟩ := Option.map_eq_some_iff.mp read
    have whole := ofTime readTime
    cases same
    omega
  · split at read
    · cases read
      rfl
    · cases read

theorem nanos_of_readFraction? {text rest : List Char} {nanos : Nat}
    (read : readFraction? text = some (nanos, rest)) : nanos < 1000000000 := by
  unfold readFraction? at read
  split at read
  · obtain ⟨value, written, same⟩ := Option.map_eq_some_iff.mp read
    have bound := natOfDigits?_lt written
    rename_i digits
    have short : ((digits.takeWhile isDigit).take 9).length ≤ 9 := by
      rw [List.length_take]
      omega
    cases same
    calc
      value * 10 ^ (9 - ((digits.takeWhile isDigit).take 9).length)
          < 10 ^ ((digits.takeWhile isDigit).take 9).length *
              10 ^ (9 - ((digits.takeWhile isDigit).take 9).length) :=
        Nat.mul_lt_mul_of_pos_right bound (Nat.pow_pos (by decide))
      _ = 10 ^ 9 := by
        rw [← Nat.pow_add]
        congr 1
        omega
  · cases read
    decide

theorem isCivil_of_parts {number offset : Int} {hour minute second nanos : Nat}
    (small : nanos < 1000000000) (whole : offset % 60 = 0)
    (named : isNamed (number * 86400 +
      (hour * 3600 + minute * 60 + ((if (second == 60) = true then 59 else second : Nat) : Int)) -
        offset) = true) :
    IsCivil {
      seconds := number * 86400 +
        (hour * 3600 + minute * 60 +
          ((if (second == 60) = true then 59 else second : Nat) : Int)) - offset
      nanos := if (second == 60) = true then nanos + 1000000000 else nanos } where
  named := named
  nanos := by
    by_cases leap : second = 60
    · right
      simp only [leap, beq_self_eq_true, if_true]
      omega
    · left
      simp only [beq_eq_false_iff_ne.mpr leap, Bool.false_eq_true, if_false]
      exact small

theorem isCivil_of_ofText? {text : String} {instant : Instant}
    (read : ofText? text = some instant) : instant.IsCivil := by
  simp only [ofText?, read?, Option.bind_eq_bind, Option.bind_eq_some_iff] at read
  obtain ⟨⟨year, afterYear⟩, _, ⟨month, afterMonth⟩, _, ⟨day, afterDay⟩, _, read⟩ := read
  -- Whichever letter parts date and time, what follows it is read in the same way.
  split at read <;> simp only [Option.bind_eq_some_iff] at read <;>
    obtain ⟨timeText, _, ⟨hour, afterHour⟩, _, ⟨minute, afterMinute⟩, _, ⟨second, afterSecond⟩, _,
      ⟨nanos, afterNanos⟩, readNanos, ⟨offset, afterOffset⟩, readOffset, read⟩ := read
  all_goals
    have small := nanos_of_readFraction? readNanos
    have whole := seconds_of_readOffset? readOffset
    simp only [Option.ite_none_right_eq_some, Bool.and_eq_true, Option.some.injEq] at read
    obtain ⟨checked, rfl⟩ := read
    exact isCivil_of_parts small whole checked.2

/-! ## Whole seconds -/

theorem inSeconds_inSeconds (instant : Instant) :
    instant.inSeconds.inSeconds = instant.inSeconds := by
  by_cases leap : 1000000000 ≤ instant.nanos <;> simp [inSeconds, isLeap, leap]

theorem IsCivil.inSeconds {instant : Instant} (civil : instant.IsCivil) :
    instant.inSeconds.IsCivil where
  named := civil.named
  nanos := by
    have within := civil.nanos
    by_cases leap : 1000000000 ≤ instant.nanos
    · right
      have atEnd : instant.seconds % 60 = 59 := by omega
      simpa [Instant.inSeconds, isLeap, leap] using atEnd
    · left
      simp [Instant.inSeconds, isLeap, leap]

end ClusterAudit.Instant
