import ClusterAudit.Quantity
import ClusterAudit.Proofs.Text.Mark
import ClusterAudit.Proofs.Text.Value

/-!
How quantities are written: an optional sign, a decimal number and a suffix. Reading a text finds
the numeral that the text is written for, and fails exactly if there is none. No text is written for
two numerals.
-/

namespace ClusterAudit.Quantity

open Text

/-! ## Grammar -/

/-- A decimal number, with the digits before and after its point. There is at least one digit. -/
inductive IsNumber : List Char → List Char → List Char → Prop
  | whole {digits : List Char} :
      digits ≠ [] → AreDigits digits → IsNumber digits digits []
  | pointed {whole fraction : List Char} :
      whole ++ fraction ≠ [] → AreDigits whole → AreDigits fraction →
        IsNumber (whole ++ '.' :: fraction) whole fraction

/-- The letters for powers of ten. -/
def decimalLetters : List (Char × Int) :=
  [('n', -9), ('u', -6), ('m', -3), ('k', 3), ('M', 6), ('G', 9), ('T', 12), ('P', 15), ('E', 18)]

/-- The letters for powers of two, which stand before an `i`. -/
def binaryLetters : List (Char × Nat) :=
  [('K', 10), ('M', 20), ('G', 30), ('T', 40), ('P', 50), ('E', 60)]

/-- What may follow the number, and the scale it stands for. -/
inductive IsSuffix : List Char → Scale → Prop
  | absent : IsSuffix [] ⟨0, 0⟩
  | decimal {letter : Char} {tens : Int} :
      (letter, tens) ∈ decimalLetters → IsSuffix [letter] ⟨tens, 0⟩
  | binary {letter : Char} {twos : Nat} :
      (letter, twos) ∈ binaryLetters → IsSuffix [letter, 'i'] ⟨0, twos⟩
  | exponent {mark : Char} {text : List Char} {tens : Int} :
      mark = 'e' ∨ mark = 'E' → IsInteger text tens → -18 ≤ tens → tens ≤ 18 →
        IsSuffix (mark :: text) ⟨tens, 0⟩

/-- The texts that a numeral may be written as. -/
inductive IsWritten : List Char → Numeral → Prop
  | intro {sign number suffix whole fraction : List Char} {negative : Bool} {scale : Scale} :
      IsSign sign negative → IsNumber number whole fraction → IsSuffix suffix scale →
        IsWritten (sign ++ (number ++ suffix)) { negative, whole, fraction, scale }

theorem IsNumber.areDigits {number whole fraction : List Char}
    (isNumber : IsNumber number whole fraction) : AreDigits (whole ++ fraction) := by
  cases isNumber with
  | whole filled digits => rwa [List.append_nil]
  | pointed filled wholeDigits fractionDigits =>
      exact areDigits_append_iff.mpr ⟨wholeDigits, fractionDigits⟩

theorem IsWritten.areDigits {text : List Char} {numeral : Numeral}
    (written : IsWritten text numeral) : AreDigits (numeral.whole ++ numeral.fraction) := by
  cases written with
  | intro isSign isNumber isSuffix => exact isNumber.areDigits

/-! ## Suffixes -/

theorem isSuffix_of_ofExponent? {mark : Char} {text : List Char} {scale : Scale}
    (isMark : mark = 'e' ∨ mark = 'E') (read : Scale.ofExponent? text = some scale) :
    IsSuffix (mark :: text) scale := by
  obtain ⟨tens, integer, kept⟩ := Option.bind_eq_some_iff.mp read
  by_cases between : -18 ≤ tens ∧ tens ≤ 18
  · rw [if_pos between] at kept
    cases kept
    exact .exponent isMark (signed?_eq_some_iff.mp integer) between.1 between.2
  · rw [if_neg between] at kept
    cases kept

theorem isSuffix_of_ofSuffix? {text : List Char} {scale : Scale}
    (read : Scale.ofSuffix? text = some scale) : IsSuffix text scale := by
  unfold Scale.ofSuffix? at read
  split at read
  · cases read
    exact .absent
  iterate 9
    · cases read
      exact .decimal (by decide)
  iterate 6
    · cases read
      exact .binary (by decide)
  · exact isSuffix_of_ofExponent? (.inl rfl) read
  · exact isSuffix_of_ofExponent? (.inr rfl) read
  · cases read

/-- A whole number starts with a sign or a digit, and so is no rest of a letter's suffix. -/
theorem ofSuffix?_of_isInteger {mark : Char} {text : List Char} {tens : Int}
    (isMark : mark = 'e' ∨ mark = 'E') (integer : IsInteger text tens) :
    Scale.ofSuffix? (mark :: text) = Scale.ofExponent? text := by
  have filled : text ≠ [] := by
    rintro rfl
    cases signed?_of_isInteger integer
  have noLetter : text ≠ ['i'] := by
    rintro rfl
    cases signed?_of_isInteger integer
  rcases isMark with rfl | rfl
  · rfl
  · unfold Scale.ofSuffix?
    split <;> simp_all

theorem ofSuffix?_of_isSuffix {text : List Char} {scale : Scale} (suffix : IsSuffix text scale) :
    Scale.ofSuffix? text = some scale := by
  cases suffix with
  | absent => rfl
  | @decimal letter tens member =>
      have all : ∀ entry ∈ decimalLetters,
          Scale.ofSuffix? [entry.1] = some ⟨entry.2, 0⟩ := by decide
      exact all (letter, tens) member
  | @binary letter twos member =>
      have all : ∀ entry ∈ binaryLetters,
          Scale.ofSuffix? [entry.1, 'i'] = some ⟨0, entry.2⟩ := by decide
      exact all (letter, twos) member
  | exponent isMark integer least most =>
      rw [ofSuffix?_of_isInteger isMark integer, Scale.ofExponent?, signed?_of_isInteger integer,
        Option.bind_some, if_pos ⟨least, most⟩]

/-- No suffix starts with a character of a number. -/
theorem IsSuffix.isNumberPart_head {text : List Char} {scale : Scale}
    (suffix : IsSuffix text scale) : ∀ first ∈ text.head?, isNumberPart first = false := by
  cases suffix with
  | absent => simp
  | @decimal letter tens member =>
      have all : ∀ entry ∈ decimalLetters, isNumberPart entry.1 = false := by decide
      simpa using all (letter, tens) member
  | @binary letter twos member =>
      have all : ∀ entry ∈ binaryLetters, isNumberPart entry.1 = false := by decide
      simpa using all (letter, twos) member
  | exponent isMark integer least most =>
      rcases isMark with rfl | rfl <;> simp <;> decide

/-- No suffix stands for a large scale. -/
theorem IsSuffix.bounds {text : List Char} {scale : Scale} (suffix : IsSuffix text scale) :
    -18 ≤ scale.tens ∧ scale.tens ≤ 18 ∧ scale.twos ≤ 60 := by
  cases suffix with
  | absent => decide
  | @decimal letter tens member =>
      have all : ∀ entry ∈ decimalLetters, -18 ≤ entry.2 ∧ entry.2 ≤ 18 := by decide
      obtain ⟨least, most⟩ := all (letter, tens) member
      exact ⟨least, most, Nat.zero_le 60⟩
  | @binary letter twos member =>
      have all : ∀ entry ∈ binaryLetters, entry.2 ≤ 60 := by decide
      exact ⟨show (-18 : Int) ≤ 0 by decide, show (0 : Int) ≤ 18 by decide,
        all (letter, twos) member⟩
  | exponent isMark integer least most => exact ⟨least, most, Nat.zero_le 60⟩

/-- The number ends where the suffix starts. -/
theorem IsSuffix.takeWhile_dropWhile {text : List Char} {scale : Scale}
    (suffix : IsSuffix text scale) :
    text.takeWhile isNumberPart = [] ∧ text.dropWhile isNumberPart = text := by
  have noPart := suffix.isNumberPart_head
  cases text with
  | nil => exact ⟨rfl, rfl⟩
  | cons first rest =>
      have stops : ¬ isNumberPart first = true := by simp [noPart first rfl]
      exact ⟨List.takeWhile_cons_of_neg stops, List.dropWhile_cons_of_neg stops⟩

/-! ## Numbers -/

theorem isDigit_of_isNumberPart {character : Char} (part : isNumberPart character = true)
    (noPoint : (character != '.') = true) : isDigit character = true := by
  rw [isNumberPart, Bool.or_eq_true] at part
  exact part.resolve_right (by simpa using noPoint)

theorem IsNumber.isNumberPart {number whole fraction : List Char}
    (isNumber : IsNumber number whole fraction) :
    ∀ character ∈ number, isNumberPart character = true := by
  have digitPart {character : Char} (digit : isDigit character = true) :
      Quantity.isNumberPart character = true := by rw [Quantity.isNumberPart, digit, Bool.true_or]
  intro character member
  cases isNumber with
  | whole filled digits => exact digitPart (digits character member)
  | pointed filled wholeDigits fractionDigits =>
      rcases List.mem_append.mp member with before | after
      · exact digitPart (wholeDigits character before)
      · rcases List.mem_cons.mp after with rfl | inFraction
        · decide
        · exact digitPart (fractionDigits character inFraction)

theorem isNumber_of_splitPoint? {number whole fraction : List Char}
    (parts : ∀ character ∈ number, isNumberPart character = true)
    (split : splitPoint? number = some (whole, fraction)) : IsNumber number whole fraction := by
  have joined : number.takeWhile (· != '.') ++ number.dropWhile (· != '.') = number :=
    List.takeWhile_append_dropWhile
  have wholeDigits : AreDigits (number.takeWhile (· != '.')) := by
    intro character member
    have inNumber := (List.takeWhile_sublist _).mem member
    exact isDigit_of_isNumberPart (parts character inNumber)
      (List.mem_takeWhile_imp (p := (· != '.')) member)
  simp only [splitPoint?, Option.ite_none_left_eq_some, Option.some.injEq, Prod.mk.injEq] at split
  obtain ⟨accepted, rfl, rfl⟩ := split
  simp only [Bool.or_eq_true, List.isEmpty_iff, List.contains_iff_mem, not_or] at accepted
  obtain ⟨filled, onePoint⟩ := accepted
  cases rest : number.dropWhile (· != '.') with
  | nil =>
      rw [rest, List.append_nil] at joined
      rw [rest, List.drop_nil, joined, List.append_nil] at filled
      rw [List.drop_nil, joined]
      exact .whole filled (joined ▸ wholeDigits)
  | cons point fraction =>
      obtain rfl : point = '.' := by
        have stopped := List.head_dropWhile_not (p := (· != '.')) (l := number) (by simp [rest])
        simpa [rest] using stopped
      rw [rest, List.drop_one, List.tail_cons] at filled onePoint
      have fractionDigits : AreDigits fraction := by
        intro character member
        have inNumber : character ∈ number := by
          rw [← joined, rest]
          exact List.mem_append_right _ (List.mem_cons_of_mem _ member)
        have noPoint : (character != '.') = true := by
          rw [bne_iff_ne]
          rintro rfl
          exact onePoint member
        exact isDigit_of_isNumberPart (parts character inNumber) noPoint
      have isNumber := IsNumber.pointed filled wholeDigits fractionDigits
      rwa [← rest, joined] at isNumber

theorem splitPoint?_of_isNumber {number whole fraction : List Char}
    (isNumber : IsNumber number whole fraction) :
    splitPoint? number = some (whole, fraction) := by
  have absent {digits : List Char} (areDigits : AreDigits digits) : '.' ∉ digits :=
    fun member => absurd (areDigits '.' member) (by decide)
  cases isNumber with
  | whole filled digits =>
      have taken := takeWhile_bne_of_notMem (absent digits)
      have dropped := dropWhile_bne_of_notMem (absent digits)
      simp [splitPoint?, taken, dropped, filled]
  | pointed filled wholeDigits fractionDigits =>
      have taken : (whole ++ '.' :: fraction).takeWhile (· != '.') = whole :=
        takeWhile_bne_append_cons (absent wholeDigits)
      have dropped : (whole ++ '.' :: fraction).dropWhile (· != '.') = '.' :: fraction :=
        dropWhile_bne_append_cons (absent wholeDigits)
      have onePoint := absent fractionDigits
      have accepted : ¬ ((whole ++ fraction).isEmpty || fraction.contains '.') = true := by
        simpa only [Bool.or_eq_true, List.isEmpty_iff, List.contains_iff_mem, not_or] using
          ⟨filled, onePoint⟩
      simp only [splitPoint?, taken, dropped, List.drop_one, List.tail_cons, if_neg accepted]

/-! ## Reading -/

theorem exists_isSign_splitSign (text : List Char) :
    ∃ sign, IsSign sign (splitSign text).1 ∧ text = sign ++ (splitSign text).2 := by
  unfold splitSign
  split
  · exact ⟨['-'], .minus, rfl⟩
  · exact ⟨['+'], .plus, rfl⟩
  · exact ⟨[], .absent, rfl⟩

/-- A sign is told from what follows it, which starts like a number. -/
theorem splitSign_append {sign rest : List Char} {negative : Bool} (isSign : IsSign sign negative)
    (part : ∀ first ∈ rest.head?, isNumberPart first = true) :
    splitSign (sign ++ rest) = (negative, rest) := by
  cases isSign with
  | plus => rfl
  | minus => rfl
  | absent =>
      rw [List.nil_append]
      unfold splitSign
      split
      · exact absurd (part '-' rfl) (by decide)
      · exact absurd (part '+' rfl) (by decide)
      · rfl

theorem read?_eq (text : List Char) :
    Numeral.read? text =
      (splitPoint? ((splitSign text).2.takeWhile isNumberPart)).bind fun parts =>
        (Scale.ofSuffix? ((splitSign text).2.dropWhile isNumberPart)).bind fun scale =>
          some { negative := (splitSign text).1, whole := parts.1, fraction := parts.2, scale } :=
  rfl

theorem isWritten_of_read? {text : List Char} {numeral : Numeral}
    (read : Numeral.read? text = some numeral) : IsWritten text numeral := by
  obtain ⟨sign, isSign, signed⟩ := exists_isSign_splitSign text
  rw [read?_eq] at read
  obtain ⟨⟨whole, fraction⟩, split, readSuffix⟩ := Option.bind_eq_some_iff.mp read
  obtain ⟨scale, suffix, made⟩ := Option.bind_eq_some_iff.mp readSuffix
  obtain rfl := Option.some.inj made
  have parts : ∀ character ∈ (splitSign text).2.takeWhile isNumberPart,
      isNumberPart character = true := fun character member => List.mem_takeWhile_imp member
  have written := IsWritten.intro isSign (isNumber_of_splitPoint? parts split)
    (isSuffix_of_ofSuffix? suffix)
  rwa [List.takeWhile_append_dropWhile, ← signed] at written

theorem IsNumber.isNumberPart_head {number whole fraction : List Char}
    (isNumber : IsNumber number whole fraction) (rest : List Char) :
    ∀ first ∈ (number ++ rest).head?, Quantity.isNumberPart first = true := by
  have filled : number ≠ [] := by
    cases isNumber with
    | whole filled digits => exact filled
    | pointed filled wholeDigits fractionDigits => simp
  intro first isFirst
  rw [List.head?_append_of_ne_nil _ filled] at isFirst
  exact isNumber.isNumberPart first (List.mem_of_mem_head? isFirst)

theorem read?_of_isWritten {text : List Char} {numeral : Numeral}
    (written : IsWritten text numeral) : Numeral.read? text = some numeral := by
  cases written with
  | @intro sign number suffix whole fraction negative scale isSign isNumber isSuffix =>
      obtain ⟨noneTaken, noneDropped⟩ := isSuffix.takeWhile_dropWhile
      rw [read?_eq, splitSign_append isSign (isNumber.isNumberPart_head suffix),
        List.takeWhile_append_of_pos isNumber.isNumberPart,
        List.dropWhile_append_of_pos isNumber.isNumberPart, noneTaken, noneDropped,
        List.append_nil, splitPoint?_of_isNumber isNumber, ofSuffix?_of_isSuffix isSuffix]
      rfl

/-- Reading finds the numeral that a text is written for. -/
theorem read?_eq_some_iff {text : List Char} {numeral : Numeral} :
    Numeral.read? text = some numeral ↔ IsWritten text numeral :=
  ⟨isWritten_of_read?, read?_of_isWritten⟩

/-- No text is written for two numerals. -/
theorem IsWritten.unique {text : List Char} {left right : Numeral}
    (leftWritten : IsWritten text left) (rightWritten : IsWritten text right) : left = right :=
  Option.some.inj ((read?_of_isWritten leftWritten).symm.trans (read?_of_isWritten rightWritten))

end ClusterAudit.Quantity
