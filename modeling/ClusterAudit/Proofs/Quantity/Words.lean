import ClusterAudit.Naming
import ClusterAudit.Proofs.Quantity.Value

/-!
Reading a quantity byte by byte, in words of fixed width. A text is cut at positions of bytes, and
most operations on numbers look whether their result fits its word, but some do not. In a text of
fewer than 2 ^ 31 - 32 bytes no cut falls inside a character and no number leaves its word where
nobody looks, and what is read is the same as with whole numbers of any size.
-/

namespace ClusterAudit.Quantity.Words

open Text

/-! ## Evaluations -/

/-- How an evaluation ends: with a value, with a refusal of what is read, or with a fault, which is a
cut outside a text or inside a character, or a number that does not fit where nobody looks. -/
inductive Evaluation (Value : Type) where
  | value (value : Value)
  | refusal
  | fault
deriving DecidableEq, Repr

namespace Evaluation

variable {First Second : Type}

/-- Goes on with the value of an evaluation, if it has one. -/
def bind (first : Evaluation First) (next : First → Evaluation Second) : Evaluation Second :=
  match first with
  | value result => next result
  | refusal => refusal
  | fault => fault

instance : Monad Evaluation where
  pure := value
  bind := bind

def ofOption : Option First → Evaluation First
  | some result => value result
  | none => refusal

/-- A result, or the refusal of what was read. -/
def ofExcept {Failure : Type} : Except Failure First → Evaluation First
  | .ok result => value result
  | .error _ => refusal

@[simp]
theorem value_bind (result : First) (next : First → Evaluation Second) :
    (value result >>= next) = next result :=
  rfl

@[simp]
theorem ofOption_some (result : First) : ofOption (some result) = value result :=
  rfl

end Evaluation

/-! ## Texts in bytes -/

/-- The bytes of a text. -/
def bytes (text : List Char) : List UInt8 :=
  text.flatMap String.utf8EncodeChar

/-- The first byte of a text, which must not be empty. -/
def firstByte (text : List Char) : Evaluation UInt8 :=
  match bytes text with
  | first :: _ => .value first
  | [] => .fault

/-- A text in two parts, the first of them with the given number of bytes. -/
def cut (size : Nat) (text : List Char) : Evaluation (List Char × List Char) :=
  match Naming.takeBytes? size text with
  | some before => .value (before, text.drop before.length)
  | none => .fault

/-- The number of bytes before the first character that fails a test, or before the end. -/
def sizeWhile (test : Char → Bool) : List Char → Nat
  | [] => 0
  | first :: rest => if test first then first.utf8Size + sizeWhile test rest else 0

/-! ## Numbers in words -/

/-- A word of some number of bits, with or without a sign. -/
inductive Word where
  | unsigned (bits : Nat)
  | signed (bits : Nat)
deriving DecidableEq, Repr

namespace Word

/-- A number that fits a word. -/
def Holds : Word → Int → Prop
  | unsigned bits, number => 0 ≤ number ∧ number < Nat.pow 2 bits
  | signed bits, number => -Nat.pow 2 (bits - 1) ≤ number ∧ number < Nat.pow 2 (bits - 1)

instance (word : Word) : DecidablePred word.Holds :=
  match word with
  | unsigned bits => fun number =>
      inferInstanceAs (Decidable (0 ≤ number ∧ number < Nat.pow 2 bits))
  | signed bits => fun number =>
      inferInstanceAs (Decidable (-Nat.pow 2 (bits - 1) ≤ number ∧ number < Nat.pow 2 (bits - 1)))

/-- The result of an operation that looks whether it fits. -/
def checked (word : Word) (number : Int) : Evaluation Int :=
  if word.Holds number then .value number else .refusal

/-- The result of an operation that does not look whether it fits. -/
def unchecked (word : Word) (number : Int) : Evaluation Int :=
  if word.Holds number then .value number else .fault

end Word

/-! ## Reading in bytes and words -/

/-- The sign at the start of a text, which is told from its first byte, and what follows it. -/
def splitSign (text : List Char) : Evaluation (Bool × List Char) := do
  let first ← firstByte text
  if first = '-'.toUInt8 then
    let parts ← cut 1 text
    return (true, parts.2)
  else if first = '+'.toUInt8 then
    let parts ← cut 1 text
    return (false, parts.2)
  else
    return (false, text)

/-- The number that digits stand for, read byte by byte. -/
def mantissa (start : Int) : List UInt8 → Evaluation Int
  | [] => .value start
  | byte :: rest => do
      let tens ← Word.checked (.signed 128) (start * 10)
      let digit ← Word.unchecked (.unsigned 8) (byte.toNat - '0'.toNat)
      let next ← Word.checked (.signed 128) (tens + digit)
      mantissa next rest

/-- A magnitude moved up by decimal places. -/
def shiftUp (scaled places : Int) : Evaluation Int := do
  let exponent ← Word.checked (.unsigned 32) places
  let power ← Word.checked (.signed 128) (Nat.pow 10 exponent.toNat)
  Word.checked (.signed 128) (scaled * power)

/-- A magnitude moved down by decimal places and rounded up. A power of ten that does not fit is
larger than any magnitude. -/
def shiftDown (scaled places : Int) : Evaluation Int := do
  let opposite ← Word.unchecked (.signed 32) (-places)
  let exponent ← Word.checked (.unsigned 32) opposite
  match Word.checked (.signed 128) (Nat.pow 10 exponent.toNat) with
  | .value power =>
      Word.unchecked (.signed 128)
        (scaled.tdiv power + if scaled.tmod power ≠ 0 then 1 else 0)
  | _ => return if scaled ≠ 0 then 1 else 0

/-- The magnitude of a numeral whose suffix has not been read yet. -/
def magnitude (whole fraction suffix : List Char) : Evaluation Int := do
  let digits ← mantissa 0 (bytes whole ++ bytes fraction)
  let length ← Word.checked (.signed 32) (bytes fraction).length
  let scale ← .ofOption (Scale.ofSuffix? suffix)
  let lower ← Word.unchecked (.signed 32) (scale.tens - length)
  let places ← Word.unchecked (.signed 32) (lower + 9)
  let factor ← Word.unchecked (.signed 128) (Nat.pow 2 scale.twos)
  let scaled ← Word.checked (.signed 128) (digits * factor)
  if 0 ≤ places then shiftUp scaled places else shiftDown scaled places

/-- A magnitude under its sign. -/
def signed (negative : Bool) (magnitude : Int) : Evaluation Quantity := do
  let nanos ← if negative then Word.unchecked (.signed 128) (-magnitude) else .value magnitude
  return ⟨nanos⟩

/-- Reads what follows the sign. -/
def readUnsigned (negative : Bool) (unsigned : List Char) : Evaluation Quantity := do
  let parts ← cut (sizeWhile isNumberPart unsigned) unsigned
  let digits ← .ofOption (splitPoint? parts.1)
  let magnitude ← magnitude digits.1 digits.2 parts.2
  signed negative magnitude

/-- Reads a quantity in bytes and words. -/
def parse (input : String) : Evaluation Quantity :=
  let text := trimmed input.toList
  if text.isEmpty then .refusal
  else do
    let parts ← splitSign text
    readUnsigned parts.1 parts.2

/-! ## Cuts -/

theorem length_bytes_cons (first : Char) (rest : List Char) :
    (bytes (first :: rest)).length = first.utf8Size + (bytes rest).length := by
  simp [bytes]

theorem sizeWhile_eq (test : Char → Bool) (text : List Char) :
    sizeWhile test text = (bytes (text.takeWhile test)).length := by
  induction text with
  | nil => rfl
  | cons first rest inductionHypothesis =>
      cases passes : test first with
      | true =>
          rw [sizeWhile, if_pos passes, List.takeWhile_cons_of_pos passes, length_bytes_cons,
            inductionHypothesis]
      | false =>
          rw [sizeWhile, if_neg (by simp [passes]), List.takeWhile_cons_of_neg (by simp [passes])]
          rfl

theorem takeBytes?_append (first rest : List Char) :
    Naming.takeBytes? (bytes first).length (first ++ rest) = some first := by
  induction first with
  | nil =>
      have empty : (bytes []).length = 0 := rfl
      rw [empty, Naming.takeBytes?]
  | cons character others inductionHypothesis =>
      obtain ⟨less, size⟩ := Nat.exists_eq_succ_of_ne_zero character.utf8Size_pos.ne'
      have total : (bytes (character :: others)).length = less + (bytes others).length + 1 := by
        rw [length_bytes_cons, size]
        omega
      have fits : character.utf8Size ≤ less + (bytes others).length + 1 := by omega
      have left : less + (bytes others).length + 1 - character.utf8Size =
          (bytes others).length := by omega
      rw [total, List.cons_append, Naming.takeBytes?, if_pos fits, left, inductionHypothesis,
        Option.map_some]

/-- A cut at the end of a part gives that part and the rest. -/
theorem cut_append (first rest : List Char) :
    cut (bytes first).length (first ++ rest) = .value (first, rest) := by
  simp only [cut, takeBytes?_append, List.drop_left]

theorem cut_sizeWhile (test : Char → Bool) (text : List Char) :
    cut (sizeWhile test text) text = .value (text.takeWhile test, text.dropWhile test) := by
  have cutTaken := cut_append (text.takeWhile test) (text.dropWhile test)
  rwa [List.takeWhile_append_dropWhile, ← sizeWhile_eq] at cutTaken

/-! ## Signs -/

/-- A byte below 128 is a character of its own, and starts no other. -/
theorem exists_firstByte (first : Char) (rest : List Char) :
    ∃ byte, firstByte (first :: rest) = .value byte ∧
      ∀ character : Char, character.toNat < 128 →
        (byte = character.toUInt8 ↔ first = character) := by
  have same {code : Nat} {character : Char} (single : character.toNat < 128) :
      UInt8.ofNat code = character.toUInt8 ↔ code % 256 = character.toNat := by
    have value : character.toUInt8.toNat = character.toNat := by
      change character.val.toUInt8.toNat = character.toNat
      rw [UInt32.toNat_toUInt8]
      exact Nat.mod_eq_of_lt (Nat.lt_trans single (by decide))
    rw [← UInt8.toNat_inj, UInt8.toNat_ofNat', value]
  have code : first.val.toNat = first.toNat := rfl
  rw [firstByte, bytes, List.flatMap_cons, String.utf8EncodeChar]
  -- One case for each number of bytes. In all but the first, the byte is at least 128.
  split_ifs with one two three
  all_goals
    refine ⟨_, rfl, fun character single => ?_⟩
    rw [same single, ← Char.toNat_inj]
  · rw [code, Nat.mod_eq_of_lt (by omega)]
  all_goals omega

theorem cut_one (rest : List Char) {sign : Char} (single : (bytes [sign]).length = 1) :
    cut 1 (sign :: rest) = .value ([sign], rest) := by
  have cutSign := cut_append [sign] rest
  rwa [single] at cutSign

theorem splitSign_eq {text : List Char} (filled : text ≠ []) :
    splitSign text = .value (Quantity.splitSign text) := by
  obtain ⟨first, rest, rfl⟩ := List.exists_cons_of_ne_nil filled
  obtain ⟨byte, starts, tells⟩ := exists_firstByte first rest
  have minus := tells '-' (by decide)
  have plus := tells '+' (by decide)
  rw [splitSign, starts, Evaluation.value_bind]
  by_cases isMinus : first = '-'
  · rw [if_pos (minus.mpr isMinus), isMinus, cut_one rest (by decide)]
    rfl
  · rw [if_neg (mt minus.mp isMinus)]
    by_cases isPlus : first = '+'
    · rw [if_pos (plus.mpr isPlus), isPlus, cut_one rest (by decide)]
      rfl
    · rw [if_neg (mt plus.mp isPlus)]
      have unsigned : Quantity.splitSign (first :: rest) = (false, first :: rest) := by
        unfold Quantity.splitSign
        split <;> simp_all
      rw [unsigned]
      rfl

/-! ## Numbers -/

theorem unchecked_of_holds {word : Word} {number : Int} (holds : word.Holds number) :
    word.unchecked number = .value number :=
  if_pos holds

theorem checked_of_holds {word : Word} {number : Int} (holds : word.Holds number) :
    word.checked number = .value number :=
  if_pos holds

theorem holds_narrow_iff {number : Int} :
    Word.Holds (.signed 32) number ↔ -2147483648 ≤ number ∧ number < 2147483648 :=
  Iff.rfl

/-- The magnitudes below the bound are the ones that fit the words of quantities. -/
theorem holds_natCast_iff {magnitude : Nat} :
    Word.Holds (.signed 128) magnitude ↔ magnitude < bound := by
  change -((bound : Nat) : Int) ≤ magnitude ∧ (magnitude : Int) < (bound : Nat) ↔ magnitude < bound
  omega

theorem checked_natCast (magnitude : Nat) :
    Word.checked (.signed 128) magnitude = .ofOption ((bounded? magnitude).map Int.ofNat) := by
  by_cases small : magnitude < bound
  · rw [checked_of_holds (holds_natCast_iff.mpr small), bounded?_of_lt small]
    rfl
  · rw [Word.checked, if_neg (mt holds_natCast_iff.mp small), bounded?_of_le (Nat.not_lt.mp small)]
    rfl

theorem bytes_cons_of_isDigit {digit : Char} (isDigit : isDigit digit = true) (rest : List Char) :
    ∃ byte : UInt8, bytes (digit :: rest) = byte :: bytes rest ∧
      (byte.toNat : Int) - '0'.toNat = digitWorth digit := by
  simp only [Text.isDigit, Bool.and_eq_true, decide_eq_true_eq] at isDigit
  have least : 48 ≤ digit.toNat := isDigit.1
  have most : digit.toNat ≤ 57 := isDigit.2
  have single : String.utf8EncodeChar digit = [UInt8.ofNat digit.toNat] := by
    rw [String.utf8EncodeChar]
    exact if_pos (by change digit.toNat ≤ 127; omega)
  refine ⟨UInt8.ofNat digit.toNat, by rw [bytes, List.flatMap_cons, single]; rfl, ?_⟩
  have zero : '0'.toNat = 48 := by decide
  rw [UInt8.toNat_ofNat', digitWorth, zero]
  omega

theorem mantissa_eq {start : Nat} {text : List Char} (digits : AreDigits text) :
    mantissa start (bytes text) = .ofOption ((mantissa? start text).map Int.ofNat) := by
  induction text generalizing start with
  | nil => rfl
  | cons first rest inductionHypothesis =>
      obtain ⟨isDigitFirst, areDigits⟩ := areDigits_cons_iff.mp digits
      obtain ⟨byte, split, worth⟩ := bytes_cons_of_isDigit isDigitFirst rest
      have small := digit_lt_of_digitValue? (digitValue?_eq_some_iff.mpr ⟨isDigitFirst, rfl⟩)
      have digitFits : Word.Holds (.unsigned 8) (digitWorth first) :=
        ⟨by omega, by change _ < (256 : Int); omega⟩
      have tens : (start : Int) * 10 = (start * 10 : Nat) := by push_cast; rfl
      have next : ((start * 10 : Nat) : Int) + digitWorth first =
          (start * 10 + digitWorth first : Nat) := by push_cast; rfl
      have read : mantissa? start (first :: rest) =
          (bounded? (start * 10 + digitWorth first)).bind (mantissa? · rest) := by
        rw [mantissa?, digitValue?_eq_some_iff.mpr ⟨isDigitFirst, rfl⟩]
        rfl
      rw [split, mantissa, tens, worth, checked_natCast, unchecked_of_holds digitFits, read]
      by_cases tensFit : start * 10 < bound
      · rw [bounded?_of_lt tensFit, Option.map_some, Evaluation.ofOption_some,
          Evaluation.value_bind, Evaluation.value_bind, Int.ofNat_eq_natCast, next, checked_natCast]
        by_cases nextFits : start * 10 + digitWorth first < bound
        · rw [bounded?_of_lt nextFits, Option.map_some, Evaluation.ofOption_some,
            Evaluation.value_bind, Option.bind_some]
          exact inductionHypothesis areDigits
        · rw [bounded?_of_le (Nat.not_lt.mp nextFits)]
          rfl
      · have nextLarge : bound ≤ start * 10 + digitWorth first := by omega
        rw [bounded?_of_le (Nat.not_lt.mp tensFit), bounded?_of_le nextLarge]
        rfl

theorem mantissa_zero_eq {text : List Char} (digits : AreDigits text) :
    mantissa 0 (bytes text) = .ofOption ((bounded? (wholeValue text)).map Int.ofNat) := by
  have exact := mantissa?_eq digits (show 0 < bound by decide)
  rw [Nat.zero_mul, Nat.zero_add] at exact
  rw [← exact]
  exact mantissa_eq digits

/-! ## Decimal places -/

/-- A power of ten fits exactly if it has at most 39 digits. -/
theorem holds_pow_iff {places : Nat} :
    Word.Holds (.signed 128) (Nat.pow 10 places) ↔ places < 39 := by
  rw [holds_natCast_iff]
  constructor
  · intro fits
    by_contra many
    exact absurd (bound_lt_pow (Nat.not_lt.mp many)) (Nat.not_lt.mpr fits.le)
  · intro few
    calc
      Nat.pow 10 places ≤ 10 ^ 38 := Nat.pow_le_pow_right (by decide) (by omega)
      _ < bound := by decide

theorem holds_count {count : Nat} (small : count < 2147483648) :
    Word.Holds (.unsigned 32) count ∧ Word.Holds (.signed 32) count := by
  refine ⟨?_, holds_narrow_iff.mpr (by omega)⟩
  change (0 : Int) ≤ count ∧ (count : Int) < 4294967296
  omega

theorem shiftUp_eq (scaled : Nat) {places : Nat} (few : places ≤ 27) :
    shiftUp scaled places =
      .ofOption ((bounded? (scaled * Nat.pow 10 places)).map Int.ofNat) := by
  have exponent := (holds_count (show places < 2147483648 by omega)).1
  have product : (scaled : Int) * Nat.pow 10 places = (scaled * Nat.pow 10 places : Nat) := by
    push_cast
    rfl
  rw [shiftUp, checked_of_holds exponent, Evaluation.value_bind, Int.toNat_natCast,
    checked_of_holds (holds_pow_iff.mpr (by omega)), Evaluation.value_bind, product,
    checked_natCast]

/-- Rounding up adds one to the quotient if there is a remainder. -/
theorem shiftDown_eq_div_add (magnitude places : Nat) :
    Quantity.shiftDown magnitude places =
      magnitude / Nat.pow 10 places + if magnitude % Nat.pow 10 places ≠ 0 then 1 else 0 := by
  have positive : 0 < Nat.pow 10 places := Nat.pow_pos (by decide)
  have parts := Nat.div_add_mod' magnitude (Nat.pow 10 places)
  have small := Nat.mod_lt magnitude positive
  by_cases rest : magnitude % Nat.pow 10 places = 0
  · rw [if_neg (not_not.mpr rest), Nat.add_zero]
    refine Nat.div_eq_of_lt_le ?_ ?_
    · omega
    · rw [Nat.add_mul]
      omega
  · rw [if_pos rest]
    refine Nat.div_eq_of_lt_le ?_ ?_
    · rw [Nat.add_mul]
      omega
    · rw [Nat.add_mul, Nat.add_mul]
      omega

theorem shiftDown_eq {scaled places : Nat} (fits : scaled < bound) (small : places < 2147483648) :
    shiftDown scaled (-places) =
      .value (if 39 ≤ places then min scaled 1 else Quantity.shiftDown scaled places : Nat) := by
  obtain ⟨exponent, opposite⟩ := holds_count small
  rw [shiftDown, neg_neg, unchecked_of_holds opposite, Evaluation.value_bind,
    checked_of_holds exponent, Evaluation.value_bind, Int.toNat_natCast]
  by_cases far : 39 ≤ places
  · rw [Word.checked, if_neg (mt holds_pow_iff.mp (Nat.not_lt.mpr far)), if_pos far]
    rcases Nat.eq_zero_or_pos scaled with rfl | positive
    · rfl
    · rw [Nat.min_eq_right positive, if_pos (by exact_mod_cast positive.ne')]
      rfl
  · rw [checked_of_holds (holds_pow_iff.mpr (Nat.not_le.mp far)), if_neg far]
    have rounded : (scaled : Int).tdiv (Nat.pow 10 places) +
        (if (scaled : Int).tmod (Nat.pow 10 places) ≠ 0 then 1 else 0) =
          (Quantity.shiftDown scaled places : Nat) := by
      rw [shiftDown_eq_div_add, ← Int.ofNat_tdiv, ← Int.ofNat_tmod]
      simp only [Nat.cast_ne_zero, Nat.cast_add, Nat.cast_ite, Nat.cast_one, Nat.cast_zero]
    have keeps := (shiftDown_le scaled places).trans_lt fits
    simp only [rounded, unchecked_of_holds (holds_natCast_iff.mpr keeps)]

/-- Moving by decimal places neither leaves a word nor loses more than what is rounded up. -/
theorem shift_eq {scaled : Nat} {places : Int} (fits : scaled < bound)
    (least : -2147483648 < places) (most : places ≤ 27) :
    (if 0 ≤ places then shiftUp scaled places else shiftDown scaled places) =
      .ofOption ((bounded? ⌈(scaled : ℚ) * 10 ^ places⌉₊).map Int.ofNat) := by
  rw [← ceil_shift_eq _ _ fits]
  by_cases up : 0 ≤ places
  · obtain ⟨count, rfl⟩ := Int.eq_ofNat_of_zero_le up
    rw [if_pos up, if_pos up, shiftUp_eq scaled (by omega), Int.toNat_natCast]
  · obtain ⟨count, opposite⟩ := Int.eq_ofNat_of_zero_le (show 0 ≤ -places by omega)
    obtain rfl : places = -count := by omega
    rw [if_neg up, if_neg up, shiftDown_eq fits (by omega), neg_neg, Int.toNat_natCast]
    by_cases far : 39 ≤ count
    · rw [if_pos far, if_pos (by exact_mod_cast far)]
      rfl
    · rw [if_neg far, if_neg (by exact_mod_cast far)]
      rfl

/-! ## Values -/

theorem bytes_append (first second : List Char) :
    bytes first ++ bytes second = bytes (first ++ second) :=
  List.flatMap_append.symm

theorem length_bytes_of_areDigits {text : List Char} (digits : AreDigits text) :
    (bytes text).length = text.length := by
  induction text with
  | nil => rfl
  | cons first rest inductionHypothesis =>
      obtain ⟨isDigitFirst, areDigits⟩ := areDigits_cons_iff.mp digits
      obtain ⟨byte, split, worth⟩ := bytes_cons_of_isDigit isDigitFirst rest
      rw [split, List.length_cons, List.length_cons, inductionHypothesis areDigits]

theorem magnitude_eq (negative : Bool) {whole fraction suffix : List Char} {scale : Scale}
    (digits : AreDigits (whole ++ fraction)) (short : fraction.length < 2 ^ 31 - 32)
    (isSuffix : IsSuffix suffix scale) :
    magnitude whole fraction suffix =
      .ofOption ((Numeral.magnitude? { negative, whole, fraction, scale }).map Int.ofNat) := by
  obtain ⟨leastTens, mostTens, mostTwos⟩ := isSuffix.bounds
  have lengthFits : Word.Holds (.signed 32) fraction.length := holds_narrow_iff.mpr (by omega)
  have lowerFits : Word.Holds (.signed 32) (scale.tens - fraction.length) :=
    holds_narrow_iff.mpr (by omega)
  have placesFit : Word.Holds (.signed 32) (scale.tens - fraction.length + 9) :=
    holds_narrow_iff.mpr (by omega)
  have factorFits : Word.Holds (.signed 128) (Nat.pow 2 scale.twos) := by
    refine holds_natCast_iff.mpr ?_
    calc
      Nat.pow 2 scale.twos ≤ 2 ^ 60 := Nat.pow_le_pow_right (by decide) mostTwos
      _ < bound := by decide
  have fractionDigits := (areDigits_append_iff.mp digits).2
  have scaled : (wholeValue (whole ++ fraction) : Int) * Nat.pow 2 scale.twos =
      (Numeral.scaled { negative, whole, fraction, scale } : Nat) := by
    rw [Numeral.scaled]
    push_cast
    rfl
  have grows : wholeValue (whole ++ fraction) ≤
      Numeral.scaled { negative, whole, fraction, scale } :=
    Nat.le_mul_of_pos_right _ (Nat.pow_pos (by decide))
  rw [magnitude, bytes_append, length_bytes_of_areDigits fractionDigits,
    mantissa_zero_eq digits, checked_of_holds lengthFits, ofSuffix?_of_isSuffix isSuffix,
    Numeral.magnitude?_eq digits]
  by_cases first : wholeValue (whole ++ fraction) < bound
  · rw [bounded?_of_lt first, Option.map_some, Evaluation.ofOption_some, Evaluation.value_bind,
      Evaluation.value_bind, Evaluation.ofOption_some, Evaluation.value_bind,
      unchecked_of_holds lowerFits, Evaluation.value_bind, unchecked_of_holds placesFit,
      Evaluation.value_bind, unchecked_of_holds factorFits, Evaluation.value_bind,
      Int.ofNat_eq_natCast, scaled, checked_natCast]
    by_cases fits : Numeral.scaled { negative, whole, fraction, scale } < bound
    · rw [bounded?_of_lt fits, Option.map_some, Evaluation.ofOption_some, Evaluation.value_bind,
        Option.bind_some, Numeral.amount_eq]
      exact shift_eq fits (by omega) (by omega)
    · rw [bounded?_of_le (Nat.not_lt.mp fits)]
      rfl
  · have large := Nat.not_lt.mp first
    rw [bounded?_of_le large, bounded?_of_le (large.trans grows)]
    rfl

theorem magnitude_eq_refusal {whole fraction suffix : List Char}
    (digits : AreDigits (whole ++ fraction)) (short : fraction.length < 2 ^ 31 - 32)
    (unknown : Scale.ofSuffix? suffix = none) : magnitude whole fraction suffix = .refusal := by
  have lengthFits : Word.Holds (.signed 32) fraction.length := holds_narrow_iff.mpr (by omega)
  have fractionDigits := (areDigits_append_iff.mp digits).2
  rw [magnitude, bytes_append, length_bytes_of_areDigits fractionDigits, mantissa_zero_eq digits,
    checked_of_holds lengthFits, unknown]
  cases bounded? (wholeValue (whole ++ fraction)) <;> rfl

theorem signed_eq (negative : Bool) {magnitude : Nat} (fits : magnitude < bound) :
    signed negative magnitude = .value ⟨applySign negative magnitude⟩ := by
  have opposite : Word.Holds (.signed 128) (-magnitude) := by
    change -((bound : Nat) : Int) ≤ -magnitude ∧ -(magnitude : Int) < (bound : Nat)
    omega
  cases negative with
  | false => rfl
  | true =>
      rw [signed, if_pos rfl, unchecked_of_holds opposite]
      rfl

theorem lt_bound_of_magnitude? {numeral : Numeral} {magnitude : Nat}
    (digits : AreDigits (numeral.whole ++ numeral.fraction))
    (found : numeral.magnitude? = some magnitude) : magnitude < bound := by
  rw [Numeral.magnitude?_eq digits] at found
  obtain ⟨_, _, kept⟩ := Option.bind_eq_some_iff.mp found
  obtain ⟨small, rfl⟩ := bounded?_eq_some_iff.mp kept
  exact small

/-! ## Texts -/

theorem length_trimmed_le (text : List Char) : (trimmed text).length ≤ text.length := by
  have atEnd (rest : List Char) : (trimEnd rest).length ≤ rest.length := by
    rw [trimEnd, List.length_reverse]
    exact (List.dropWhile_sublist _).length_le.trans_eq List.length_reverse
  exact (atEnd _).trans (List.dropWhile_sublist _).length_le

theorem length_splitSign_le (text : List Char) :
    (Quantity.splitSign text).2.length ≤ text.length := by
  obtain ⟨sign, _, signed⟩ := exists_isSign_splitSign text
  have parts := congrArg List.length signed
  rw [List.length_append] at parts
  omega

theorem length_fraction_le {number whole fraction : List Char}
    (isNumber : IsNumber number whole fraction) : fraction.length ≤ number.length := by
  cases isNumber with
  | whole filled digits => exact Nat.zero_le _
  | pointed filled wholeDigits fractionDigits =>
      rw [List.length_append, List.length_cons]
      omega

theorem length_le_length_bytes (text : List Char) : text.length ≤ (bytes text).length := by
  induction text with
  | nil => exact Nat.le_refl 0
  | cons first rest inductionHypothesis =>
      have positive := first.utf8Size_pos
      rw [length_bytes_cons, List.length_cons]
      omega

theorem utf8ByteSize_eq (input : String) : input.utf8ByteSize = (bytes input.toList).length := by
  have encoded : input.toByteArray = input.toList.utf8Encode := by
    rw [← String.toByteArray_ofList, String.ofList_toList]
  rw [String.utf8ByteSize, encoded, List.utf8Encode, List.size_toByteArray, bytes]

theorem readUnsigned_eq (negative : Bool) {unsigned : List Char}
    (short : unsigned.length < 2 ^ 31 - 32) :
    readUnsigned negative unsigned =
      .ofOption (((splitPoint? (unsigned.takeWhile isNumberPart)).bind fun parts =>
        (Scale.ofSuffix? (unsigned.dropWhile isNumberPart)).bind fun scale =>
          some { negative, whole := parts.1, fraction := parts.2, scale }).bind Numeral.value?) := by
  rw [readUnsigned, cut_sizeWhile, Evaluation.value_bind]
  cases points : splitPoint? (unsigned.takeWhile isNumberPart) with
  | none => rfl
  | some parts =>
      obtain ⟨whole, fraction⟩ := parts
      have isNumber := isNumber_of_splitPoint?
        (fun character member => List.mem_takeWhile_imp member) points
      have digits := isNumber.areDigits
      have fractionShort : fraction.length < 2 ^ 31 - 32 := by
        calc
          fraction.length ≤ (unsigned.takeWhile isNumberPart).length := length_fraction_le isNumber
          _ ≤ unsigned.length := (List.takeWhile_sublist _).length_le
          _ < 2 ^ 31 - 32 := short
      rw [Evaluation.ofOption_some, Evaluation.value_bind, Option.bind_some]
      cases suffix : Scale.ofSuffix? (unsigned.dropWhile isNumberPart) with
      | none =>
          rw [magnitude_eq_refusal digits fractionShort suffix]
          rfl
      | some scale =>
          rw [magnitude_eq negative digits fractionShort (isSuffix_of_ofSuffix? suffix),
            Option.bind_some, Option.bind_some, Numeral.value?]
          cases found : Numeral.magnitude? { negative, whole, fraction, scale } with
          | none => rfl
          | some magnitude =>
              rw [Option.map_some, Evaluation.ofOption_some, Evaluation.value_bind,
                Int.ofNat_eq_natCast, signed_eq negative (lt_bound_of_magnitude? digits found)]
              rfl

/-- In a short text no step is a fault, and what is read is the exact value. -/
theorem parse_eq_ofExcept {input : String} (short : input.utf8ByteSize < 2 ^ 31 - 32) :
    parse input = .ofExcept (Quantity.parse input) := by
  have parsed : Evaluation.ofExcept (Quantity.parse input) =
      .ofOption ((Numeral.read? (trimmed input.toList)).bind Numeral.value?) := by
    rw [Quantity.parse]
    cases (Numeral.read? (trimmed input.toList)).bind Numeral.value? <;> rfl
  rw [parsed]
  by_cases filled : trimmed input.toList = []
  · rw [parse, filled]
    rfl
  · have notEmpty : ¬ (trimmed input.toList).isEmpty = true := by simpa using filled
    have unsignedShort : (Quantity.splitSign (trimmed input.toList)).2.length < 2 ^ 31 - 32 := by
      calc
        (Quantity.splitSign (trimmed input.toList)).2.length ≤ (trimmed input.toList).length :=
          length_splitSign_le _
        _ ≤ input.toList.length := length_trimmed_le _
        _ ≤ (bytes input.toList).length := length_le_length_bytes _
        _ = input.utf8ByteSize := (utf8ByteSize_eq input).symm
        _ < 2 ^ 31 - 32 := short
    rw [parse, if_neg notEmpty, splitSign_eq filled, Evaluation.value_bind,
      readUnsigned_eq _ unsignedShort, read?_eq]

end ClusterAudit.Quantity.Words
