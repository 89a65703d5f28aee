import ClusterAudit.Text.Blank
import ClusterAudit.Text.Decimal

/-!
Amounts of a resource such as processor time or memory. A quantity is compared by its value, not by
its spelling: `100m` and `0.1` are the same amount. Values are whole numbers of nano-units, and
whatever is finer than one nano-unit is rounded away from zero.
-/

namespace ClusterAudit

/-- An amount of a resource, in nano-units of its base unit. -/
structure Quantity where
  nanos : Int
deriving DecidableEq, Repr

/-- A text that is not a quantity, kept as it was given. -/
structure QuantityError where
  input : String
deriving DecidableEq, Repr

namespace QuantityError

def message (error : QuantityError) : String :=
  "invalid quantity '" ++ error.input ++ "'"

end QuantityError

namespace Quantity

open Text

def zero : Quantity := ⟨0⟩

instance : Ord Quantity where
  compare left right := compare left.nanos right.nanos

/-! ## Written form -/

/-- The factor `10 ^ tens * 2 ^ twos` that a suffix stands for. -/
structure Scale where
  tens : Int
  twos : Nat
deriving DecidableEq, Repr

/-- The scale of a decimal exponent, which lies between -18 and 18. -/
def Scale.ofExponent? (exponent : List Char) : Option Scale :=
  (signed? exponent).bind fun tens =>
    if -18 ≤ tens ∧ tens ≤ 18 then some ⟨tens, 0⟩ else none

/-- The scale a suffix stands for: a decimal prefix, a binary prefix or a decimal exponent. -/
def Scale.ofSuffix? : List Char → Option Scale
  | [] => some ⟨0, 0⟩
  | ['n'] => some ⟨-9, 0⟩
  | ['u'] => some ⟨-6, 0⟩
  | ['m'] => some ⟨-3, 0⟩
  | ['k'] => some ⟨3, 0⟩
  | ['M'] => some ⟨6, 0⟩
  | ['G'] => some ⟨9, 0⟩
  | ['T'] => some ⟨12, 0⟩
  | ['P'] => some ⟨15, 0⟩
  | ['E'] => some ⟨18, 0⟩
  | ['K', 'i'] => some ⟨0, 10⟩
  | ['M', 'i'] => some ⟨0, 20⟩
  | ['G', 'i'] => some ⟨0, 30⟩
  | ['T', 'i'] => some ⟨0, 40⟩
  | ['P', 'i'] => some ⟨0, 50⟩
  | ['E', 'i'] => some ⟨0, 60⟩
  | 'e' :: exponent => Scale.ofExponent? exponent
  | 'E' :: exponent => Scale.ofExponent? exponent
  | _ => none

/-- The parts of a written quantity: a sign, the digits before and after the point, and a scale. -/
structure Numeral where
  negative : Bool
  whole : List Char
  fraction : List Char
  scale : Scale
deriving DecidableEq, Repr

/-- The sign at the start of a text and what follows it. -/
def splitSign : List Char → Bool × List Char
  | '-' :: rest => (true, rest)
  | '+' :: rest => (false, rest)
  | text => (false, text)

/-- A character of the number before the suffix. -/
def isNumberPart (character : Char) : Bool :=
  isDigit character || character == '.'

/-- The digits before and after the point, which may be absent but for one digit. -/
def splitPoint? (number : List Char) : Option (List Char × List Char) :=
  let whole := number.takeWhile (· != '.')
  let fraction := (number.dropWhile (· != '.')).drop 1
  if (whole ++ fraction).isEmpty || fraction.contains '.' then none else some (whole, fraction)

/-- The parts of a text without blanks at its ends. -/
def Numeral.read? (text : List Char) : Option Numeral := do
  let (negative, unsigned) := splitSign text
  let (whole, fraction) ← splitPoint? (unsigned.takeWhile isNumberPart)
  let scale ← Scale.ofSuffix? (unsigned.dropWhile isNumberPart)
  return { negative, whole, fraction, scale }

/-! ## Value -/

/-- The first magnitude, in nano-units, that is too large for a quantity. -/
def bound : Nat := Nat.pow 2 127

/-- A magnitude, if it is below the bound. -/
def bounded? (magnitude : Nat) : Option Nat :=
  if magnitude < bound then some magnitude else none

/-- The number that a row of digits stands for, as long as it stays below the bound. -/
def mantissa? (start : Nat) : List Char → Option Nat
  | [] => some start
  | character :: rest => do
      let digit ← digitValue? character
      let next ← bounded? (start * 10 + digit)
      mantissa? next rest

/-- A magnitude divided by a power of ten and rounded up. -/
def shiftDown (magnitude places : Nat) : Nat :=
  (magnitude + Nat.pow 10 places - 1) / Nat.pow 10 places

/-- The magnitude of a numeral in nano-units, if no step of its computation leaves the bound. -/
def Numeral.magnitude? (numeral : Numeral) : Option Nat := do
  let mantissa ← mantissa? 0 (numeral.whole ++ numeral.fraction)
  let scaled ← bounded? (mantissa * Nat.pow 2 numeral.scale.twos)
  let places := numeral.scale.tens - numeral.fraction.length + 9
  if 0 ≤ places then bounded? (scaled * Nat.pow 10 places.toNat)
  else if 39 ≤ -places then some (min scaled 1)
  else some (shiftDown scaled (-places).toNat)

/-- The value of a numeral. -/
def Numeral.value? (numeral : Numeral) : Option Quantity :=
  numeral.magnitude?.map fun magnitude =>
    ⟨if numeral.negative then - Int.ofNat magnitude else Int.ofNat magnitude⟩

/-- Reads a quantity: an optional sign, a decimal number and a suffix, between blanks. -/
def parse (input : String) : Except QuantityError Quantity :=
  match (Numeral.read? (trimmed input.toList)).bind Numeral.value? with
  | some quantity => .ok quantity
  | none => .error ⟨input⟩

/-! ## Display -/

/-- Text without the zeros at its end. -/
def withoutTrailingZeros (text : List Char) : List Char :=
  (text.reverse.dropWhile (· == '0')).reverse

/-- Writes a quantity in base units, with as many fraction digits as it needs. -/
def display (quantity : Quantity) : String :=
  let whole := ofInt (quantity.nanos.tdiv 1000000000)
  let fraction := quantity.nanos.natAbs % 1000000000
  if fraction = 0 then whole
  else whole ++ "." ++ String.ofList (withoutTrailingZeros (paddedDigits 9 fraction))

/-! ## Comparing texts -/

/-- A missing amount counts as zero. -/
def ofOptional? : Option String → Option Quantity
  | none => some zero
  | some text => (parse text).toOption

/-- Two optional texts stand for the same amount. Texts that are no quantity only equal themselves,
apart from the blanks at their ends. -/
def sameAmount (left right : Option String) : Bool :=
  match ofOptional? left, ofOptional? right with
  | some leftAmount, some rightAmount => leftAmount == rightAmount
  | _, _ => left.map trim == right.map trim

end Quantity

end ClusterAudit
