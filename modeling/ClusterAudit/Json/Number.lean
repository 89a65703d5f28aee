import ClusterAudit.Json.Basic
import ClusterAudit.Text.Shortest

/-!
The values of numbers in JSON text. A number without fraction and exponent is whole if it has 64
bits; every other number is a double. The digits of a double make up a whole number of 64 bits, those
for which there is no room are dropped, and a power of ten moves the point to its place. Each of
these steps rounds.
-/

namespace ClusterAudit.Json

open Text

/-- The first whole number that has more than 64 bits. -/
def wholeLimit : Nat := Nat.pow 2 64

/-- Puts digits after those of a number as long as there is room for them: the number, and how many
digits are left. -/
def absorb (value : Nat) : List Char → Nat × Nat
  | [] => (value, 0)
  | character :: rest =>
      let next := value * 10 + (digitValue? character).getD 0
      if next < wholeLimit then absorb next rest else (value, rest.length + 1)

/-- The greatest power of ten that a double is scaled by at once. -/
def mostPlaces : Nat := 308

def powerOfTen (places : Nat) : Float :=
  Float.ofScientific 1 false places

/-- A double with its point moved to the left. -/
def lower (value : Float) (places : Nat) : Float :=
  if value == 0 then value
  else if places ≤ mostPlaces then value / powerOfTen places
  else lower (value / powerOfTen mostPlaces) (places - mostPlaces)
termination_by places
decreasing_by simp only [mostPlaces] at *; omega

/-- A whole number times a power of ten, if that is finite. -/
def scale? (value : Nat) (exponent : Int) : Option Float :=
  let start := Float.ofNat value
  if exponent < 0 then some (lower start exponent.natAbs)
  else if value = 0 then some start
  else if mostPlaces < exponent then none
  else
    let scaled := start * powerOfTen exponent.toNat
    if scaled.isInf then none else some scaled

/-- The double of a whole number times a power of ten. A zero keeps its sign. -/
def double? (negative : Bool) (value : Nat) (exponent : Int) : Option Json :=
  (scale? value exponent).map fun size =>
    decimal ((if negative then "-" else "") ++ ofDouble size)

/-- The value of a number, given by its sign, the digits before and after its point, and its exponent
if it has one. One that is out of range has no value. -/
def number? (negative : Bool) (whole fraction : List Char) (exponent : Option Int) : Option Json :=
  let (value, left) := absorb 0 whole
  let isWhole := fraction.isEmpty && exponent.isNone && left == 0
  if isWhole && !negative then some (int value)
  else if isWhole && 0 < value && value ≤ wholeLimit / 2 then some (int (-value))
  else
    let (value, dropped) := absorb value fraction
    double? negative value (exponent.getD 0 + left + dropped - fraction.length)

/-! ## Zeros -/

mutual

/-- A value whose zeros have no signs. Two values with the same plain zeros are equal as numbers. -/
def plainZeros : Json → Json
  | decimal shortest => decimal (if shortest = "-0.0" then "0.0" else shortest)
  | arr items => arr (plainItemZeros items)
  | obj members => obj (plainMemberZeros members)
  | json => json

def plainItemZeros : List Json → List Json
  | [] => []
  | item :: rest => plainZeros item :: plainItemZeros rest

def plainMemberZeros : List (String × Json) → List (String × Json)
  | [] => []
  | (name, value) :: rest => (name, plainZeros value) :: plainMemberZeros rest

end

end ClusterAudit.Json
