import ClusterAudit.Text.Decimal

/-!
The range of doubles: the decimal numbers that round to a finite one.
-/

namespace ClusterAudit.Text

/-- The least number that is too large: halfway between the largest double and the power of two
that would follow it. -/
def doubleBound : Nat := Nat.pow 2 1024 - Nat.pow 2 970

/-- The number of digits of the bound. -/
def boundPlaces : Nat := 309

/-- Whether a row of digits stands for a number in range when the point at its end is moved to the
right by the given number of places. -/
def isFiniteDouble (written : List Char) (places : Int) : Bool :=
  let significant := written.dropWhile (· == '0')
  let size : Int := significant.length + places
  if significant.isEmpty || size < boundPlaces then true
  else if boundPlaces < size then false
  else
    let whole := significant.take boundPlaces ++
      List.replicate (boundPlaces - significant.length) '0'
    (natOfDigits? whole).any (· < doubleBound)

end ClusterAudit.Text
