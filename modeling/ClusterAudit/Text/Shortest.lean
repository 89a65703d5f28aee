import ClusterAudit.Text.Decimal

/-!
The shortest text of a double: the fewest digits that no other double is nearer to, and of these the
ones next to the double itself.
-/

namespace ClusterAudit.Text

/-- The numbers that round to a positive double, from `least` to `greatest` around its own `value`, in
quarters of the least positive double. The ends round to the double when `closed` holds. -/
structure RoundingRange where
  least : Nat
  value : Nat
  greatest : Nat
  closed : Bool
deriving DecidableEq, Repr

namespace RoundingRange

/-- The number of such quarters in one. -/
def unitsInOne : Nat := Nat.pow 2 1076

/-- The range of a positive double. Doubles lie half as far apart below a power of two. -/
def ofDouble (double : Float) : RoundingRange :=
  let bits := double.toBits.toNat
  let hidden := Nat.pow 2 52
  let fraction := bits % hidden
  let exponent := bits / hidden % 2048
  let significand := if exponent = 0 then fraction else hidden + fraction
  let step := Nat.pow 2 (exponent - 1)
  { least := 4 * significand * step - if fraction = 0 && 1 < exponent then step else 2 * step
    value := 4 * significand * step
    greatest := 4 * significand * step + 2 * step
    closed := significand % 2 = 0 }

/-- The multiple of a power of ten, given by its number of zeros, that is nearest to the value among
those that lie in the range. A half goes to the even one. -/
def multiple? (range : RoundingRange) (zeros : Int) : Option Nat :=
  let scale := Nat.pow 10 (-zeros).toNat
  let unit := unitsInOne * Nat.pow 10 zeros.toNat
  let holds := fun (count : Nat) =>
    if range.closed then
      range.least * scale ≤ count * unit && count * unit ≤ range.greatest * scale
    else range.least * scale < count * unit && count * unit < range.greatest * scale
  let below := range.value * scale / unit
  let left := 2 * (range.value * scale % unit)
  let isNearer := left < unit || (left == unit && below % 2 == 0)
  if holds below && (isNearer || !holds (below + 1)) then some below
  else if holds (below + 1) then some (below + 1)
  else none

/-- The digits of the shortest text and the number of zeros after them. No double needs digits
beyond the last place that is tried. -/
def shortest (range : RoundingRange) : Nat × Int :=
  let first := (digits (range.value / unitsInOne)).length
  let places := (List.range (first + 325)).map fun (place : Nat) => (first : Int) - place
  (places.findSome? fun zeros => (range.multiple? zeros).map fun count => (count, zeros)).getD (0, 0)

end RoundingRange

/-- The power of ten by which a text is scaled, with its sign. -/
def exponentText (exponent : Int) : List Char :=
  if exponent < 0 then (ofInt exponent).toList else '+' :: (ofInt exponent).toList

/-- Digits with a number of zeros after them. The point is written where it stands if it stands near
the digits, and then with a digit after it; elsewhere the text is scaled by a power of ten. -/
def pointedText (written : List Char) (zeros : Int) : List Char :=
  let point := written.length + zeros
  if 0 ≤ zeros ∧ point ≤ 16 then written ++ List.replicate zeros.toNat '0' ++ ['.', '0']
  else if 0 < point ∧ point ≤ 16 then
    written.take point.toNat ++ '.' :: written.drop point.toNat
  else if -5 < point ∧ point ≤ 0 then
    '0' :: '.' :: List.replicate (-point).toNat '0' ++ written
  else
    let rest := written.drop 1
    written.take 1 ++ (if rest.isEmpty then [] else '.' :: rest) ++ 'e' :: exponentText (point - 1)

/-- The shortest text of a double that is finite and not negative. -/
def ofDouble (double : Float) : String :=
  if double == 0 then "0.0"
  else
    let (count, zeros) := (RoundingRange.ofDouble double).shortest
    String.ofList (pointedText (digits count) zeros)

end ClusterAudit.Text
