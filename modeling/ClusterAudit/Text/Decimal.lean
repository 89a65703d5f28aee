/-!
Decimal digits: reading and writing whole numbers, with the bounds that a field puts on them.
-/

namespace ClusterAudit.Text

/-- The value of an ASCII decimal digit. -/
def digitValue? (character : Char) : Option Nat :=
  if '0' ≤ character ∧ character ≤ '9' then some (character.toNat - '0'.toNat) else none

/-- An ASCII decimal digit. -/
def isDigit (character : Char) : Bool :=
  '0' ≤ character && character ≤ '9'

/-- The digit that stands for the last decimal place of a number. -/
def digitOf (value : Nat) : Char :=
  Char.ofNat ('0'.toNat + value % 10)

/-- The decimal digits of a number, without leading zeros. -/
def digits (value : Nat) : List Char :=
  if value < 10 then [digitOf value] else digits (value / 10) ++ [digitOf value]
termination_by value
decreasing_by omega

/-- The decimal digits of a number, with leading zeros up to the given width. -/
def paddedDigits (width value : Nat) : List Char :=
  let written := digits value
  List.replicate (width - written.length) '0' ++ written

/-- The number whose digits are appended to those of `start`. -/
def extendDigits? (start : Nat) : List Char → Option Nat
  | [] => some start
  | character :: rest =>
      match digitValue? character with
      | some digit => extendDigits? (start * 10 + digit) rest
      | none => none

/-- The number a non-empty text of digits stands for. -/
def natOfDigits? : List Char → Option Nat
  | [] => none
  | text => extendDigits? 0 text

/-- A whole number between zero and `most`, with an optional plus sign. -/
def unsignedUpTo? (most : Nat) (text : List Char) : Option Nat :=
  let unsigned :=
    match text with
    | '+' :: rest => rest
    | text => text
  (natOfDigits? unsigned).filter (· ≤ most)

/-- A whole number with an optional sign. -/
def signed? : List Char → Option Int
  | '+' :: rest => (natOfDigits? rest).map Int.ofNat
  | '-' :: rest => (natOfDigits? rest).map fun value => - Int.ofNat value
  | text => (natOfDigits? text).map Int.ofNat

/-- A number in decimal. -/
def ofNat (value : Nat) : String :=
  String.ofList (digits value)

/-- A whole number in decimal, negative ones after a minus sign. -/
def ofInt (value : Int) : String :=
  if value < 0 then "-" ++ ofNat value.natAbs else ofNat value.natAbs

end ClusterAudit.Text
