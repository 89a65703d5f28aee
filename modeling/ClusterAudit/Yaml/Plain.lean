import ClusterAudit.Text.Double
import ClusterAudit.Text.Hex

/-!
Texts that stand for something else than a text when they are written plainly in YAML: nothing,
truth values and numbers.
-/

namespace ClusterAudit.Yaml

open Text

def isNullWord (text : String) : Bool :=
  text == "" || text == "null" || text == "Null" || text == "NULL" || text == "~"

def isTruthWord (text : String) : Bool :=
  ["true", "True", "TRUE", "false", "False", "FALSE"].contains text

/-! ## Whole numbers -/

/-- The value of a non-empty row of digits of a base. -/
def digitsValue? (base : Nat) (text : List Char) : Option Nat :=
  if text.isEmpty then none
  else
    text.foldlM (fun value character =>
      (hexValue? character).bind fun digit =>
        if digit < base then some (value * base + digit) else none) 0

/-- Digits after a base mark, or decimal ones. -/
def magnitude? : List Char → Option Nat
  | '0' :: 'x' :: rest => digitsValue? 16 rest
  | '0' :: 'o' :: rest => digitsValue? 8 rest
  | '0' :: 'b' :: rest => digitsValue? 2 rest
  | text => digitsValue? 10 text

/-- Text without one sign at its start. -/
def withoutSign : List Char → List Char
  | '+' :: rest => rest
  | '-' :: rest => rest
  | text => text

/-- A zero followed by more digits, which some readers take for an octal number. -/
def isZeroPadded (text : List Char) : Bool :=
  match withoutSign text with
  | '0' :: rest => !rest.isEmpty && rest.all isDigit
  | _ => false

/-- A whole number of at most 128 bits. -/
def isWholeNumber : List Char → Bool
  | '-' :: rest => (magnitude? rest).any (· ≤ Nat.pow 2 127)
  | '+' :: rest => (magnitude? rest).any (· < Nat.pow 2 128)
  | text => (magnitude? text).any (· < Nat.pow 2 128)

/-! ## Numbers with a fraction or an exponent -/

/-- The digits of a number, and how far its point is to be moved from their end. -/
def splitFloat? (text : List Char) : Option (List Char × Int) :=
  let whole := text.takeWhile isDigit
  let afterWhole := text.dropWhile isDigit
  let (fraction, rest) := match afterWhole with
    | '.' :: rest => (rest.takeWhile isDigit, rest.dropWhile isDigit)
    | rest => ([], rest)
  if (whole ++ fraction).isEmpty then none
  else
    let exponent? := match rest with
      | [] => some 0
      | 'e' :: exponent => signed? exponent
      | 'E' :: exponent => signed? exponent
      | _ => none
    exponent?.map fun exponent => (whole ++ fraction, exponent - fraction.length)

/-- A number with a fraction or an exponent, or the name of an infinity or of no number. -/
def isFloat (text : List Char) : Bool :=
  let written := String.ofList text
  let unsigned := match text with
    | '+' :: rest => rest
    | text => text
  let isSpecial := [".inf", ".Inf", ".INF"].contains (String.ofList unsigned) ||
    ["-.inf", "-.Inf", "-.INF", ".nan", ".NaN", ".NAN"].contains written
  let isDoubleSigned := match text with
    | '+' :: '+' :: _ => true
    | '+' :: '-' :: _ => true
    | _ => false
  !isDoubleSigned &&
    (isSpecial || (splitFloat? (withoutSign text)).any fun (digits, places) =>
      isFiniteDouble digits places)

/-- A text that is, or looks like, something else if it is written plainly. -/
def isAmbiguous (text : String) : Bool :=
  isNullWord text || isTruthWord text || isZeroPadded text.toList || isWholeNumber text.toList ||
    isFloat text.toList

end ClusterAudit.Yaml
