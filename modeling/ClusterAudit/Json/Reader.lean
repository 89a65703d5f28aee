import ClusterAudit.Json.Draft
import ClusterAudit.Json.Number
import ClusterAudit.Text.Hex

/-!
Reading JSON text. A value stands between blanks and nothing follows it.
-/

namespace ClusterAudit

open Json Text

namespace Draft

/-- The blanks of JSON. -/
def isGap (character : Char) : Bool :=
  character == ' ' || character == '\t' || character == '\n' || character == '\r'

def skipGap (text : List Char) : List Char :=
  text.dropWhile isGap

/-! ## Strings -/

/-- The code unit that four hexadecimal digits stand for. -/
def codeUnit? (first second third fourth : Char) : Option Nat := do
  let first ← hexValue? first
  let second ← hexValue? second
  let third ← hexValue? third
  let fourth ← hexValue? fourth
  return ((first * 16 + second) * 16 + third) * 16 + fourth

/-- The character after a backslash that stands for one character. -/
def plainEscape? : Char → Option Char
  | '"' => some '"'
  | '\\' => some '\\'
  | '/' => some '/'
  | 'b' => some '\x08'
  | 'f' => some '\x0c'
  | 'n' => some '\n'
  | 'r' => some '\r'
  | 't' => some '\t'
  | _ => none

/-- The code units up to the closing quote, and what follows the quote. A character that is written
as itself is one unit. -/
def readUnits? : List Char → Option (List Nat × List Char)
  | [] => none
  | '"' :: rest => some ([], rest)
  | '\\' :: 'u' :: a :: b :: c :: d :: rest =>
      match codeUnit? a b c d with
      | none => none
      | some unit => (readUnits? rest).map fun (units, rest) => (unit :: units, rest)
  | '\\' :: escape :: rest =>
      match plainEscape? escape with
      | none => none
      | some character =>
          (readUnits? rest).map fun (units, rest) => (character.toNat :: units, rest)
  | character :: rest =>
      if character.toNat < 0x20 || character == '\\' then none
      else (readUnits? rest).map fun (units, rest) => (character.toNat :: units, rest)

/-- The text of code units. A character beyond the first plane may be two units, neither of which
stands for anything alone. -/
def ofUnits? : List Nat → Option (List Char)
  | [] => some []
  | high :: low :: rest =>
      if 0xD800 ≤ high ∧ high < 0xDC00 then
        if 0xDC00 ≤ low ∧ low < 0xE000 then
          (ofUnits? rest).map fun text =>
            Char.ofNat (0x10000 + (high - 0xD800) * 0x400 + (low - 0xDC00)) :: text
        else none
      else if 0xDC00 ≤ high ∧ high < 0xE000 then none
      else (ofUnits? (low :: rest)).map fun text => Char.ofNat high :: text
  | [unit] => if 0xD800 ≤ unit ∧ unit < 0xE000 then none else some [Char.ofNat unit]

/-- A string after its opening quote, if its units stand for a text. -/
def readString? (text : List Char) : Option (Option String × List Char) :=
  (readUnits? text).map fun (units, rest) => ((ofUnits? units).map String.ofList, rest)

/-! ## Numbers -/

/-- The digits before a fraction: a zero alone, or digits that do not start with a zero. -/
def readWhole? (text : List Char) : Option (List Char × List Char) :=
  match text.takeWhile isDigit with
  | [] => none
  | '0' :: _ :: _ => none
  | written => some (written, text.dropWhile isDigit)

/-- The digits after a point, or nothing. -/
def readFractionPart? : List Char → Option (List Char × List Char)
  | '.' :: rest =>
      match rest.takeWhile isDigit with
      | [] => none
      | written => some (written, rest.dropWhile isDigit)
  | text => some ([], text)

/-- An exponent after its mark. -/
def readExponentValue? (text : List Char) : Option (Option Int × List Char) :=
  let (negative, unsigned) := match text with
    | '+' :: rest => (false, rest)
    | '-' :: rest => (true, rest)
    | text => (false, text)
  (natOfDigits? (unsigned.takeWhile isDigit)).map fun value =>
    (some (if negative then - Int.ofNat value else Int.ofNat value), unsigned.dropWhile isDigit)

/-- An exponent, or nothing. -/
def readExponent? : List Char → Option (Option Int × List Char)
  | 'e' :: rest => readExponentValue? rest
  | 'E' :: rest => readExponentValue? rest
  | text => some (none, text)

/-- A number without its sign. One that is out of range has no value. -/
def readUnsigned? (negative : Bool) (text : List Char) : Option (Draft × List Char) := do
  let (whole, rest) ← readWhole? text
  let (fraction, rest) ← readFractionPart? rest
  let (exponent, rest) ← readExponent? rest
  return (leaf (number? negative whole fraction exponent), rest)

/-! ## Values -/

mutual

/-- A value after its blanks. The first argument bounds the number of steps. -/
def readValue? : Nat → List Char → Option (Draft × List Char)
  | 0, _ => none
  | steps + 1, text =>
      match skipGap text with
      | 'n' :: 'u' :: 'l' :: 'l' :: rest => some (leaf (some .null), rest)
      | 't' :: 'r' :: 'u' :: 'e' :: rest => some (leaf (some (.bool true)), rest)
      | 'f' :: 'a' :: 'l' :: 's' :: 'e' :: rest => some (leaf (some (.bool false)), rest)
      | '"' :: rest => (readString? rest).map fun (text, rest) => (leaf (text.map .str), rest)
      | '-' :: rest => readUnsigned? true rest
      | '[' :: rest =>
          match skipGap rest with
          | ']' :: rest => some (arr [], rest)
          | rest => (readItems? steps rest).map fun (items, rest) => (arr items, rest)
      | '{' :: rest =>
          match skipGap rest with
          | '}' :: rest => some (obj [], rest)
          | rest => (readMembers? steps rest).map fun (members, rest) => (obj members, rest)
      | rest => readUnsigned? false rest

/-- The items of an array up to its closing bracket. -/
def readItems? : Nat → List Char → Option (List Draft × List Char)
  | 0, _ => none
  | steps + 1, text =>
      match readValue? steps text with
      | none => none
      | some (item, rest) =>
          match skipGap rest with
          | ']' :: rest => some ([item], rest)
          | ',' :: rest => (readItems? steps rest).map fun (items, rest) => (item :: items, rest)
          | _ => none

/-- The members of an object up to its closing brace. -/
def readMembers? : Nat → List Char → Option (List (Option String × Draft) × List Char)
  | 0, _ => none
  | steps + 1, text =>
      match skipGap text with
      | '"' :: rest =>
          match readString? rest with
          | none => none
          | some (name, rest) =>
              match skipGap rest with
              | ':' :: rest =>
                  match readValue? steps rest with
                  | none => none
                  | some (value, rest) =>
                      match skipGap rest with
                      | '}' :: rest => some ([(name, value)], rest)
                      | ',' :: rest =>
                          (readMembers? steps rest).map fun (members, rest) =>
                            ((name, value) :: members, rest)
                      | _ => none
              | _ => none
      | _ => none

end

/-- Takes a JSON text apart. -/
def parse? (text : String) : Option Draft :=
  let characters := text.toList
  match readValue? (characters.length + 1) characters with
  | some (draft, rest) => if (skipGap rest).isEmpty then some draft else none
  | none => none

end Draft

/-- Reads a JSON text all of whose parts have values. -/
def Json.parse? (text : String) : Option Json :=
  (Draft.parse? text).bind (Draft.value? Draft.mostNesting)

end ClusterAudit
