/-!
Blank space in text: the Unicode property White_Space, and text without the blanks at its ends.
-/

namespace ClusterAudit.Text

/-- The characters with the Unicode property White_Space. -/
def isBlank (character : Char) : Bool :=
  let code := character.toNat
  (9 ≤ code && code ≤ 13) || code == 0x20 || code == 0x85 || code == 0xA0 || code == 0x1680 ||
    (0x2000 ≤ code && code ≤ 0x200A) || code == 0x2028 || code == 0x2029 || code == 0x202F ||
    code == 0x205F || code == 0x3000

/-- A text without the blanks at its start. -/
def trimStart (text : List Char) : List Char :=
  text.dropWhile isBlank

/-- A text without the blanks at its end. -/
def trimEnd (text : List Char) : List Char :=
  (text.reverse.dropWhile isBlank).reverse

/-- A text without the blanks at either end. -/
def trimmed (text : List Char) : List Char :=
  trimEnd (trimStart text)

/-- A string without the blanks at either end. -/
def trim (text : String) : String :=
  String.ofList (trimmed text.toList)

end ClusterAudit.Text
