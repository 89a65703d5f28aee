import ClusterAudit.Text.Hex
import ClusterAudit.Yaml.Plain

/-!
Texts as YAML scalars: written plainly where that reads back as the same text, else between quotes,
and as a block where they have lines.
-/

namespace ClusterAudit.Yaml

open Text

/-! ## Character classes -/

/-- Characters that need no escape. -/
def isPrintable (character : Char) : Bool :=
  let code := character.toNat
  code == 0x0A || (0x20 ≤ code && code ≤ 0x7E) ||
    (0xA0 ≤ code && code != 0xFEFF && code != 0xFFFE && code != 0xFFFF)

/-- Characters that end a line. -/
def isBreak (character : Char) : Bool :=
  character == '\r' || character == '\n' || character == '\u0085' || character == '\u2028' ||
    character == '\u2029'

/-- Blanks, line ends and the end of the text. -/
def isGapOrEnd : Option Char → Bool
  | none => true
  | some character =>
      character == ' ' || character == '\t' || isBreak character || character == '\x00'

/-! ## Analysis -/

/-- Characters that have a meaning at the start of a plain scalar. -/
def isLeadIndicator (character : Char) : Bool :=
  ['#', ',', '[', ']', '\x7b', '\x7d', '&', '*', '!', '|', '>', '\'', '"', '%', '@', '\x60'].contains
    character

/-- Whether the characters from here on have a meaning of their own in a plain scalar. The first
argument is the character before them, if there is one. -/
def hasIndicator : Option Char → List Char → Bool
  | _, [] => false
  | none, character :: rest =>
      isLeadIndicator character ||
        ((character == '?' || character == ':' || character == '-') && isGapOrEnd rest.head?) ||
        hasIndicator (some character) rest
  | some previous, character :: rest =>
      (character == ':' && isGapOrEnd rest.head?) ||
        (character == '#' && isGapOrEnd (some previous)) ||
        hasIndicator (some character) rest

/-- Text that starts like the mark between documents. -/
def startsLikeMark (text : List Char) : Bool :=
  text.take 3 == ['-', '-', '-'] || text.take 3 == ['.', '.', '.']

/-- A first character of one class directly before one of another. -/
def hasPair (first second : Char → Bool) (text : List Char) : Bool :=
  (text.zip text.tail).any fun pair => first pair.1 && second pair.2

def isSpace (character : Char) : Bool :=
  character == ' '

/-- How a text may be written. -/
inductive Style where
  | plain
  | singleQuoted
  | doubleQuoted
  | block
deriving DecidableEq, Repr

/-- The style of a text. Lines ended by a newline ask for a block; a text that would be read as
something else asks for quotes. -/
def Style.of (text : String) : Style :=
  let characters := text.toList
  let isSpecial := characters.any (!isPrintable ·) || hasPair isSpace isBreak characters
  let quotable := !isSpecial && !hasPair isBreak isSpace characters
  if characters.contains '\n' then
    if isSpecial || characters.getLast?.any isSpace then doubleQuoted else block
  else if isAmbiguous text then
    if quotable then singleQuoted else doubleQuoted
  else
    let isPlain := quotable && !characters.any isBreak && !characters.head?.any isSpace &&
      !characters.getLast?.any isSpace && !startsLikeMark characters &&
      !hasIndicator none characters
    if isPlain then plain else if quotable then singleQuoted else doubleQuoted

/-! ## Writing -/

def spaces (count : Nat) : List Char :=
  List.replicate count ' '

/-- The lines of a text between single quotes. What follows a line end is indented. -/
def singleQuotedText (indent : Nat) : (atLineStart : Bool) → List Char → List Char
  | true, [] => spaces indent
  | false, [] => []
  | atLineStart, character :: rest =>
      if isBreak character then character :: singleQuotedText indent true rest
      else
        (if atLineStart then spaces indent else []) ++
          (if character == '\'' then ['\'', '\''] else [character]) ++
          singleQuotedText indent false rest

/-- The escape of a character in double quotes, if it needs one. -/
def escape? (character : Char) : Option (List Char) :=
  let code := character.toNat
  if isPrintable character && !isBreak character && character != '"' && character != '\\' then none
  else
    some <| '\\' ::
      if code == 0x00 then ['0']
      else if code == 0x07 then ['a']
      else if code == 0x08 then ['b']
      else if code == 0x09 then ['t']
      else if code == 0x0A then ['n']
      else if code == 0x0B then ['v']
      else if code == 0x0C then ['f']
      else if code == 0x0D then ['r']
      else if code == 0x1B then ['e']
      else if code == 0x22 then ['"']
      else if code == 0x5C then ['\\']
      else if code == 0x85 then ['N']
      else if code == 0xA0 then ['_']
      else if code == 0x2028 then ['L']
      else if code == 0x2029 then ['P']
      else if code ≤ 0xFF then 'x' :: (hexDigits 2 code).map Char.toUpper
      else if code ≤ 0xFFFF then 'u' :: (hexDigits 4 code).map Char.toUpper
      else 'U' :: (hexDigits 8 code).map Char.toUpper

/-- The lines of a block, each indented unless it is empty. -/
def blockText (indent : Nat) : (atLineStart : Bool) → List Char → List Char
  | _, [] => []
  | atLineStart, character :: rest =>
      if isBreak character then character :: blockText indent true rest
      else (if atLineStart then spaces indent else []) ++ character :: blockText indent false rest

/-- The marks after the bar of a block: the indentation where the first line does not show it, and
what becomes of the line end at its end. -/
def blockHints (text : List Char) : List Char :=
  (if text.head?.any fun character => isSpace character || isBreak character then ['2'] else []) ++
    match text.reverse with
    | [] => ['-']
    | last :: rest =>
        if !isBreak last then ['-']
        else
          match rest with
          | [] => ['+']
          | before :: _ => if isBreak before then ['+'] else []

/-- A text as a scalar whose further lines have the given indentation. A block that ends in a line
end has written its own. -/
def scalarText (indent : Nat) (text : String) : List Char :=
  let characters := text.toList
  match Style.of text with
  | .plain => characters
  | .singleQuoted => '\'' :: singleQuotedText indent false characters ++ ['\'']
  | .doubleQuoted =>
      '"' :: characters.flatMap (fun character => (escape? character).getD [character]) ++ ['"']
  | .block => '|' :: blockHints characters ++ '\n' :: blockText indent true characters

end ClusterAudit.Yaml
