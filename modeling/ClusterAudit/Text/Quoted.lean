import ClusterAudit.Text.Hex
import ClusterAudit.Text.Unseen

/-!
Texts in quotes, for messages that show what was received. Characters that cannot be seen, or that
change the look of others, are written by their numbers.
-/

namespace ClusterAudit.Text

/-- A character between quotes. -/
def quotedCharacter : Char → List Char
  | '"' => ['\\', '"']
  | '\\' => ['\\', '\\']
  | '\t' => ['\\', 't']
  | '\n' => ['\\', 'n']
  | '\r' => ['\\', 'r']
  | '\x00' => ['\\', '0']
  | character =>
      if isUnseen character then "\\u\x7b".toList ++ shortHex 6 character.toNat ++ ['\x7d']
      else [character]

/-- A text in quotes. -/
def quoted (text : String) : String :=
  String.ofList ('"' :: text.toList.flatMap quotedCharacter ++ ['"'])

end ClusterAudit.Text
