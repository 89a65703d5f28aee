import ClusterAudit.Json.Basic
import ClusterAudit.Text.Decimal
import ClusterAudit.Text.Hex

/-!
Writing JSON text without blanks.
-/

namespace ClusterAudit.Json

open Text

/-- A character inside a quoted string. -/
def escaped (character : Char) : List Char :=
  if character == '"' then ['\\', '"']
  else if character == '\\' then ['\\', '\\']
  else if character == '\n' then ['\\', 'n']
  else if character == '\r' then ['\\', 'r']
  else if character == '\t' then ['\\', 't']
  else if character == '\x08' then ['\\', 'b']
  else if character == '\x0c' then ['\\', 'f']
  else if character.toNat < 0x20 then
    '\\' :: 'u' :: hexDigits 4 character.toNat
  else [character]

/-- A string in quotes. -/
def quoted (text : String) : String :=
  "\"" ++ String.ofList (text.toList.flatMap escaped) ++ "\""

mutual

/-- The text of a value. -/
def toText : Json → String
  | null => "null"
  | bool true => "true"
  | bool false => "false"
  | int value => ofInt value
  | decimal shortest => shortest
  | str text => quoted text
  | arr items => "[" ++ itemsText items ++ "]"
  | obj members => "\x7b" ++ membersText members ++ "\x7d"

/-- The items of an array between commas. -/
def itemsText : List Json → String
  | [] => ""
  | [item] => toText item
  | item :: rest => toText item ++ "," ++ itemsText rest

/-- The members of an object between commas. -/
def membersText : List (String × Json) → String
  | [] => ""
  | [(name, value)] => quoted name ++ ":" ++ toText value
  | (name, value) :: rest => quoted name ++ ":" ++ toText value ++ "," ++ membersText rest

end

end ClusterAudit.Json
