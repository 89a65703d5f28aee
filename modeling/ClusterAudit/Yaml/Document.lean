import ClusterAudit.Json.Basic
import ClusterAudit.Yaml.Scalar

/-!
YAML documents: nested tables and lists, written over indented lines.
-/

namespace ClusterAudit

/-- A document. The entries of a table keep their order. -/
inductive Yaml where
  | null
  | text (value : String)
  | bool (value : Bool)
  | int (value : Int)
  | decimal (literal : String)
  | list (items : List Yaml)
  | table (entries : List (String × Yaml))
deriving Repr, Inhabited

namespace Yaml

open Text

/-- Ends a line, unless the line before it has just been ended. -/
def endLine (written : List Char) : List Char :=
  if written.getLast?.any isBreak then written else written ++ ['\n']

mutual

/-- What follows the colon of an entry in a table of the given indentation, or the dash of an item.
Tables and lists begin on a line of their own. -/
def afterColon (indent : Nat) : Yaml → List Char
  | null => " null\n".toList
  | text value => endLine (' ' :: scalarText (indent + 2) value)
  | bool value => (if value then " true\n" else " false\n").toList
  | int value => ' ' :: (ofInt value).toList ++ ['\n']
  | decimal literal => ' ' :: literal.toList ++ ['\n']
  | list [] => " []\n".toList
  | list (item :: rest) => '\n' :: itemLines indent (item :: rest)
  | table [] => " \x7b\x7d\n".toList
  | table (entry :: rest) => '\n' :: entryLines (indent + 2) (entry :: rest)

/-- The entries of a table, each on its own lines of the given indentation. -/
def entryLines (indent : Nat) : List (String × Yaml) → List Char
  | [] => []
  | (name, value) :: rest =>
      spaces indent ++ scalarText indent name ++ ':' :: afterColon indent value ++
        entryLines indent rest

/-- The items of a list. A table begins on the line of its dash. -/
def itemLines (indent : Nat) : List Yaml → List Char
  | [] => []
  | table ((name, value) :: more) :: rest =>
      spaces indent ++ '-' :: ' ' :: scalarText (indent + 2) name ++ ':' ::
        afterColon (indent + 2) value ++ entryLines (indent + 2) more ++ itemLines indent rest
  | item :: rest => spaces indent ++ '-' :: afterColon indent item ++ itemLines indent rest

end

/-- A document as text. -/
def toText : Yaml → String
  | table (entry :: rest) => String.ofList (entryLines 0 (entry :: rest))
  | list (item :: rest) => String.ofList (itemLines 0 (item :: rest))
  | value => String.ofList ((afterColon 0 value).drop 1)

mutual

/-- A JSON value as a document. -/
def ofJson : Json → Yaml
  | .null => null
  | .bool value => bool value
  | .int value => int value
  | .decimal literal => decimal literal
  | .str value => text value
  | .arr items => list (ofItems items)
  | .obj members => table (ofMembers members)

def ofItems : List Json → List Yaml
  | [] => []
  | item :: rest => ofJson item :: ofItems rest

def ofMembers : List (String × Json) → List (String × Yaml)
  | [] => []
  | (name, value) :: rest => (name, ofJson value) :: ofMembers rest

end

end Yaml

end ClusterAudit
