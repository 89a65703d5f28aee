import ClusterAudit.Json.Basic
import ClusterAudit.Labels
import ClusterAudit.Text.Decimal

/-!
Edits at a place in a value. A place is given by the names and positions on the way to it, written
as a JSON pointer.
-/

namespace ClusterAudit.Json

open Text

/-- What is done at a place. -/
inductive Edit where
  | put (value : Json)
  | remove
deriving Repr

/-- The name that a part of a pointer stands for: `~1` is a slash, and `~0` a tilde. -/
def unescape : List Char → List Char
  | '~' :: '1' :: rest => '/' :: unescape rest
  | '~' :: '0' :: rest => '~' :: unescape rest
  | character :: rest => character :: unescape rest
  | [] => []

/-- The names on the way to a place. -/
def pointerNames (pointer : String) : List String :=
  ((Selector.split '/' pointer.toList).drop 1).map fun part => String.ofList (unescape part)

/-- The position in an array that a name stands for. -/
def position? (items : List Json) (name : String) : Option Nat :=
  (unsignedUpTo? (Nat.pow 2 64 - 1) name.toList).filter (· < items.length)

/-- Puts a value under a name. A dash stands for the place after the last item of an array, and what
is neither array nor object becomes an object. -/
def putAt (json : Json) (name : String) (value : Json) : Option Json :=
  match json with
  | arr items =>
      if name = "-" then some (arr (items ++ [value]))
      else (position? items name).map fun position => arr (items.set position value)
  | json => some (json.set name value)

/-- Removes what is under a name; an object need not have it. -/
def removeAt (json : Json) (name : String) : Option Json :=
  match json with
  | arr items => (position? items name).map fun position => arr (items.eraseIdx position)
  | obj members => some (obj (members.filter fun entry => entry.1 != name))
  | _ => none

/-- Edits a value at the place that the names lead to. What is missing on the way counts as null,
and becomes an object where a value is put below it. -/
def editAt (edit : Edit) : List String → Json → Option Json
  | [], _ => none
  | [name], json =>
      match edit with
      | .put value => json.putAt name value
      | .remove => json.removeAt name
  | name :: rest, json =>
      match json with
      | arr items => do
          let position ← position? items name
          let edited ← editAt edit rest (← items[position]?)
          return arr (items.set position edited)
      | json => do
          let edited ← editAt edit rest ((json.get? name).getD null)
          return json.set name edited

/-- Edits a value at several places in turn. -/
def editAll (edits : List (List String × Edit)) (json : Json) : Option Json :=
  edits.foldlM (fun json edit => editAt edit.2 edit.1 json) json

end ClusterAudit.Json
