import ClusterAudit.Json.Draft

/-!
Reading the parts of a draft that a type knows. What the type does not know is passed over, whatever
stands there.
-/

namespace ClusterAudit

open Json

/-- Which parts of a draft are looked at. The members of a table and of a loose record may repeat:
each of them must fit, and the last one counts. A strict record takes each part once, and may be
written as an array of its parts in order. A choice is one name, or an object with that one
member. -/
inductive Outline where
  | whole
  | choice
  | list (item : Outline)
  | table (value : Outline) (fits : Json → Bool)
  | loose (members : List (String × Outline × (Json → Bool)))
  | strict (parts : List (String × Outline))

namespace Outline

/-- A record of parts that are looked at as a whole. -/
def plain (names : List String) : Outline :=
  strict (names.map fun name => (name, whole))

mutual

/-- The value that stands at the parts of an outline. Where the draft has another shape, all of it
is looked at. The first argument bounds the nesting. -/
def settle? (room : Nat) : Draft → Outline → Option Json
  | .leaf value, _ => value
  | .arr items, list item =>
      if room = 0 then none else (settleItems? (room - 1) item items).map .arr
  | .arr items, strict parts =>
      if room = 0 then none else (settleInOrder? (room - 1) items parts).map .arr
  | .obj members, table value fits =>
      if room = 0 then none else (settleTable? (room - 1) value fits members).map ofMembers
  | .obj members, loose known =>
      if room = 0 then none else (settleLoose? (room - 1) known members).map ofMembers
  | .obj members, strict parts =>
      if room = 0 then none else (settleStrict? (room - 1) parts members).map ofMembers
  | .obj members, choice =>
      if members.length = 1 then (Draft.obj members).value? room else none
  | draft, _ => draft.value? room

/-- The items of an array. -/
def settleItems? (room : Nat) (item : Outline) : List Draft → Option (List Json)
  | [] => some []
  | draft :: rest =>
      match settle? room draft item, settleItems? room item rest with
      | some value, some values => some (value :: values)
      | _, _ => none

/-- The parts of a strict record in order. -/
def settleInOrder? (room : Nat) : List Draft → List (String × Outline) → Option (List Json)
  | [], _ => some []
  | _ :: _, [] => none
  | draft :: rest, part :: parts =>
      match settle? room draft part.2, settleInOrder? room rest parts with
      | some value, some values => some (value :: values)
      | _, _ => none

/-- The members of a table. -/
def settleTable? (room : Nat) (value : Outline) (fits : Json → Bool) :
    List (Option String × Draft) → Option Members
  | [] => some []
  | (name, draft) :: rest =>
      match name, (settle? room draft value).filter fits, settleTable? room value fits rest with
      | some name, some value, some values => some ((name, value) :: values)
      | _, _, _ => none

/-- The members of an loose record. -/
def settleLoose? (room : Nat) (known : List (String × Outline × (Json → Bool))) :
    List (Option String × Draft) → Option Members
  | [] => some []
  | (none, _) :: _ => none
  | (some name, draft) :: rest =>
      match known.lookup name with
      | none => settleLoose? room known rest
      | some (outline, fits) =>
          match (settle? room draft outline).filter fits, settleLoose? room known rest with
          | some value, some values => some ((name, value) :: values)
          | _, _ => none

/-- The parts of a strict record. -/
def settleStrict? (room : Nat) (parts : List (String × Outline)) :
    List (Option String × Draft) → Option Members
  | [] => some []
  | (none, _) :: _ => none
  | (some name, draft) :: rest =>
      match parts.lookup name with
      | none => settleStrict? room parts rest
      | some outline =>
          if Draft.hasMember name rest then none
          else
            match settle? room draft outline, settleStrict? room parts rest with
            | some value, some values => some ((name, value) :: values)
            | _, _ => none

end

/-- Reads a draft by an outline. -/
def read? {Value : Type} (outline : Outline) (read : Json → Option Value) (draft : Draft) :
    Option Value :=
  (settle? Draft.mostNesting draft outline).bind read

end Outline

end ClusterAudit
