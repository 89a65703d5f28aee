import ClusterAudit.Json.Basic

/-!
JSON as it is written. Members of one name may repeat, and a string or a number may stand for no
value, which only matters to those who look at it.
-/

namespace ClusterAudit

/-- A JSON text taken apart. A leaf without a value is a string with half of a surrogate pair, or a
number that is too large. -/
inductive Draft where
  | leaf (value : Option Json)
  | arr (items : List Draft)
  | obj (members : List (Option String × Draft))
deriving Repr, Inhabited

namespace Draft

/-- How deep arrays and objects may stand in one another, where they are looked at. -/
def mostNesting : Nat := 127

mutual

/-- The value of a draft all of whose parts have values. Of the members of one name the last one
counts. The first argument bounds the nesting. -/
def value? (room : Nat) : Draft → Option Json
  | leaf value => value
  | arr items => if room = 0 then none else (itemValues? (room - 1) items).map .arr
  | obj members =>
      if room = 0 then none else (memberValues? (room - 1) members).map Json.ofMembers

def itemValues? (room : Nat) : List Draft → Option (List Json)
  | [] => some []
  | draft :: rest =>
      match value? room draft, itemValues? room rest with
      | some value, some values => some (value :: values)
      | _, _ => none

def memberValues? (room : Nat) : List (Option String × Draft) → Option Members
  | [] => some []
  | (name, draft) :: rest =>
      match name, value? room draft, memberValues? room rest with
      | some name, some value, some values => some ((name, value) :: values)
      | _, _, _ => none

end

/-- A member of the given name stands among the members. -/
def hasMember (name : String) (members : List (Option String × Draft)) : Bool :=
  members.any fun member => member.1 == some name

end Draft

end ClusterAudit
