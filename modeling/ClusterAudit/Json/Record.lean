import ClusterAudit.Json.Basic

/-!
Records as JSON: reading the parts of a record by name, and writing a record from its parts. A
reader gives no value where the JSON does not fit the type.
-/

namespace ClusterAudit.Json

/-! ## Plain values -/

def asBool? : Json → Option Bool
  | bool value => some value
  | _ => none

def asInt? : Json → Option Int
  | int value => some value
  | _ => none

/-- A whole number of 32 bits. -/
def asInt32? : Json → Option Int
  | int value => if -2147483648 ≤ value ∧ value ≤ 2147483647 then some value else none
  | _ => none

def asMembers? : Json → Option Members
  | obj members => some members
  | _ => none

def asItems? : Json → Option (List Json)
  | arr items => some items
  | _ => none

/-- An array whose items all fit. -/
def asListOf? {Value : Type} (read : Json → Option Value) (json : Json) : Option (List Value) :=
  json.asItems?.bind fun items => items.mapM read

def asStrings? : Json → Option (List String) :=
  asListOf? asString?

/-- An object whose members are all strings. -/
def asTexts? (json : Json) : Option (Dictionary String String) := do
  let members ← json.asMembers?
  let entries ← members.mapM fun entry => (asString? entry.2).map fun text => (entry.1, text)
  return Dictionary.ofList entries

/-! ## Parts of a record -/

/-- The parts of a record by their names. -/
abbrev Parts := String → Option Json

/-- The parts of a record that is written as an object, or as an array of its parts in order. -/
def partsOf? (names : List String) : Json → Option Parts
  | obj members => some (member? members)
  | arr items =>
      if items.length ≤ names.length then some fun name => (names.zip items).lookup name else none
  | _ => none

/-- A part that must be there. -/
def required {Value : Type} (read : Json → Option Value) (parts : Parts) (name : String) :
    Option Value :=
  (parts name).bind read

/-- A part that may be missing or null. -/
def optional {Value : Type} (read : Json → Option Value) (parts : Parts) (name : String) :
    Option (Option Value) :=
  match parts name with
  | none => some none
  | some null => some none
  | some json => (read json).map some

/-- A part that has a default when it is missing, but may not be null. -/
def defaulted {Value : Type} (read : Json → Option Value) (default : Value) (parts : Parts)
    (name : String) : Option Value :=
  match parts name with
  | none => some default
  | some json => read json

/-- A name out of a fixed set, written as a string, or as an object with that one name and null. -/
def variantName? : Json → Option String
  | str name => some name
  | obj [(name, null)] => some name
  | _ => none

/-! ## Writing -/

/-- The members that do not have one of the given names. -/
def without (names : List String) (members : Members) : Members :=
  members.filter fun entry => !names.contains entry.1

/-- An object of the parts that are present and of further members. -/
def record (parts : List (String × Option Json)) (rest : Members) : Json :=
  ofMembers (rest ++ parts.filterMap fun part => part.2.map fun json => (part.1, json))

end ClusterAudit.Json
