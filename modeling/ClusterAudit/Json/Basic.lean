import ClusterAudit.Dictionary

/-!
JSON values. The members of an object stand in increasing order of their names, which the functions
that build objects keep.
-/

namespace ClusterAudit

/-- A JSON value. Numbers that are not whole, or that have more than 64 bits, are doubles in their
shortest text. -/
inductive Json where
  | null
  | bool (value : Bool)
  | int (value : Int)
  | decimal (shortest : String)
  | str (value : String)
  | arr (items : List Json)
  | obj (members : List (String × Json))
deriving Repr, Inhabited

/-- The members of an object. -/
abbrev Members := List (String × Json)

namespace Json

/-! ## Equality -/

mutual

/-- Decides whether two values are the same. -/
def decEq : (left right : Json) → Decidable (left = right)
  | null, null => isTrue rfl
  | bool left, bool right =>
      if same : left = right then isTrue (by rw [same]) else isFalse (by simpa using same)
  | int left, int right =>
      if same : left = right then isTrue (by rw [same]) else isFalse (by simpa using same)
  | decimal left, decimal right =>
      if same : left = right then isTrue (by rw [same]) else isFalse (by simpa using same)
  | str left, str right =>
      if same : left = right then isTrue (by rw [same]) else isFalse (by simpa using same)
  | arr left, arr right =>
      match decEqItems left right with
      | isTrue same => isTrue (by rw [same])
      | isFalse different => isFalse (by simpa using different)
  | obj left, obj right =>
      match decEqMembers left right with
      | isTrue same => isTrue (by rw [same])
      | isFalse different => isFalse (by simpa using different)
  | null, bool _ | null, int _ | null, decimal _ | null, str _ | null, arr _ | null, obj _
  | bool _, null | bool _, int _ | bool _, decimal _ | bool _, str _ | bool _, arr _
  | bool _, obj _
  | int _, null | int _, bool _ | int _, decimal _ | int _, str _ | int _, arr _ | int _, obj _
  | decimal _, null | decimal _, bool _ | decimal _, int _ | decimal _, str _ | decimal _, arr _
  | decimal _, obj _
  | str _, null | str _, bool _ | str _, int _ | str _, decimal _ | str _, arr _ | str _, obj _
  | arr _, null | arr _, bool _ | arr _, int _ | arr _, decimal _ | arr _, str _ | arr _, obj _
  | obj _, null | obj _, bool _ | obj _, int _ | obj _, decimal _ | obj _, str _
  | obj _, arr _ => isFalse (by simp)

/-- Decides whether two arrays hold the same items. -/
def decEqItems : (left right : List Json) → Decidable (left = right)
  | [], [] => isTrue rfl
  | [], _ :: _ | _ :: _, [] => isFalse (by simp)
  | left :: leftRest, right :: rightRest =>
      match decEq left right, decEqItems leftRest rightRest with
      | isTrue same, isTrue sameRest => isTrue (by rw [same, sameRest])
      | isFalse different, _ => isFalse (by simp [different])
      | _, isFalse different => isFalse (by simp [different])

/-- Decides whether two objects hold the same members. -/
def decEqMembers : (left right : List (String × Json)) → Decidable (left = right)
  | [], [] => isTrue rfl
  | [], _ :: _ | _ :: _, [] => isFalse (by simp)
  | (leftName, left) :: leftRest, (rightName, right) :: rightRest =>
      if sameName : leftName = rightName then
        match decEq left right, decEqMembers leftRest rightRest with
        | isTrue same, isTrue sameRest => isTrue (by rw [sameName, same, sameRest])
        | isFalse different, _ => isFalse (by simp [different])
        | _, isFalse different => isFalse (by simp [different])
      else isFalse (by simp [sameName])

end

instance : DecidableEq Json := decEq

/-! ## Texts -/

mutual

/-- A value with each of its texts changed; names stay as they are. -/
def mapTexts (change : String → String) : Json → Json
  | str text => str (change text)
  | arr items => arr (mapItemTexts change items)
  | obj members => obj (mapMemberTexts change members)
  | json => json

def mapItemTexts (change : String → String) : List Json → List Json
  | [] => []
  | item :: rest => mapTexts change item :: mapItemTexts change rest

def mapMemberTexts (change : String → String) : List (String × Json) → List (String × Json)
  | [] => []
  | (name, value) :: rest => (name, mapTexts change value) :: mapMemberTexts change rest

end

/-! ## Members -/

/-- The member of an object with a given name. -/
def member? (members : Members) (name : String) : Option Json :=
  members.lookup name

/-- An object of the given members; of two members with one name the later one stays. -/
def ofMembers (members : Members) : Json :=
  obj (members.foldl (fun members entry => insertEntry entry.1 entry.2 members) [])

/-- The member of a value with a given name, if the value is an object that has it. -/
def get? (json : Json) (name : String) : Option Json :=
  match json with
  | obj members => member? members name
  | _ => none

/-- Puts a member into an object; any other value is replaced by an object. -/
def set (json : Json) (name : String) (value : Json) : Json :=
  match json with
  | obj members => obj (insertEntry name value members)
  | _ => obj [(name, value)]

/-- The text of a string value. -/
def asString? : Json → Option String
  | str text => some text
  | _ => none

/-- The string or null that stands for an optional text. -/
def ofOptionString : Option String → Json
  | some text => str text
  | none => null

def ofStrings (texts : List String) : Json :=
  arr (texts.map str)

/-- The object of a table of texts. -/
def ofTexts (table : Dictionary String String) : Json :=
  obj (table.entries.map fun entry => (entry.1, str entry.2))

end Json

end ClusterAudit
