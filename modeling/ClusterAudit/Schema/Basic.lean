import ClusterAudit.Condition.Document
import ClusterAudit.Text.Decimal
import ClusterAudit.Text.Base64

/-!
Schemas of the documents that a cluster stores, and the normal form of a document: unknown members
are dropped, null counts as absent, and members that a type requires are there with the type's
blank value. Instants keep their fractions of a second until the document is stored or sent.
-/

namespace ClusterAudit

/-- The type of a JSON value in a cluster's documents. A member of a record is given by its name,
whether the record requires it, and its type. -/
inductive Schema where
  | text
  | flag
  | int32
  | int64
  | intOrText
  | instant
  | bytes
  | quantity
  | anything
  | list (item : Schema)
  | table (value : Schema)
  | record (members : List (String × Bool × Schema))
deriving Repr, Inhabited

namespace Schema

/-- A member that may be absent. -/
def optional (name : String) (schema : Schema) : String × Bool × Schema :=
  (name, false, schema)

/-- A member that is always there. -/
def required (name : String) (schema : Schema) : String × Bool × Schema :=
  (name, true, schema)

/-- Members of one type that may be absent. -/
def optionals (schema : Schema) (names : List String) : List (String × Bool × Schema) :=
  names.map (optional · schema)

/-- Members of one type that are always there. -/
def requireds (schema : Schema) (names : List String) : List (String × Bool × Schema) :=
  names.map (required · schema)

def texts : Schema := list text

def textTable : Schema := table text

def quantityTable : Schema := table quantity

/-! ## Blank values -/

mutual

/-- The value of a required member that a document lacks. There is none for an instant. -/
def blank? : Schema → Option Json
  | text => some (.str "")
  | flag => some (.bool false)
  | int32 => some (.int 0)
  | int64 => some (.int 0)
  | intOrText => some (.int 0)
  | instant => none
  | bytes => some (.str "")
  | quantity => some (.str "")
  | anything => some .null
  | list _ => some (.arr [])
  | table _ => some (.obj [])
  | record members => (blankMembers? members).map Json.ofMembers

/-- The required members of a record with their blank values. -/
def blankMembers? : List (String × Bool × Schema) → Option Members
  | [] => some []
  | (name, isRequired, schema) :: rest =>
      if isRequired then
        match blank? schema, blankMembers? rest with
        | some json, some members => some ((name, json) :: members)
        | _, _ => none
      else blankMembers? rest

end

/-- What stands for a member that is absent or null: nothing, or the blank value if the record
requires the member. -/
def standIn? (isRequired : Bool) (schema : Schema) : Option (Option Json) :=
  if isRequired then schema.blank?.map some else some none

/-! ## Normal form -/

/-- A whole number of the given number of bits. -/
def normalInt? (bits : Nat) : Json → Option Json
  | .int value =>
      let limit : Int := Nat.pow 2 (bits - 1)
      if -limit ≤ value ∧ value < limit then some (.int value) else none
  | _ => none

/-- Bytes in base 64; null stands for none of them. -/
def normalBytes? : Json → Option Json
  | .null => some (.str "")
  | .str value => if Text.isBase64 value.toList then some (.str value) else none
  | _ => none

/-- A quantity: a text, or a whole number of 64 bits with or without a sign. -/
def normalQuantity? : Json → Option Json
  | .str value => some (.str value)
  | .int value =>
      let limit : Int := Nat.pow 2 63
      if -limit ≤ value ∧ value < 2 * limit then some (.str (Text.ofInt value)) else none
  | _ => none

mutual

/-- The normal form of a value, if it fits its schema. -/
def normalize? (json : Json) : Schema → Option Json
  | text => json.asString?.map .str
  | flag => json.asBool?.map .bool
  | int32 => normalInt? 32 json
  | int64 => normalInt? 64 json
  | intOrText =>
      match json with
      | .str value => some (.str value)
      | json => normalInt? 32 json
  | instant => (Instant.ofJson? json).map fun instant => .str instant.toText
  | bytes => normalBytes? json
  | quantity => normalQuantity? json
  | anything => some json
  | list item => json.asItems?.bind fun items =>
      (items.mapM fun json => normalize? json item).map .arr
  | table value => json.asMembers?.bind fun members =>
      (members.mapM fun entry =>
        (normalize? entry.2 value).map fun json => (entry.1, json)).map .obj
  | record parts => json.asMembers?.bind fun members =>
      (normalizeMembers? members parts).map Json.ofMembers

/-- The normal forms of the members of a record. -/
def normalizeMembers? (members : Members) : List (String × Bool × Schema) → Option Members
  | [] => some []
  | (name, isRequired, schema) :: rest =>
      match (Json.member? members name).getD .null with
      | .null =>
          match standIn? isRequired schema, normalizeMembers? members rest with
          | some standIn, some members =>
              some (standIn.toList.map (fun json => (name, json)) ++ members)
          | _, _ => none
      | json =>
          match normalize? json schema, normalizeMembers? members rest with
          | some json, some members => some ((name, json) :: members)
          | _, _ => none

end

/-! ## Whole seconds -/

mutual

/-- A value in normal form with its instants cut to whole seconds. -/
def inSeconds (json : Json) : Schema → Json
  | instant => ((Instant.ofJson? json).map fun instant => .str instant.inSeconds.toText).getD json
  | list item =>
      match json with
      | .arr items => .arr (items.map fun json => inSeconds json item)
      | json => json
  | table value =>
      match json with
      | .obj members => .obj (members.map fun entry => (entry.1, inSeconds entry.2 value))
      | json => json
  | record parts =>
      match json with
      | .obj members => .obj (members.map fun entry => (entry.1, partInSeconds entry.1 entry.2 parts))
      | json => json
  | _ => json

/-- A member of a record with its instants cut to whole seconds. -/
def partInSeconds (name : String) (json : Json) : List (String × Bool × Schema) → Json
  | [] => json
  | (other, _, schema) :: rest =>
      if other = name then inSeconds json schema else partInSeconds name json rest

end

/-- Members of a record with their instants cut to whole seconds. -/
def membersInSeconds (schema : Schema) (members : Members) : Members :=
  ((schema.inSeconds (.obj members)).asMembers?).getD members

end Schema

end ClusterAudit
