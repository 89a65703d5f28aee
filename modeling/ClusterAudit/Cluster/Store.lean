import ClusterAudit.Cluster.Call
import ClusterAudit.Json.MergePatch
import ClusterAudit.Text.Hex

/-!
A cluster in memory. It gives every stored object a version, refuses to replace an object by one
that was read before it last changed, keeps statuses apart from the objects that they belong to, and
keeps a log of the calls that changed it.
-/

namespace ClusterAudit

open Json

/-- An object as it is stored. Its status is kept as it was given, since others write it. -/
structure Stored (kind : Kind) where
  metadata : Metadata
  content : kind.Content
  status : Option Json

namespace Stored

/-- An object to be stored, with its instants in whole seconds. -/
def ofObject {kind : Kind} (object : Object kind) : Stored kind where
  metadata := object.metadata.inSeconds
  content := kind.contentInSeconds object.content
  status := object.inSeconds.status.map kind.statusJson

/-- A stored object, if its status fits its kind. -/
def read? {kind : Kind} (stored : Stored kind) : Option (Object kind) :=
  (kind.readStatus? (stored.status.getD .null)).map fun status =>
    { metadata := stored.metadata, content := stored.content, status }

end Stored

/-- A call that changed the cluster. -/
structure LogEntry where
  verb : Verb
  kind : Kind
  key : Key
deriving DecidableEq, Repr

/-- The document of a call: its verb, its kind, its namespace if the kind has one, and a name. -/
def LogEntry.toJson (entry : LogEntry) : Json :=
  .arr [.str entry.verb.name, .str entry.kind.name,
    if entry.kind.isNamespaced then .str entry.key.namespaceName else .null,
    .str entry.key.name]

/-- An error that every call of a verb on a kind ends with. -/
structure Fault where
  verb : Verb
  kind : Kind
  error : ClusterError
deriving DecidableEq, Repr

/-- The identifier with a given number, in the form of a random UUID. -/
def Store.identifier (number : Nat) : String :=
  String.ofList ("00000000-0000-4000-8000-".toList ++ Text.hexDigits 12 number)

/-- The stored objects of each kind, the last version given, the number of identifiers given and the
supply that they are taken from, the log with the oldest call first, and the faults in the order in
which they were put in. -/
structure Store where
  tables : (kind : Kind) → Dictionary Key (Stored kind)
  version : Nat := 0
  identifiers : Nat := 0
  supply : Nat → String := Store.identifier
  log : List LogEntry := []
  faults : List Fault := []

namespace Store

def empty : Store where
  tables _ := Dictionary.empty

instance : Inhabited Store := ⟨empty⟩

/-! ## Tables -/

/-- The stored object of a kind at a place. -/
def find? (store : Store) (kind : Kind) (key : Key) : Option (Stored kind) :=
  (store.tables kind).get? key

/-- A store with another table for one kind. -/
def withTable (store : Store) (kind : Kind) (table : Dictionary Key (Stored kind)) : Store :=
  { store with
    tables := fun other => if same : kind = other then same ▸ table else store.tables other }

/-- Stores an object at a place. -/
def put (store : Store) (kind : Kind) (key : Key) (stored : Stored kind) : Store :=
  store.withTable kind ((store.tables kind).insert key stored)

/-- Removes the object at a place. -/
def erase (store : Store) (kind : Kind) (key : Key) : Store :=
  store.withTable kind ((store.tables kind).erase key)

/-- The stored objects of a namespace, in the order of their names. -/
def among (store : Store) (kind : Kind) (namespaceName : String) : List (Stored kind) :=
  ((store.tables kind).filter fun key _ => key.namespaceName == namespaceName).values

/-- Puts a call into the log. -/
def record (store : Store) (verb : Verb) (kind : Kind) (key : Key) : Store :=
  { store with log := store.log ++ [{ verb, kind, key }] }

/-! ## Stamps -/

/-- Metadata with a new version, in the namespace that the object is stored in. -/
def stamp (kind : Kind) (namespaceName : String) (version : Nat) (metadata : Metadata) :
    Metadata :=
  { metadata with
    resourceVersion := some (Text.ofNat version)
    namespaceName := if kind.isNamespaced then some namespaceName else metadata.namespaceName }

/-- Stores an object at a place under a new version. -/
def putStamped (store : Store) (kind : Kind) (key : Key) (stored : Stored kind) : Store :=
  let version := store.version + 1
  { store.put kind key
      { stored with metadata := stamp kind key.namespaceName version stored.metadata } with
    version }

/-- A new identifier, and the store that has given it. -/
def freshIdentifier (store : Store) : String × Store :=
  (store.supply (store.identifiers + 1), { store with identifiers := store.identifiers + 1 })

/-! ## Calls -/

/-- The error of the first fault for a verb on a kind. -/
def fault? (store : Store) (verb : Verb) (kind : Kind) : Option ClusterError :=
  (store.faults.find? fun fault => fault.verb == verb && fault.kind == kind).map Fault.error

/-- How errors name an object. -/
def describe (kind : Kind) (name : String) : String :=
  kind.name ++ " " ++ name

/-- A value that fits its type. -/
def fits {Value : Type} : Option Value → Except ClusterError Value
  | some value => .ok value
  | none => .error .unfit

def get (store : Store) (kind : Kind) (key : Key) :
    Except ClusterError (Option (Object kind)) :=
  match store.fault? .get kind with
  | some error => .error error
  | none =>
      match store.find? kind key with
      | none => .ok none
      | some stored => (fits stored.read?).map some

/-- The objects of a namespace whose labels match a selector. All of them must fit their kind. -/
def list (store : Store) (kind : Kind) (namespaceName selector : String) :
    Except ClusterError (List (Object kind)) :=
  match store.fault? .list kind with
  | some error => .error error
  | none =>
      let found := (store.among kind namespaceName).filter fun stored =>
        Selector.isMatch (Selector.parse selector) stored.metadata.labels
      found.mapM fun stored => fits stored.read?

/-- Metadata with an identifier, and the store that has given it if there was none. -/
def identify (store : Store) (metadata : Metadata) : Metadata × Store :=
  match metadata.uid with
  | some _ => (metadata, store)
  | none =>
      let (uid, store) := store.freshIdentifier
      ({ metadata with uid := some uid }, store)

/-- Creates an object. It must have a name that is not taken. -/
def create (store : Store) (kind : Kind) (namespaceName : String) (object : Object kind) :
    Except ClusterError (Object kind) × Store :=
  let name := object.metadata.name.getD ""
  let key : Key := { namespaceName, name }
  if name = "" then
    (.error (.api 422 (kind.name ++ ": metadata.name is required")), store)
  else
    match store.fault? .create kind, store.find? kind key with
    | some error, _ => (.error error, store)
    | none, some _ => (.error (.alreadyExists (describe kind name)), store)
    | none, none =>
        let (metadata, store) := store.identify object.metadata
        let store := (store.putStamped kind key
          (Stored.ofObject { object with metadata })).record .create kind key
        (fits ((store.find? kind key).bind Stored.read?), store)

/-- The object that takes the place of another. Status and identifier stay as they are, if there
are any. -/
def succeed {kind : Kind} (current : Stored kind) (object : Object kind) : Stored kind :=
  let sent := Stored.ofObject object
  { metadata := { sent.metadata with uid := current.metadata.uid.or sent.metadata.uid }
    content := sent.content
    status := current.status.or sent.status }

/-- An object was read before the stored one last changed. One without a version is never stale. -/
def isStale {kind : Kind} (current : Stored kind) (object : Object kind) : Bool :=
  object.metadata.resourceVersion.any fun version =>
    current.metadata.resourceVersion != some version

def modifiedText : String :=
  ": the object has been modified; please apply your changes to the latest version"

/-- Replaces an object by one that has its version or none. -/
def replace (store : Store) (kind : Kind) (key : Key) (object : Object kind) :
    Except ClusterError (Object kind) × Store :=
  match store.fault? .replace kind, store.find? kind key with
  | some error, _ => (.error error, store)
  | none, none => (.error (.notFound (describe kind key.name)), store)
  | none, some current =>
      if isStale current object then
        (.error (.conflict (describe kind key.name ++ modifiedText)), store)
      else
        let store := (store.putStamped kind key (succeed current object)).record .replace kind key
        (fits ((store.find? kind key).bind Stored.read?), store)

def delete (store : Store) (kind : Kind) (key : Key) : Except ClusterError Unit × Store :=
  match store.fault? .delete kind, store.find? kind key with
  | some error, _ => (.error error, store)
  | none, none => (.error (.notFound (describe kind key.name)), store)
  | none, some _ => (.ok (), (store.erase kind key).record .delete kind key)

/-- A status after a patch. What is no object counts as an empty one. -/
def patchedStatus (current : Option Json) (patch : Json) : Json :=
  match current with
  | some (.obj members) => mergePatch (.obj members) patch
  | _ => mergePatch (.obj []) patch

/-- Merges a patch into the status of an object, which keeps its version. -/
def patchStatus (store : Store) (kind : Kind) (key : Key) (patch : Json) :
    Except ClusterError Unit × Store :=
  match store.fault? .patchStatus kind, store.find? kind key with
  | some error, _ => (.error error, store)
  | none, none => (.error (.notFound (describe kind key.name)), store)
  | none, some current =>
      let stored := { current with status := some (patchedStatus current.status patch) }
      (.ok (), (store.put kind key stored).record .patchStatus kind key)

/-- Answers a call. -/
def answer (store : Store) : (call : Call) → Except ClusterError call.Reply × Store
  | .get kind key => (store.get kind key, store)
  | .list kind namespaceName selector => (store.list kind namespaceName selector, store)
  | .create kind namespaceName object => store.create kind namespaceName object
  | .replace kind key object => store.replace kind key object
  | .delete kind key => store.delete kind key
  | .patchStatus kind key patch => store.patchStatus kind key patch

/-! ## What others do -/

/-- Stores an object under a new version, without a call. -/
def insert (store : Store) (kind : Kind) (namespaceName : String) (object : Object kind) : Store :=
  store.putStamped kind { namespaceName, name := object.metadata.name.getD "" }
    (Stored.ofObject object)

/-- The stored object at a place, if there is one that fits its kind. -/
def stored? (store : Store) (kind : Kind) (key : Key) : Option (Object kind) :=
  (store.find? kind key).bind Stored.read?

/-- The stored objects of a namespace that fit their kind. -/
def storedAll (store : Store) (kind : Kind) (namespaceName : String) : List (Object kind) :=
  (store.among kind namespaceName).filterMap Stored.read?

/-- The objects of a namespace that fit their kinds: kind, namespace, name and version of each, in
the order of kinds and names. -/
def summary (store : Store) (namespaceName : String) : List String :=
  (Kind.all.filter Kind.isNamespaced).flatMap fun kind =>
    (store.storedAll kind namespaceName).map fun object =>
      kind.name ++ "/" ++ namespaceName ++ "/" ++ object.metadata.name.getD "" ++ "@" ++
        object.metadata.resourceVersion.getD ""

/-- Writes the status of an object over, whatever it is. -/
def setStatus (store : Store) (kind : Kind) (key : Key) (status : Json) : Store :=
  match store.find? kind key with
  | none => store
  | some current => store.put kind key { current with status := some status }

/-- The object that an edit of a document makes, if it still fits its kind. -/
def edited? {kind : Kind} (edit : Json → Option Json) (object : Object kind) :
    Option (Object kind) :=
  (edit object.toJson).bind (Object.ofJson? kind)

/-- Edits an object of a namespace, and says whether the edit succeeded. The object gets a new
version even if it did not. -/
def modify (store : Store) (kind : Kind) (key : Key) (edit : Json → Option Json) : Bool × Store :=
  match store.stored? kind key with
  | none => (false, store)
  | some current =>
      let edited := edited? edit current
      (edited.isSome, store.putStamped kind key (Stored.ofObject (edited.getD current)))

/-- Edits an object of the whole cluster, and says whether the edit succeeded. -/
def modifyCluster (store : Store) (kind : Kind) (name : String) (edit : Json → Option Json) :
    Bool × Store :=
  match (store.stored? kind (Key.ofCluster name)).bind (edited? edit) with
  | none => (false, store)
  | some object => (true, store.insert kind "" object)

/-- Puts in a fault. -/
def withFault (store : Store) (fault : Fault) : Store :=
  { store with faults := store.faults ++ [fault] }

end Store

end ClusterAudit
