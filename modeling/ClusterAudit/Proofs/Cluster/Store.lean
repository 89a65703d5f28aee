import ClusterAudit.Cluster.Store
import ClusterAudit.Proofs.Dictionary

/-!
What calls find and change in a cluster in memory. A call that changes the cluster alters one object
of one kind, and leaves every other object as it was.
-/

namespace ClusterAudit

instance : Std.LawfulEqOrd Key where
  eq_of_compare := by
    intro left right order
    have both :
        compareOn Key.namespaceName left right = .eq ∧ compareOn Key.name left right = .eq := by
      simpa [compare, compareLex, Ordering.then_eq_eq] using order
    obtain ⟨sameNamespace, sameName⟩ := both
    cases left
    cases right
    simp only [compareOn, Std.LawfulEqOrd.compare_eq_iff_eq] at sameNamespace sameName
    simp [sameNamespace, sameName]

/-! ## Reading -/

namespace Stored

variable {kind : Kind} {stored : Stored kind}

theorem metadata_of_read? {object : Object kind} (read : stored.read? = some object) :
    object.metadata = stored.metadata := by
  obtain ⟨status, _, rfl⟩ := Option.map_eq_some_iff.mp read
  rfl

theorem content_of_read? {object : Object kind} (read : stored.read? = some object) :
    object.content = stored.content := by
  obtain ⟨status, _, rfl⟩ := Option.map_eq_some_iff.mp read
  rfl

/-- An object reads with the status that another one of the same status reads with. -/
theorem read?_of_status {other : Stored kind} {object : Object kind}
    (read : stored.read? = some object) (same : other.status = stored.status) :
    other.read? =
      some { metadata := other.metadata, content := other.content, status := object.status } := by
  obtain ⟨status, readStatus, rfl⟩ := Option.map_eq_some_iff.mp read
  rw [read?, same, readStatus, Option.map_some]

end Stored

namespace Kind

@[simp]
theorem readStatus?_null (kind : Kind) : kind.readStatus? .null = some none := by
  cases kind <;> rfl

end Kind

namespace Stored

variable {kind : Kind} {stored : Stored kind}

theorem read?_of_no_status (none : stored.status = none) :
    stored.read? =
      some { metadata := stored.metadata, content := stored.content, status := .none } := by
  rw [read?, none, Option.getD_none, Kind.readStatus?_null, Option.map_some]

end Stored

namespace Store

variable {store : Store} {kind other : Kind} {key place : Key} {stored : Stored kind}

theorem ext_find? {left right : Store}
    (agree : ∀ key, left.find? kind key = right.find? kind key) :
    left.tables kind = right.tables kind :=
  Dictionary.ext_get? agree

@[simp]
theorem find?_put_self : (store.put kind key stored).find? kind key = some stored := by
  simp [find?, put, withTable]

theorem find?_put_of_ne (different : ¬ (other = kind ∧ place = key)) :
    (store.put kind key stored).find? other place = store.find? other place := by
  by_cases sameKind : kind = other
  · subst sameKind
    have otherPlace : place ≠ key := fun same => different ⟨rfl, same⟩
    simp [find?, put, withTable, Dictionary.get?_insert_of_ne otherPlace]
  · simp [find?, put, withTable, sameKind]

@[simp]
theorem find?_erase_self : (store.erase kind key).find? kind key = none := by
  simp [find?, erase, withTable]

theorem find?_erase_of_ne (different : ¬ (other = kind ∧ place = key)) :
    (store.erase kind key).find? other place = store.find? other place := by
  by_cases sameKind : kind = other
  · subst sameKind
    have otherPlace : place ≠ key := fun same => different ⟨rfl, same⟩
    simp [find?, erase, withTable, Dictionary.get?_erase_of_ne otherPlace]
  · simp [find?, erase, withTable, sameKind]

/-! ## Calls that read -/

theorem fault?_eq_none (quiet : store.faults = []) (verb : Verb) (kind : Kind) :
    store.fault? verb kind = none := by
  simp [fault?, quiet]

/-- What a look at a place finds: nothing, or an object that fits its kind. -/
def Finds (store : Store) (kind : Kind) (key : Key) : Option (Object kind) → Prop
  | none => store.find? kind key = none
  | some object => store.stored? kind key = some object

theorem get_eq_ok_iff (quiet : store.faults = []) {found : Option (Object kind)} :
    store.get kind key = .ok found ↔ store.Finds kind key found := by
  simp only [get, fault?_eq_none quiet]
  cases place : store.find? kind key with
  | none => cases found <;> simp [Finds, stored?, place]
  | some stored =>
      cases read : stored.read? with
      | none => cases found <;> simp [Finds, stored?, place, read, fits, Except.map]
      | some object => cases found <;> simp [Finds, stored?, place, read, fits, Except.map]

/-- Whatever faults there are, an object that a look at a place finds is stored there. -/
theorem stored?_of_get {object : Object kind} (found : store.get kind key = .ok (some object)) :
    store.stored? kind key = some object := by
  simp only [get] at found
  cases faulty : store.fault? .get kind with
  | some error =>
      rw [faulty] at found
      cases found
  | none =>
      cases place : store.find? kind key with
      | none =>
          rw [faulty, place] at found
          cases found
      | some stored =>
          cases read : stored.read? with
          | none =>
              simp only [faulty, place, read] at found
              cases found
          | some live =>
              simp only [faulty, place, read] at found
              cases found
              rw [stored?, place, Option.bind_some, read]

/-- Whatever faults there are, nothing is stored where a look finds nothing. -/
theorem find?_of_get (found : store.get kind key = .ok none) :
    store.find? kind key = none := by
  cases place : store.find? kind key with
  | none => rfl
  | some stored =>
      simp only [get, place] at found
      cases faulty : store.fault? .get kind with
      | some error =>
          rw [faulty] at found
          cases found
      | none =>
          rw [faulty] at found
          cases read : stored.read? <;> simp [read, fits, Except.map] at found

theorem Finds.eq_some {found : Option (Object kind)} {object : Object kind}
    (finds : store.Finds kind key found) (present : store.stored? kind key = some object) :
    found = some object := by
  cases found with
  | none =>
      have absent : store.stored? kind key = none := by
        rw [stored?, finds, Option.bind_none]
      rw [absent] at present
      cases present
  | some other => exact finds.symm.trans present

theorem exists_find?_of_stored? {object : Object kind}
    (present : store.stored? kind key = some object) :
    ∃ stored, store.find? kind key = some stored ∧ stored.read? = some object :=
  Option.bind_eq_some_iff.mp present

/-- The stored objects of a namespace that a selector asks for. -/
def selected (store : Store) (kind : Kind) (namespaceName selector : String) :
    List (Stored kind) :=
  (store.among kind namespaceName).filter fun stored =>
    Selector.isMatch (Selector.parse selector) stored.metadata.labels

theorem mem_among_iff {namespaceName : String} :
    stored ∈ store.among kind namespaceName ↔
      ∃ key, key.namespaceName = namespaceName ∧ store.find? kind key = some stored := by
  simp only [among, Dictionary.values, Dictionary.filter, List.mem_map, List.mem_filter,
    beq_iff_eq, Prod.exists, find?, ← Dictionary.mem_entries_iff]
  constructor
  · rintro ⟨key, _, ⟨member, sameNamespace⟩, rfl⟩
    exact ⟨key, sameNamespace, member⟩
  · rintro ⟨key, sameNamespace, member⟩
    exact ⟨key, stored, ⟨member, sameNamespace⟩, rfl⟩

theorem countP_among {namespaceName : String} (test : Stored kind → Bool) :
    (store.among kind namespaceName).countP test =
      (store.tables kind).entries.countP fun entry =>
        entry.1.namespaceName == namespaceName && test entry.2 := by
  simp only [among, Dictionary.values, Dictionary.filter, List.countP_map, List.countP_filter,
    Function.comp_def, Bool.and_comm]

theorem mem_selected_iff {namespaceName selector : String} :
    stored ∈ store.selected kind namespaceName selector ↔
      (∃ key, key.namespaceName = namespaceName ∧ store.find? kind key = some stored) ∧
        Selector.isMatch (Selector.parse selector) stored.metadata.labels = true := by
  simp only [selected, List.mem_filter, mem_among_iff]

theorem mapM_fits {Item Value : Type} (read : Item → Option Value) (items : List Item) :
    (items.mapM fun item => fits (read item)) = fits (items.mapM read) := by
  induction items with
  | nil => rfl
  | cons item rest inductionHypothesis =>
      rw [List.mapM_cons, List.mapM_cons, inductionHypothesis]
      cases first : read item with
      | none => rfl
      | some value => cases rest.mapM read <;> rfl

theorem fits_eq_ok_iff {Value : Type} {read : Option Value} {value : Value} :
    fits read = .ok value ↔ read = some value := by
  cases read <;> simp [fits]

/-- What a look at a namespace finds: the objects that a selector asks for, all of which fit their
kind. -/
def Lists (store : Store) (kind : Kind) (namespaceName selector : String)
    (objects : List (Object kind)) : Prop :=
  (store.selected kind namespaceName selector).mapM Stored.read? = some objects

theorem map_displayName_of_mapM {items : List (Stored kind)} {objects : List (Object kind)}
    (reads : items.mapM Stored.read? = some objects) :
    objects.map Object.displayName = items.map fun stored => stored.metadata.displayName := by
  induction items generalizing objects with
  | nil =>
      cases reads
      rfl
  | cons stored rest inductionHypothesis =>
      have image := mapM_eq_some_iff.mp reads
      cases objects with
      | nil => cases image
      | cons object others =>
          obtain ⟨first, later⟩ := List.cons.inj image
          rw [List.map_cons, List.map_cons, inductionHypothesis (mapM_eq_some_iff.mpr later),
            Object.displayName, Stored.metadata_of_read? first]

theorem list_eq_ok_iff (quiet : store.faults = []) {namespaceName selector : String}
    {objects : List (Object kind)} :
    store.list kind namespaceName selector = .ok objects ↔
      store.Lists kind namespaceName selector objects := by
  simp only [list, fault?_eq_none quiet]
  rw [mapM_fits, fits_eq_ok_iff]
  rfl

/-- Whatever faults there are, the objects that a look at a namespace finds are stored. -/
theorem exists_stored?_of_list {namespaceName selector : String} {objects : List (Object kind)}
    (found : store.list kind namespaceName selector = .ok objects) {object : Object kind}
    (member : object ∈ objects) : ∃ key, store.stored? kind key = some object := by
  simp only [list] at found
  cases faulty : store.fault? .list kind with
  | some error =>
      rw [faulty] at found
      cases found
  | none =>
      simp only [faulty] at found
      rw [mapM_fits, fits_eq_ok_iff] at found
      obtain ⟨stored, isSelected, read⟩ := exists_of_mem_values_of_mapM found member
      obtain ⟨⟨key, _, place⟩, _⟩ := mem_selected_iff.mp isSelected
      exact ⟨key, by rw [stored?, place, Option.bind_some, read]⟩

/-! ## Stores that agree -/

section Agreement

variable {before after : Store}

theorem stored?_congr (same : after.find? kind key = before.find? kind key) :
    after.stored? kind key = before.stored? kind key := by
  rw [stored?, stored?, same]

theorem finds_congr (same : after.find? kind key = before.find? kind key)
    {found : Option (Object kind)} :
    after.Finds kind key found ↔ before.Finds kind key found := by
  cases found with
  | none => rw [Finds, Finds, same]
  | some object => rw [Finds, Finds, stored?_congr same]

theorem among_congr (same : ∀ key, after.find? kind key = before.find? kind key)
    (namespaceName : String) :
    after.among kind namespaceName = before.among kind namespaceName := by
  rw [among, among, ext_find? same]

theorem selected_congr (same : ∀ key, after.find? kind key = before.find? kind key)
    (namespaceName selector : String) :
    after.selected kind namespaceName selector = before.selected kind namespaceName selector := by
  rw [selected, selected, among_congr same]

theorem lists_congr (same : ∀ key, after.find? kind key = before.find? kind key)
    {namespaceName selector : String} {objects : List (Object kind)} :
    after.Lists kind namespaceName selector objects ↔
      before.Lists kind namespaceName selector objects := by
  rw [Lists, Lists, selected_congr same]

end Agreement

/-! ## Calls that change something -/

/-- `after` is `before` but for the object of one kind at one place. -/
structure Alters (before after : Store) (kind : Kind) (key : Key)
    (stored : Option (Stored kind)) : Prop where
  here : after.find? kind key = stored
  elsewhere : ∀ other place, ¬ (other = kind ∧ place = key) →
    after.find? other place = before.find? other place
  faults : after.faults = before.faults

namespace Alters

variable {before after : Store} {change : Option (Stored kind)}

theorem refl : Alters before before kind key (before.find? kind key) where
  here := rfl
  elsewhere _ _ _ := rfl
  faults := rfl

theorem otherKind (alters : Alters before after kind key change) (different : other ≠ kind)
    (place : Key) : after.find? other place = before.find? other place :=
  alters.elsewhere other place fun same => different same.1

theorem otherPlace (alters : Alters before after kind key change) (different : place ≠ key) :
    after.find? kind place = before.find? kind place :=
  alters.elsewhere kind place fun same => different same.2

theorem tables_insert {stored : Stored kind}
    (alters : Alters before after kind key (some stored)) :
    after.tables kind = (before.tables kind).insert key stored := by
  apply Dictionary.ext_get?
  intro place
  by_cases same : place = key
  · rw [same, Dictionary.get?_insert_self]
    exact alters.here
  · rw [Dictionary.get?_insert_of_ne same]
    exact alters.otherPlace same

theorem tables_erase (alters : Alters before after kind key none) :
    after.tables kind = (before.tables kind).erase key := by
  apply Dictionary.ext_get?
  intro place
  by_cases same : place = key
  · rw [same, Dictionary.get?_erase_self]
    exact alters.here
  · rw [Dictionary.get?_erase_of_ne same]
    exact alters.otherPlace same

end Alters

theorem alters_put (store : Store) (kind : Kind) (key : Key) (stored : Stored kind) :
    Alters store (store.put kind key stored) kind key (some stored) where
  here := find?_put_self
  elsewhere _ _ different := find?_put_of_ne different
  faults := rfl

/-- An object as it is stored at a place under a version. -/
def stampedAt (key : Key) (version : Nat) (stored : Stored kind) : Stored kind :=
  { stored with metadata := stamp kind key.namespaceName version stored.metadata }

theorem alters_putStamped (store : Store) (kind : Kind) (key : Key) (stored : Stored kind)
    (verb : Verb) :
    Alters store ((store.putStamped kind key stored).record verb kind key) kind key
      (some (stampedAt key (store.version + 1) stored)) where
  here := find?_put_self
  elsewhere _ _ different := find?_put_of_ne different
  faults := rfl

theorem create_of_taken (quiet : store.faults = []) {object : Object kind}
    {namespaceName name : String} (named : object.metadata.name = some name) (filled : name ≠ "")
    (taken : store.find? kind { namespaceName, name } = some stored) :
    store.create kind namespaceName object =
      (.error (.alreadyExists (describe kind name)), store) := by
  simp [create, named, filled, fault?_eq_none quiet, taken]

/-- An object that may have been given an identifier. -/
def identified (object : Object kind) (uid : Option String) : Object kind :=
  { object with metadata := { object.metadata with uid } }

theorem identify_eq (store : Store) (object : Object kind) :
    ∃ uid identifiers,
      store.identify object.metadata =
        ((identified object uid).metadata, { store with identifiers }) := by
  obtain ⟨metadata, content, status⟩ := object
  obtain ⟨name, generateName, namespaceName, uid⟩ := metadata
  cases uid with
  | none => exact ⟨_, _, rfl⟩
  | some uid => exact ⟨some uid, store.identifiers, rfl⟩

/-- An object is created under its name, with an identifier and a version. -/
theorem create_of_free (quiet : store.faults = []) {object : Object kind}
    {namespaceName name : String} (named : object.metadata.name = some name) (filled : name ≠ "")
    (free : store.find? kind { namespaceName, name } = none) :
    ∃ uid version after,
      store.create kind namespaceName object =
        (fits (stampedAt { namespaceName, name } version
          (Stored.ofObject (identified object uid))).read?, after) ∧
      Alters store after kind { namespaceName, name }
        (some (stampedAt { namespaceName, name } version
          (Stored.ofObject (identified object uid)))) := by
  obtain ⟨uid, identifiers, marked⟩ := identify_eq store object
  have alters := alters_putStamped { store with identifiers } kind { namespaceName, name }
    (Stored.ofObject (identified object uid)) .create
  refine ⟨uid, store.version + 1, _, ?_, ⟨alters.here, alters.elsewhere, alters.faults⟩⟩
  have sameName : object.metadata.name.getD "" = name := by rw [named, Option.getD_some]
  have found := alters.here
  simp only [create, sameName, filled, if_false, fault?_eq_none quiet, free, marked]
  exact congrArg (fun stored => (fits (stored.bind Stored.read?), _)) found

/-- An object is made from the one that is stored: it has its version and its status. -/
structure Revises (object : Object kind) (current : Stored kind) (live : Object kind) : Prop where
  read : current.read? = some live
  version : object.metadata.resourceVersion = current.metadata.resourceVersion
  status : object.status = live.status

namespace Revises

variable {object live : Object kind} {current : Stored kind}

theorem not_stale (revises : Revises object current live) : isStale current object = false := by
  rw [isStale, revises.version]
  cases current.metadata.resourceVersion with
  | none => rfl
  | some version => simp

/-- What is made from a stored object keeps its status when it takes its place. -/
theorem read?_succeed (revises : Revises object current live) (key : Key) (version : Nat) :
    (stampedAt key version (succeed current object)).read? =
      some {
        metadata := (stampedAt key version (succeed current object)).metadata
        content := kind.contentInSeconds object.content
        status := live.status } := by
  cases present : current.status with
  | some status =>
      have same : (stampedAt key version (succeed current object)).status = current.status := by
        rw [present]
        simp [stampedAt, succeed, present]
      exact Stored.read?_of_status revises.read same
  | none =>
      have liveNone : live.status = none := by
        have read := revises.read
        rw [Stored.read?_of_no_status present] at read
        cases read
        rfl
      have objectNone : object.status = none := revises.status.trans liveNone
      have none : (stampedAt key version (succeed current object)).status = none := by
        simp [stampedAt, succeed, present, Stored.ofObject, Object.inSeconds, objectNone]
      rw [Stored.read?_of_no_status none, liveNone]
      rfl

end Revises

/-- An object is replaced by one that is made from it. -/
theorem replace_of_revises (quiet : store.faults = []) {current : Stored kind}
    {object live : Object kind} (found : store.find? kind key = some current)
    (revises : Revises object current live) :
    ∃ version after,
      store.replace kind key object =
        (.ok {
          metadata := (stampedAt key version (succeed current object)).metadata
          content := kind.contentInSeconds object.content
          status := live.status }, after) ∧
      Alters store after kind key (some (stampedAt key version (succeed current object))) := by
  have alters := alters_putStamped store kind key (succeed current object) .replace
  refine ⟨store.version + 1, _, ?_, alters⟩
  have read := revises.read?_succeed key (store.version + 1)
  simp only [replace, fault?_eq_none quiet, found, revises.not_stale, Bool.false_eq_true,
    if_false]
  refine Prod.ext ?_ rfl
  change fits (((Store.record _ _ _ _).find? kind key).bind Stored.read?) = _
  rw [alters.here, Option.bind_some, read]
  rfl

theorem delete_of_free (quiet : store.faults = []) (free : store.find? kind key = none) :
    store.delete kind key = (.error (.notFound (describe kind key.name)), store) := by
  simp [delete, fault?_eq_none quiet, free]

theorem delete_of_taken (quiet : store.faults = []) (taken : store.find? kind key = some stored) :
    ∃ after, store.delete kind key = (.ok (), after) ∧ Alters store after kind key none := by
  refine ⟨(store.erase kind key).record .delete kind key, ?_, ?_⟩
  · simp [delete, fault?_eq_none quiet, taken]
  · exact {
      here := find?_erase_self
      elsewhere := fun _ _ different => find?_erase_of_ne different
      faults := rfl }

theorem patchStatus_of_taken (quiet : store.faults = []) (patch : Json)
    (taken : store.find? kind key = some stored) :
    ∃ after,
      store.patchStatus kind key patch = (.ok (), after) ∧
      after.log = store.log ++ [{ verb := .patchStatus, kind, key }] ∧
      Alters store after kind key
        (some { stored with status := some (patchedStatus stored.status patch) }) := by
  refine ⟨(store.put kind key
    { stored with status := some (patchedStatus stored.status patch) }).record
      .patchStatus kind key, ?_, rfl, ?_⟩
  · simp [patchStatus, fault?_eq_none quiet, taken]
  · exact {
      here := find?_put_self
      elsewhere := fun _ _ different => find?_put_of_ne different
      faults := rfl }

/-! ## What a call may do -/

/-- A call failed and changed nothing. -/
def Refuses (store : Store) (request : Call) : Prop :=
  (store.answer request).2 = store ∧ ∃ error, (store.answer request).1 = .error error

/-- A call that was refused has not gone through. -/
theorem Refuses.not_ok {request : Call} {reply : request.Reply} {after : Store}
    (refused : store.Refuses request) : store.answer request ≠ (.ok reply, after) := by
  intro answered
  obtain ⟨_, error, failed⟩ := refused
  rw [answered] at failed
  cases failed

/-- The versions that a call of a verb gives out. -/
def stamps : Verb → Nat
  | .create | .replace => 1
  | .get | .list | .delete | .patchStatus => 0

/-- A call altered one object and is written into the log. -/
structure Enacts (before after : Store) (verb : Verb) (kind : Kind) (key : Key)
    (stored : Option (Stored kind)) : Prop extends Alters before after kind key stored where
  log : after.log = before.log ++ [{ verb := verb, kind, key }]
  version : after.version = before.version + stamps verb

/-- A call to create an object fails, or fills a free place. -/
theorem create_cases (store : Store) (kind : Kind) (namespaceName : String)
    (object : Object kind) :
    store.Refuses (.create kind namespaceName object) ∨
      ∃ uid,
        store.find? kind { namespaceName, name := object.metadata.name.getD "" } = none ∧
        Enacts store (store.create kind namespaceName object).2 .create kind
          { namespaceName, name := object.metadata.name.getD "" }
          (some (stampedAt { namespaceName, name := object.metadata.name.getD "" }
            (store.version + 1) (Stored.ofObject (identified object uid)))) := by
  obtain ⟨uid, identifiers, marked⟩ := identify_eq store object
  simp only [Refuses, answer, create]
  by_cases unnamed : object.metadata.name.getD "" = ""
  · simp only [unnamed, if_true]
    exact Or.inl ⟨trivial, _, rfl⟩
  · simp only [unnamed, if_false]
    cases store.fault? .create kind with
    | some error => exact Or.inl ⟨rfl, error, rfl⟩
    | none =>
        cases place : store.find? kind { namespaceName, name := object.metadata.name.getD "" } with
        | some taken => exact Or.inl ⟨rfl, _, rfl⟩
        | none =>
            right
            rw [marked]
            have alters := alters_putStamped { store with identifiers } kind
              { namespaceName, name := object.metadata.name.getD "" }
              (Stored.ofObject (identified object uid)) .create
            exact ⟨uid, rfl, {
              here := alters.here
              elsewhere := alters.elsewhere
              faults := alters.faults
              log := rfl
              version := rfl }⟩

/-- A call to replace an object fails, or puts the object in the place of another. -/
theorem replace_cases (store : Store) (kind : Kind) (key : Key) (object : Object kind) :
    store.Refuses (.replace kind key object) ∨
      ∃ current, store.find? kind key = some current ∧
        Enacts store (store.replace kind key object).2 .replace kind key
          (some (stampedAt key (store.version + 1) (succeed current object))) := by
  simp only [Refuses, answer, replace]
  cases store.fault? .replace kind with
  | some error => exact Or.inl ⟨rfl, error, rfl⟩
  | none =>
      cases place : store.find? kind key with
      | none => exact Or.inl ⟨rfl, _, rfl⟩
      | some current =>
          cases stale : isStale current object with
          | true =>
              left
              simp only [stale, if_true]
              exact ⟨trivial, _, rfl⟩
          | false =>
              right
              simp only [stale, Bool.false_eq_true, if_false]
              have alters := alters_putStamped store kind key (succeed current object) .replace
              exact ⟨current, rfl, { toAlters := alters, log := rfl, version := rfl }⟩

/-- A call that replaces an object by one that is made from it goes through. -/
theorem enacts_of_revises (quiet : store.faults = []) {current : Stored kind}
    {object live : Object kind} (found : store.find? kind key = some current)
    (revises : Revises object current live) :
    Enacts store (store.replace kind key object).2 .replace kind key
      (some (stampedAt key (store.version + 1) (succeed current object))) := by
  rcases store.replace_cases kind key object with refused | ⟨other, there, enacts⟩
  · obtain ⟨_, _, replaced, _⟩ := replace_of_revises quiet found revises
    exact absurd replaced refused.not_ok
  · cases found.symm.trans there
    exact enacts

/-- A call to delete an object fails, or empties the place. -/
theorem delete_cases (store : Store) (kind : Kind) (key : Key) :
    store.Refuses (.delete kind key) ∨
      Enacts store (store.delete kind key).2 .delete kind key none := by
  simp only [Refuses, answer, delete]
  cases store.fault? .delete kind with
  | some error => exact Or.inl ⟨rfl, error, rfl⟩
  | none =>
      cases place : store.find? kind key with
      | none => exact Or.inl ⟨rfl, _, rfl⟩
      | some current =>
          right
          exact {
            here := find?_erase_self
            elsewhere := fun _ _ different => find?_erase_of_ne different
            faults := rfl
            log := rfl
            version := rfl }

/-- A call to patch a status fails, or changes the status of one object. -/
theorem patchStatus_cases (store : Store) (kind : Kind) (key : Key) (patch : Json) :
    store.Refuses (.patchStatus kind key patch) ∨
      ∃ current, store.find? kind key = some current ∧
        Enacts store (store.patchStatus kind key patch).2 .patchStatus kind key
          (some { current with status := some (patchedStatus current.status patch) }) := by
  simp only [Refuses, answer, patchStatus]
  cases store.fault? .patchStatus kind with
  | some error => exact Or.inl ⟨rfl, error, rfl⟩
  | none =>
      cases place : store.find? kind key with
      | none => exact Or.inl ⟨rfl, _, rfl⟩
      | some current =>
          right
          exact ⟨current, rfl, {
            here := find?_put_self
            elsewhere := fun _ _ different => find?_put_of_ne different
            faults := rfl
            log := rfl
            version := rfl }⟩

end Store

end ClusterAudit
