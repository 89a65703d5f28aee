import ClusterAudit.Proofs.Cluster.Store
import ClusterAudit.Proofs.Text.Decimal
import Mathlib.Logic.Relation

/-!
Versions of stored objects. They come from one counter, and only statuses are written without a new
one. So whatever happens to the cluster, an object that is stored under the version of one that was
read differs from it in its status at most.
-/

namespace ClusterAudit

open Text (ofNat ofNat_injective)

/-! ## What happens to a cluster -/

namespace Store

/-- What may happen to a cluster at once: a call, an object that is inserted, or edited, or given
another status, or a change that is not about stored objects, as one of the log or the faults. -/
inductive Write : Store → Store → Prop
  | call (store : Store) (request : Call) : Write store (store.answer request).2
  | insert (store : Store) (kind : Kind) (namespaceName : String) (object : Object kind) :
      Write store (store.insert kind namespaceName object)
  | edit (store : Store) (kind : Kind) (key : Key) (object : Object kind) :
      (store.stored? kind key).isSome → Write store (store.putStamped kind key (.ofObject object))
  | setStatus (store : Store) (kind : Kind) (key : Key) (status : Json) :
      Write store (store.setStatus kind key status)
  | maintain (store after : Store) :
      after.tables = store.tables → after.version = store.version → Write store after

/-- The cluster may have come about in this way. -/
def IsReachable (store : Store) : Prop :=
  Relation.ReflTransGen Write empty store

theorem writes_modify (store : Store) (kind : Kind) (key : Key) (edit : Json → Option Json) :
    Relation.ReflGen Write store (store.modify kind key edit).2 := by
  rw [modify]
  cases present : store.stored? kind key with
  | none => exact .refl
  | some current =>
      have isSome : (store.stored? kind key).isSome = true := by rw [present, Option.isSome_some]
      exact .single (.edit store kind key _ isSome)

theorem writes_modifyCluster (store : Store) (kind : Kind) (name : String)
    (edit : Json → Option Json) :
    Relation.ReflGen Write store (store.modifyCluster kind name edit).2 := by
  rw [modifyCluster]
  split
  · exact .refl
  · exact .single (.insert store kind "" _)

end Store

/-! ## What writes leave -/

/-- A stored object is another one, but for its status, which is not gone. -/
structure Stored.Continues {kind : Kind} (stored origin : Stored kind) : Prop where
  metadata : stored.metadata = origin.metadata
  content : stored.content = origin.content
  status : stored.status = none → origin.status = none

namespace Stored.Continues

variable {kind : Kind} {stored middle origin : Stored kind}

theorem refl : stored.Continues stored where
  metadata := rfl
  content := rfl
  status := id

theorem trans (second : stored.Continues middle) (first : middle.Continues origin) :
    stored.Continues origin where
  metadata := second.metadata.trans first.metadata
  content := second.content.trans first.content
  status := fun none => first.status (second.status none)

end Stored.Continues

namespace Store

variable {store before after : Store} {kind : Kind} {key : Key}

/-- What is stored at a place continues what was stored there before. -/
def Keeps (before : Store) (kind : Kind) (key : Key) (stored : Stored kind) : Prop :=
  ∃ origin, before.find? kind key = some origin ∧ stored.Continues origin

/-- All stored objects have been there before, but for one at the given place at most, which has a
version that had not been given before. -/
structure Evolves (before after : Store) (kind : Kind) (key : Key) : Prop where
  version : before.version ≤ after.version
  keeps_or_fresh : ∀ other place stored, after.find? other place = some stored →
    before.Keeps other place stored ∨
      other = kind ∧ place = key ∧ before.version < after.version ∧
        stored.metadata.resourceVersion = some (ofNat (before.version + 1))

theorem evolves_of_tables (tables : after.tables = before.tables)
    (version : after.version = before.version) : Evolves before after kind key where
  version := Nat.le_of_eq version.symm
  keeps_or_fresh := by
    intro other place stored found
    rw [find?, tables] at found
    exact Or.inl ⟨stored, found, .refl⟩

theorem Alters.evolves {change : Option (Stored kind)}
    (alters : Alters before after kind key change) (version : before.version ≤ after.version)
    (here : ∀ stored, change = some stored → before.Keeps kind key stored ∨
      before.version < after.version ∧
        stored.metadata.resourceVersion = some (ofNat (before.version + 1))) :
    Evolves before after kind key where
  version
  keeps_or_fresh := by
    intro other place stored found
    by_cases same : other = kind ∧ place = key
    · obtain ⟨rfl, rfl⟩ := same
      rw [alters.here] at found
      refine (here stored found).imp id ?_
      rintro ⟨later, stamped⟩
      exact ⟨rfl, rfl, later, stamped⟩
    · rw [alters.elsewhere other place same] at found
      exact Or.inl ⟨stored, found, .refl⟩

/-- An object that is stored under the next version. -/
theorem Alters.evolves_of_stamped {stored : Stored kind}
    (alters : Alters before after kind key (some (stampedAt key (before.version + 1) stored)))
    (version : after.version = before.version + 1) : Evolves before after kind key := by
  refine alters.evolves (by omega) ?_
  intro other isStamped
  cases isStamped
  exact Or.inr ⟨by omega, rfl⟩

/-- An object that is given another status. -/
theorem Alters.evolves_of_reported {current : Stored kind} {status : Json}
    (alters : Alters before after kind key (some { current with status := some status }))
    (found : before.find? kind key = some current) (version : after.version = before.version) :
    Evolves before after kind key := by
  refine alters.evolves (Nat.le_of_eq version.symm) ?_
  intro other isReported
  cases isReported
  exact Or.inl ⟨current, found, { metadata := rfl, content := rfl, status := nofun }⟩

/-- An object that is removed. -/
theorem Alters.evolves_of_erased (alters : Alters before after kind key none)
    (version : after.version = before.version) : Evolves before after kind key := by
  refine alters.evolves (Nat.le_of_eq version.symm) ?_
  intro other isErased
  cases isErased

theorem evolves_putStamped (store : Store) (kind : Kind) (key : Key) (stored : Stored kind) :
    Evolves store (store.putStamped kind key stored) kind key := by
  have alters : Alters store (store.putStamped kind key stored) kind key
      (some (stampedAt key (store.version + 1) stored)) := {
    here := find?_put_self
    elsewhere := fun _ _ different => find?_put_of_ne different
    faults := rfl }
  exact alters.evolves_of_stamped rfl

theorem Refuses.evolves {request : Call} (refused : store.Refuses request) :
    Evolves store (store.answer request).2 kind key := by
  rw [refused.1]
  exact evolves_of_tables rfl rfl

theorem exists_evolves_answer (store : Store) (request : Call) :
    ∃ kind key, Evolves store (store.answer request).2 kind key := by
  cases request with
  | get kind key => exact ⟨kind, key, evolves_of_tables rfl rfl⟩
  | list kind namespaceName selector =>
      exact ⟨kind, { namespaceName, name := "" }, evolves_of_tables rfl rfl⟩
  | create kind namespaceName object =>
      refine ⟨kind, { namespaceName, name := object.metadata.name.getD "" }, ?_⟩
      rcases store.create_cases kind namespaceName object with refused | ⟨created, _, enacts⟩
      · exact refused.evolves
      · exact enacts.evolves_of_stamped enacts.version
  | replace kind key object =>
      refine ⟨kind, key, ?_⟩
      rcases store.replace_cases kind key object with refused | ⟨current, _, enacts⟩
      · exact refused.evolves
      · exact enacts.evolves_of_stamped enacts.version
  | delete kind key =>
      refine ⟨kind, key, ?_⟩
      rcases store.delete_cases kind key with refused | enacts
      · exact refused.evolves
      · exact enacts.evolves_of_erased enacts.version
  | patchStatus kind key patch =>
      refine ⟨kind, key, ?_⟩
      rcases store.patchStatus_cases kind key patch with refused | ⟨current, found, enacts⟩
      · exact refused.evolves
      · exact enacts.evolves_of_reported found enacts.version

theorem evolves_setStatus (store : Store) (kind : Kind) (key : Key) (status : Json) :
    Evolves store (store.setStatus kind key status) kind key := by
  rw [setStatus]
  cases found : store.find? kind key with
  | none => exact evolves_of_tables rfl rfl
  | some current =>
      exact (alters_put store kind key _).evolves_of_reported found rfl

theorem Write.exists_evolves (write : Write before after) :
    ∃ kind key, Evolves before after kind key := by
  cases write with
  | call request => exact before.exists_evolves_answer request
  | insert kind namespaceName object => exact ⟨_, _, before.evolves_putStamped kind _ _⟩
  | edit kind key object present => exact ⟨_, _, before.evolves_putStamped kind key _⟩
  | setStatus kind key status => exact ⟨kind, key, before.evolves_setStatus kind key status⟩
  | maintain _ tables version =>
      exact ⟨.auditConfig, Key.ofCluster "", evolves_of_tables tables version⟩

/-! ## Versions tell objects apart -/

/-- Stored objects have versions that have been given, and no two of a kind have the same. -/
structure IsVersioned (store : Store) : Prop where
  given : ∀ kind key stored, store.find? kind key = some stored →
    ∃ number ≤ store.version, stored.metadata.resourceVersion = some (ofNat number)
  unique : ∀ kind key place stored other, store.find? kind key = some stored →
    store.find? kind place = some other →
    stored.metadata.resourceVersion = other.metadata.resourceVersion → key = place

theorem find?_empty (kind : Kind) (key : Key) : empty.find? kind key = none := rfl

theorem isVersioned_empty : empty.IsVersioned where
  given := by
    intro kind key stored found
    rw [find?_empty] at found
    cases found
  unique := by
    intro kind key place stored other found
    rw [find?_empty] at found
    cases found

/-- A version that has been given is not the next one. -/
theorem ofNat_ne_next {number last : Nat} (given : number ≤ last) :
    some (ofNat number) ≠ some (ofNat (last + 1)) := by
  intro same
  have := ofNat_injective (Option.some.inj same)
  omega

theorem IsVersioned.ne_next (versioned : before.IsVersioned) {stored : Stored kind}
    (keeps : before.Keeps kind key stored) :
    stored.metadata.resourceVersion ≠ some (ofNat (before.version + 1)) := by
  obtain ⟨origin, found, continues⟩ := keeps
  obtain ⟨number, given, isNumber⟩ := versioned.given kind key origin found
  rw [continues.metadata, isNumber]
  exact ofNat_ne_next given

theorem IsVersioned.evolves (versioned : before.IsVersioned)
    (evolves : Evolves before after kind key) : after.IsVersioned where
  given := by
    intro other place stored found
    rcases evolves.keeps_or_fresh other place stored found with
      ⟨origin, wasFound, continues⟩ | ⟨_, _, later, fresh⟩
    · obtain ⟨number, given, isNumber⟩ := versioned.given other place origin wasFound
      exact ⟨number, Nat.le_trans given evolves.version, continues.metadata ▸ isNumber⟩
    · exact ⟨before.version + 1, later, fresh⟩
  unique := by
    intro other left right first second foundFirst foundSecond same
    rcases evolves.keeps_or_fresh other left first foundFirst with
      keepsFirst | ⟨_, atPlaceFirst, _, freshFirst⟩
    · rcases evolves.keeps_or_fresh other right second foundSecond with
        keepsSecond | ⟨_, _, _, freshSecond⟩
      · obtain ⟨firstOrigin, wasFirst, firstContinues⟩ := keepsFirst
        obtain ⟨secondOrigin, wasSecond, secondContinues⟩ := keepsSecond
        rw [firstContinues.metadata, secondContinues.metadata] at same
        exact versioned.unique other left right _ _ wasFirst wasSecond same
      · exact absurd (same.trans freshSecond) (versioned.ne_next keepsFirst)
    · rcases evolves.keeps_or_fresh other right second foundSecond with
        keepsSecond | ⟨_, atPlaceSecond, _, _⟩
      · exact absurd (same.symm.trans freshFirst) (versioned.ne_next keepsSecond)
      · rw [atPlaceFirst, atPlaceSecond]

theorem IsReachable.isVersioned (reachable : store.IsReachable) : store.IsVersioned := by
  induction reachable with
  | refl => exact isVersioned_empty
  | tail _ write inductionHypothesis =>
      obtain ⟨kind, key, evolves⟩ := write.exists_evolves
      exact inductionHypothesis.evolves evolves

/-! ## What was read -/

/-- Whatever is stored under the version of an object that was read continues what was stored
then. -/
structure Remembers (store : Store) (kind : Kind) (object : Object kind) : Prop where
  given : ∃ number ≤ store.version, object.metadata.resourceVersion = some (ofNat number)
  continues : ∃ origin : Stored kind, origin.read? = some object ∧
    ∀ key stored, store.find? kind key = some stored →
      stored.metadata.resourceVersion = object.metadata.resourceVersion → stored.Continues origin

theorem remembers_of_stored? (versioned : store.IsVersioned) {object : Object kind}
    (present : store.stored? kind key = some object) : store.Remembers kind object := by
  obtain ⟨origin, found, read⟩ := exists_find?_of_stored? present
  have sameMetadata := Stored.metadata_of_read? read
  refine { given := ?_, continues := ⟨origin, read, ?_⟩ }
  · rw [sameMetadata]
    exact versioned.given kind key origin found
  · intro place stored foundThere sameVersion
    rw [sameMetadata] at sameVersion
    cases versioned.unique kind place key stored origin foundThere found sameVersion
    cases foundThere.symm.trans found
    exact .refl

theorem Remembers.evolves {other : Kind} {object : Object other}
    (remembers : before.Remembers other object) (evolves : Evolves before after kind key) :
    after.Remembers other object := by
  obtain ⟨⟨number, given, isNumber⟩, origin, read, continues⟩ := remembers
  refine {
    given := ⟨number, Nat.le_trans given evolves.version, isNumber⟩
    continues := ⟨origin, read, ?_⟩ }
  intro place stored found sameVersion
  rcases evolves.keeps_or_fresh other place stored found with
    ⟨middle, wasFound, continuesMiddle⟩ | ⟨_, _, _, fresh⟩
  · refine continuesMiddle.trans (continues place middle wasFound ?_)
    rw [← continuesMiddle.metadata, sameVersion]
  · rw [sameVersion, isNumber] at fresh
    exact absurd fresh (ofNat_ne_next given)

end Store

/-- An object of a kind that was read. -/
structure Sighting where
  kind : Kind
  object : Object kind

/-- The objects that a reply to a call that reads tells of. -/
def Call.sightings : (request : Call) → Except ClusterError request.Reply → List Sighting
  | .get kind _, .ok (some object) => [⟨kind, object⟩]
  | .list kind _ _, .ok objects => objects.map fun object => ⟨kind, object⟩
  | _, _ => []

namespace Store

theorem remembers_of_sightings {store : Store} (versioned : store.IsVersioned) {request : Call}
    {sighting : Sighting} (seen : sighting ∈ request.sightings (store.answer request).1) :
    (store.answer request).2.Remembers sighting.kind sighting.object := by
  cases request with
  | get kind key =>
      cases found : store.get kind key with
      | error error => simp [Call.sightings, answer, found] at seen
      | ok reply =>
          cases reply with
          | none => simp [Call.sightings, answer, found] at seen
          | some object =>
              have same : sighting = ⟨kind, object⟩ := by
                simpa [Call.sightings, answer, found] using seen
              rw [same]
              exact remembers_of_stored? versioned (stored?_of_get found)
  | list kind namespaceName selector =>
      cases found : store.list kind namespaceName selector with
      | error error => simp [Call.sightings, answer, found] at seen
      | ok objects =>
          simp only [Call.sightings, answer, found, List.mem_map] at seen
          obtain ⟨object, member, rfl⟩ := seen
          obtain ⟨key, present⟩ := exists_stored?_of_list found member
          exact remembers_of_stored? versioned present
  | create kind namespaceName object => cases seen
  | replace kind key object => cases seen
  | delete kind key => cases seen
  | patchStatus kind key patch => cases seen

end Store

end ClusterAudit
