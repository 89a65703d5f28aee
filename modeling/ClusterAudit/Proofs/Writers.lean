import ClusterAudit.Proofs.Pass.Revisions

/-!
A pass while others write. Between any two of its calls others may create, edit and delete what they
like. The pass overwrites nothing that it has not read: what has changed since then, but for its
status, makes the call fail, and the pass with it.
-/

namespace ClusterAudit

/-- A cluster, with what is left of a pass over it and the objects that the pass has read. -/
structure Session where
  store : Store
  rest : Pass Progress
  seen : List Sighting := []

/-- What may happen next: the pass goes on by one step, or others write. -/
inductive Session.Step : Session → Session → Prop
  | call (store : Store) (request : Call)
      (next : Except ClusterError request.Reply → Pass Progress) (seen : List Sighting) :
      Step { store, rest := .call request next, seen } {
        store := (store.answer request).2
        rest := next (store.answer request).1
        seen := seen ++ request.sightings (store.answer request).1 }
  | image (store : Store) (request : ImageRequest)
      (next : Except ImageError String → Pass Progress) (seen : List Sighting)
      (reply : Except ImageError String) :
      Step { store, rest := .image request next, seen } { store, rest := next reply, seen }
  | note (store : Store) (feature : Feature) (next : Pass Progress) (seen : List Sighting) :
      Step { store, rest := .note feature next, seen } { store, rest := next, seen }
  | write (store after : Store) (rest : Pass Progress) (seen : List Sighting) :
      Store.Write store after → Step { store, rest, seen } { store := after, rest, seen }

/-! ## Calls that meet what others have written -/

namespace Store

variable {store : Store} {kind : Kind} {key : Key} {read object : Object kind}

/-- The object at a place still is the one that was read, but for its status. -/
def HasStill (store : Store) (kind : Kind) (key : Key) (read : Object kind) : Prop :=
  ∃ current, store.find? kind key = some current ∧
    current.metadata = read.metadata ∧ current.content = read.content

/-- A call to replace what was read goes through only if it is still there. A fault counts as it
is. The status that is stored stays, and if it does not fit, that is all that the call tells. -/
structure OverwritesOnly (store : Store) (kind : Kind) (key : Key) (read object : Object kind) :
    Prop where
  faulty : ∀ error, store.fault? .replace kind = some error →
    store.replace kind key object = (.error error, store)
  lost : store.fault? .replace kind = none → ¬ store.HasStill kind key read → ∃ error,
    store.replace kind key object = (.error error, store) ∧
      (error.isConflict = true ∨ error.isNotFound = true)
  kept : store.fault? .replace kind = none → store.HasStill kind key read → ∃ current written,
    store.find? kind key = some current ∧
      Enacts store (store.replace kind key object).2 .replace kind key (some written) ∧
      written.content = kind.contentInSeconds object.content ∧
      written.status = current.status ∧
      (current.read?.isSome = true →
        ∃ replaced, (store.replace kind key object).1 = .ok replaced) ∧
      (current.read? = none → (store.replace kind key object).1 = .error .unfit)

theorem replace_of_faulty {error : ClusterError} (faulty : store.fault? .replace kind = some error) :
    store.replace kind key object = (.error error, store) := by
  simp only [replace, faulty]

theorem replace_of_absent (working : store.fault? .replace kind = none)
    (absent : store.find? kind key = none) :
    store.replace kind key object = (.error (.notFound (describe kind key.name)), store) := by
  simp only [replace, working, absent]

section Present

variable {current : Stored kind} (working : store.fault? .replace kind = none)
  (found : store.find? kind key = some current)

include working found

theorem replace_of_stale (stale : isStale current object = true) :
    store.replace kind key object =
      (.error (.conflict (describe kind key.name ++ modifiedText)), store) := by
  simp only [replace, working, found, stale, if_true]

theorem replace_of_current (fresh : isStale current object = false) :
    (store.replace kind key object).1 =
        fits (stampedAt key (store.version + 1) (succeed current object)).read? ∧
      Enacts store (store.replace kind key object).2 .replace kind key
        (some (stampedAt key (store.version + 1) (succeed current object))) := by
  have alters := alters_putStamped store kind key (succeed current object) .replace
  simp only [replace, working, found, fresh, Bool.false_eq_true, if_false]
  refine ⟨?_, { toAlters := alters, log := rfl, version := rfl }⟩
  rw [alters.here, Option.bind_some]

end Present

/-- What was read is still there if its version is. -/
theorem Remembers.hasStill_iff (remembers : store.Remembers kind read) {current : Stored kind}
    (found : store.find? kind key = some current) :
    store.HasStill kind key read ↔
      current.metadata.resourceVersion = read.metadata.resourceVersion := by
  constructor
  · rintro ⟨other, foundOther, sameMetadata, _⟩
    cases foundOther.symm.trans found
    rw [sameMetadata]
  · intro sameVersion
    obtain ⟨origin, readOrigin, continues⟩ := remembers.continues
    have continuesHere := continues key current found sameVersion
    refine ⟨current, found, ?_, ?_⟩
    · rw [continuesHere.metadata, Stored.metadata_of_read? readOrigin]
    · rw [continuesHere.content, Stored.content_of_read? readOrigin]

theorem Remembers.isStale_eq_false_iff (remembers : store.Remembers kind read)
    (isMadeFrom : object.IsMadeFrom read) {current : Stored kind} :
    isStale current object = false ↔
      current.metadata.resourceVersion = read.metadata.resourceVersion := by
  obtain ⟨number, _, isNumber⟩ := remembers.given
  rw [isStale, isMadeFrom.version, isNumber, Option.any_some, bne_eq_false_iff_eq]

/-- An object that takes the place of the one that it was made from leaves the status as it is. -/
theorem Remembers.status_succeed (remembers : store.Remembers kind read)
    (isMadeFrom : object.IsMadeFrom read) {current : Stored kind}
    (found : store.find? kind key = some current)
    (sameVersion : current.metadata.resourceVersion = read.metadata.resourceVersion) :
    (succeed current object).status = current.status := by
  cases present : current.status with
  | some status => simp only [succeed, present, Option.some_or]
  | none =>
      obtain ⟨origin, readOrigin, continues⟩ := remembers.continues
      have originNone := (continues key current found sameVersion).status present
      rw [Stored.read?_of_no_status originNone] at readOrigin
      have readNone : read.status = none := by
        rw [← Option.some.inj readOrigin]
      have objectNone : object.status = none := isMadeFrom.status.trans readNone
      simp [succeed, present, Stored.ofObject, Object.inSeconds, objectNone]

theorem Remembers.overwritesOnly (remembers : store.Remembers kind read)
    (isMadeFrom : object.IsMadeFrom read) (key : Key) :
    store.OverwritesOnly kind key read object where
  faulty _ faulty := replace_of_faulty faulty
  lost := by
    intro working gone
    cases found : store.find? kind key with
    | none => exact ⟨_, replace_of_absent working found, Or.inr rfl⟩
    | some current =>
        have stale : isStale current object = true := by
          rw [remembers.hasStill_iff found, ← remembers.isStale_eq_false_iff isMadeFrom] at gone
          exact eq_true_of_ne_false gone
        exact ⟨_, replace_of_stale working found stale, Or.inl rfl⟩
  kept := by
    intro working still
    have ⟨current, found, _⟩ := still
    have sameVersion := (remembers.hasStill_iff found).mp still
    have fresh := (remembers.isStale_eq_false_iff isMadeFrom).mpr sameVersion
    obtain ⟨answered, enacts⟩ := replace_of_current working found fresh
    have sameStatus : (stampedAt key (store.version + 1) (succeed current object)).status =
        current.status := remembers.status_succeed isMadeFrom found sameVersion
    refine ⟨current, _, found, enacts, rfl, sameStatus, ?_, ?_⟩
    · intro fitting
      obtain ⟨live, reads⟩ := Option.isSome_iff_exists.mp fitting
      rw [answered, Stored.read?_of_status reads sameStatus]
      exact ⟨_, rfl⟩
    · intro unfit
      have unfitStatus : kind.readStatus? (current.status.getD .null) = none :=
        Option.map_eq_none_iff.mp unfit
      rw [answered, Stored.read?, sameStatus, unfitStatus]
      rfl

/-- What was made from a stored object does not take the place of another one. -/
theorem IsVersioned.refuses_of_elsewhere (versioned : store.IsVersioned) {place : Key}
    (present : store.stored? kind key = some read) (isMadeFrom : object.IsMadeFrom read)
    (elsewhere : place ≠ key) : store.Refuses (.replace kind place object) := by
  have overwrites :=
    (remembers_of_stored? versioned present).overwritesOnly isMadeFrom place
  cases faulty : store.fault? .replace kind with
  | some error =>
      have failed := overwrites.faulty error faulty
      exact ⟨congrArg Prod.snd failed, error, congrArg Prod.fst failed⟩
  | none =>
      have gone : ¬ store.HasStill kind place read := by
        rintro ⟨current, found, sameMetadata, _⟩
        obtain ⟨origin, wasFound, reads⟩ := exists_find?_of_stored? present
        have sameVersion : current.metadata.resourceVersion = origin.metadata.resourceVersion := by
          rw [sameMetadata, Stored.metadata_of_read? reads]
        exact elsewhere (versioned.unique kind place key current origin found wasFound sameVersion)
      obtain ⟨error, failed, _⟩ := overwrites.lost faulty gone
      exact ⟨congrArg Prod.snd failed, error, congrArg Prod.fst failed⟩

/-- A call to create an object where there is one fails, and leaves that one. -/
def SparesTaken (store : Store) (kind : Kind) (namespaceName : String) (object : Object kind) :
    Prop :=
  ∀ current, store.find? kind { namespaceName, name := object.metadata.name.getD "" } =
      some current → ∃ error, store.create kind namespaceName object = (.error error, store) ∧
    (store.fault? .create kind = none → error.isAlreadyExists = true)

theorem sparesTaken_of_named (named : object.metadata.name.getD "" ≠ "") (namespaceName : String) :
    store.SparesTaken kind namespaceName object := by
  intro current taken
  cases faulty : store.fault? .create kind with
  | some error =>
      refine ⟨error, ?_, nofun⟩
      simp only [create, named, if_false, faulty]
  | none =>
      refine ⟨.alreadyExists (describe kind (object.metadata.name.getD "")), ?_, fun _ => rfl⟩
      simp only [create, named, if_false, faulty, taken]

end Store

/-! ## Runs -/

namespace Session

variable {session before after : Session}

/-- Versions tell objects apart, what the pass has read is remembered, and the pass is careful. -/
structure IsSound (session : Session) : Prop where
  versioned : session.store.IsVersioned
  remembers : ∀ sighting ∈ session.seen, session.store.Remembers sighting.kind sighting.object
  careful : session.rest.IsCareful Pass.anything session.seen

/-- A pass that starts in a cluster that may have come about. -/
def start (store : Store) (policyName : String) (key : Key) (now : Instant) (token : String) :
    Session where
  store
  rest := Pass.reconcile policyName key now token

theorem isSound_start {store : Store} (reachable : store.IsReachable) (policyName : String)
    (key : Key) (now : Instant) (token : String) :
    (start store policyName key now token).IsSound where
  versioned := reachable.isVersioned
  remembers _ member := absurd member List.not_mem_nil
  careful := Pass.isCareful_reconcile policyName key now token

theorem IsSound.step (isSound : before.IsSound) (step : Step before after) : after.IsSound := by
  obtain ⟨versioned, remembers, careful⟩ := isSound
  cases step with
  | call store request next seen =>
      obtain ⟨kind, key, evolves⟩ := store.exists_evolves_answer request
      refine {
        versioned := versioned.evolves evolves
        remembers := ?_
        careful := careful.2 _ }
      intro sighting member
      rcases List.mem_append.mp member with earlier | now
      · exact (remembers sighting earlier).evolves evolves
      · exact Store.remembers_of_sightings versioned now
  | image store request next seen reply =>
      exact { versioned, remembers, careful := careful reply }
  | note store feature next seen => exact { versioned, remembers, careful }
  | write store after rest seen write =>
      obtain ⟨kind, key, evolves⟩ := write.exists_evolves
      exact {
        versioned := versioned.evolves evolves
        remembers := fun sighting member => (remembers sighting member).evolves evolves
        careful }

theorem IsSound.steps (isSound : before.IsSound)
    (steps : Relation.ReflTransGen Step before after) : after.IsSound := by
  induction steps with
  | refl => exact isSound
  | tail _ step inductionHypothesis => exact inductionHypothesis.step step

theorem IsSound.replace (isSound : session.IsSound) {kind : Kind} {place : Key}
    {object : Object kind} {next : Except ClusterError (Object kind) → Pass Progress}
    (calls : session.rest = .call (.replace kind place object) next) :
    (∃ read : Object kind, ⟨kind, read⟩ ∈ session.seen ∧
      session.store.OverwritesOnly kind place read object) ∧
      ∀ error, next (.error error) = .fail (.cluster error) := by
  have careful := isSound.careful
  rw [calls] at careful
  obtain ⟨⟨read, member, isMadeFrom⟩, fails⟩ := careful.1
  exact ⟨⟨read, member, (isSound.remembers _ member).overwritesOnly isMadeFrom place⟩, fails⟩

theorem IsSound.create (isSound : session.IsSound) {kind : Kind} {namespaceName : String}
    {object : Object kind} {next : Except ClusterError (Object kind) → Pass Progress}
    (calls : session.rest = .call (.create kind namespaceName object) next) :
    session.store.SparesTaken kind namespaceName object ∧ ∀ error : ClusterError,
      if kind = .secret ∧ error.isAlreadyExists = true then (next (.error error)).IsCalling
      else next (.error error) = .fail (.cluster error) := by
  have careful := isSound.careful
  rw [calls] at careful
  obtain ⟨named, ends⟩ := careful.1
  exact ⟨Store.sparesTaken_of_named named namespaceName, ends⟩

end Session

/-- Whatever others do between the calls of a pass, it replaces an object only if that is still the
one that it has read, but for its status, and creates one only where there is none. An error of
either call ends the pass, but for a secret that is there already. -/
theorem overwrites_only_what_was_read {store : Store} {policyName : String} {key : Key}
    {now : Instant} {token : String} {session : Session} (reachable : store.IsReachable)
    (steps : Relation.ReflTransGen Session.Step (Session.start store policyName key now token)
      session) :
    (∀ kind place (object : Object kind) next,
      session.rest = .call (.replace kind place object) next →
      (∃ read : Object kind, ⟨kind, read⟩ ∈ session.seen ∧
        session.store.OverwritesOnly kind place read object) ∧
      ∀ error, next (.error error) = .fail (.cluster error)) ∧
    (∀ kind namespaceName (object : Object kind) next,
      session.rest = .call (.create kind namespaceName object) next →
      session.store.SparesTaken kind namespaceName object ∧ ∀ error : ClusterError,
        if kind = .secret ∧ error.isAlreadyExists = true then (next (.error error)).IsCalling
        else next (.error error) = .fail (.cluster error)) := by
  have isSound := (Session.isSound_start reachable policyName key now token).steps steps
  exact ⟨fun _ _ _ _ calls => isSound.replace calls, fun _ _ _ _ calls => isSound.create calls⟩

/-! ## A configuration that is being deleted -/

/-- A configuration that is being deleted and still has the finalizer of the webhook. -/
def departingConfig : AuditConfig where
  metadata := {
    name := some "audit"
    uid := some "uid-audit"
    finalizers := some [Pass.Admission.finalizer]
    deletionTimestamp := some { seconds := 0, nanos := 0 } }
  content := {}

def departingKey : Key where
  namespaceName := "security"
  name := "audit"

def departingStore : Store :=
  Store.empty.insert .auditConfig "security" departingConfig

theorem isReachable_departingStore : departingStore.IsReachable :=
  .single (.insert Store.empty .auditConfig "security" departingConfig)

namespace Session

/-- A session after the next call of its pass. -/
def advance (session : Session) : Session :=
  match session.rest with
  | .call request next => {
      store := (session.store.answer request).2
      rest := next (session.store.answer request).1
      seen := session.seen ++ request.sightings (session.store.answer request).1 }
  | _ => session

theorem steps_advance (session : Session) :
    Relation.ReflTransGen Step session session.advance := by
  obtain ⟨store, rest, seen⟩ := session
  cases rest with
  | call request next => exact .single (.call store request next seen)
  | done progress => exact .refl
  | fail error => exact .refl
  | crash => exact .refl
  | image request next => exact .refl
  | note feature next => exact .refl

/-- A pass over that configuration starts. -/
def departing : Session :=
  start departingStore "default" departingKey { seconds := 0, nanos := 0 } "token"

/-- The pass has read the configuration and found no registration to remove. Next it takes the
finalizer away. -/
def releasing : Session :=
  departing.advance.advance

theorem steps_releasing : Relation.ReflTransGen Step departing releasing :=
  .trans (steps_advance departing) (steps_advance departing.advance)

/-- Others have written the configuration again. -/
def rewritten : Session :=
  { releasing with store := releasing.store.insert .auditConfig "security" departingConfig }

theorem steps_rewritten : Relation.ReflTransGen Step departing rewritten :=
  .tail steps_releasing (.write _ _ _ _ (.insert _ _ _ _))

/-- Others have written a status that is none. -/
def muddled : Session :=
  { releasing with
    store := releasing.store.setStatus .auditConfig departingKey
      (.obj [("conditions", .str "many")]) }

theorem steps_muddled : Relation.ReflTransGen Step departing muddled :=
  .tail steps_releasing (.write _ _ _ _ (.setStatus _ _ _ _))

theorem isSound_of_steps (steps : Relation.ReflTransGen Step departing session) :
    session.IsSound :=
  (isSound_start isReachable_departingStore _ _ _ _).steps steps

end Session

open Session (departing releasing rewritten muddled)

/-- The configuration that was written again keeps its finalizer, and the pass fails. -/
theorem fails_rewritten :
    ∃ (object : AuditConfig) (next : Except ClusterError AuditConfig → Pass Progress)
        (error : ClusterError),
      rewritten.rest = .call (.replace .auditConfig departingKey object) next ∧
      rewritten.store.replace .auditConfig departingKey object = (.error error, rewritten.store) ∧
      (error.isConflict = true ∨ error.isNotFound = true) ∧
      next (.error error) = .fail (.cluster error) := by
  obtain ⟨object, next, calls⟩ : ∃ object next,
      rewritten.rest = .call (.replace .auditConfig departingKey object) next := ⟨_, _, rfl⟩
  have overwrites :=
    overwrites_only_what_was_read isReachable_departingStore Session.steps_rewritten
  obtain ⟨⟨read, member, overwritesOnly⟩, fails⟩ := overwrites.1 _ _ object next calls
  have gone : ¬ rewritten.store.HasStill .auditConfig departingKey read := by
    rintro ⟨current, found, sameMetadata, _⟩
    have first : read.metadata.resourceVersion = some (Text.ofNat 1) := by
      cases List.mem_singleton.mp member
      rfl
    have second : current.metadata.resourceVersion = some (Text.ofNat 2) := by
      cases found
      rfl
    rw [sameMetadata, first] at second
    exact absurd (Text.ofNat_injective (Option.some.inj second)) (by decide)
  obtain ⟨error, failed, unlucky⟩ := overwritesOnly.lost rfl gone
  exact ⟨object, next, error, calls, failed, unlucky, fails error⟩

/-- A replacement that would have gone through fails if others have written a status meanwhile that
does not fit. If others have changed the object, a fault answers with its own error. -/
theorem exists_replacement_spoilt :
    departingStore.IsReachable ∧
      Relation.ReflTransGen Session.Step departing releasing ∧
      Relation.ReflTransGen Session.Step departing muddled ∧
      Relation.ReflTransGen Session.Step departing rewritten ∧
      ∃ (object : AuditConfig) (next : Except ClusterError AuditConfig → Pass Progress),
        releasing.rest = .call (.replace .auditConfig departingKey object) next ∧
        (∃ replaced,
          (releasing.store.replace .auditConfig departingKey object).1 = .ok replaced) ∧
        muddled.rest = .call (.replace .auditConfig departingKey object) next ∧
        (muddled.store.replace .auditConfig departingKey object).1 = .error .unfit ∧
        next (.error .unfit) = .fail (.cluster .unfit) ∧
        rewritten.rest = .call (.replace .auditConfig departingKey object) next ∧
        ((rewritten.store.withFault {
            verb := .replace
            kind := .auditConfig
            error := .api 503 "down" }).replace .auditConfig departingKey object).1 =
          .error (.api 503 "down") := by
  refine ⟨isReachable_departingStore, Session.steps_releasing, Session.steps_muddled,
    Session.steps_rewritten, ?_⟩
  obtain ⟨object, next, calls⟩ : ∃ object next,
      releasing.rest = .call (.replace .auditConfig departingKey object) next := ⟨_, _, rfl⟩
  have releases := (Session.isSound_of_steps Session.steps_releasing).replace calls
  have muddles := (Session.isSound_of_steps Session.steps_muddled).replace calls
  refine ⟨object, next, calls, ?_, calls, ?_, releases.2 .unfit, calls, rfl⟩
  · obtain ⟨read, member, overwritesOnly⟩ := releases.1
    have still : releasing.store.HasStill .auditConfig departingKey read := by
      cases List.mem_singleton.mp member
      exact ⟨_, rfl, rfl, rfl⟩
    obtain ⟨current, _, found, _, _, _, replaces, _⟩ := overwritesOnly.kept rfl still
    apply replaces
    cases found
    rfl
  · obtain ⟨read, member, overwritesOnly⟩ := muddles.1
    have still : muddled.store.HasStill .auditConfig departingKey read := by
      cases List.mem_singleton.mp member
      exact ⟨_, rfl, rfl, rfl⟩
    obtain ⟨current, _, found, _, _, _, _, fails⟩ := overwritesOnly.kept rfl still
    apply fails
    cases found
    rfl

end ClusterAudit
