import ClusterAudit.Proofs.AuditConfig.Status
import ClusterAudit.Proofs.Json.MergePatch
import ClusterAudit.Proofs.Pass.Frugal

/-!
How far statuses are kept apart from the objects that they belong to. A status is patched without
any change to its object. An object that is replaced keeps its status if it has one; if it has none,
it takes the one that it is sent. What a call has written is read back for its reply, so that a call
may fail and leave what it has written: its status does not fit then.
-/

namespace ClusterAudit

open Json

/-! ## Statuses that are sent -/

namespace Object

variable {kind : Kind} {object : Object kind}

/-- The status that an object is sent with, as it is stored if it is taken over. -/
def sentStatus (object : Object kind) : Option Json :=
  (Stored.ofObject object).status

theorem sentStatus_eq_none_iff : object.sentStatus = none ↔ object.status = none := by
  simp [sentStatus, Stored.ofObject, inSeconds]

/-- A status stays as it was where another one is sent, unless there is none. -/
theorem or_sentStatus_eq_iff {current : Option Json} :
    current.or object.sentStatus = current ↔ (current = none → object.status = none) := by
  cases current with
  | none => simp [sentStatus_eq_none_iff]
  | some status => simp

end Object

namespace Store

variable {store before after : Store} {kind : Kind} {key : Key}

/-! ## Replies to calls that write -/

theorem create_refuses_or_reads (store : Store) (kind : Kind) (namespaceName : String)
    (object : Object kind) :
    store.Refuses (.create kind namespaceName object) ∨
      (store.create kind namespaceName object).1 =
        fits ((store.create kind namespaceName object).2.stored? kind
          { namespaceName, name := object.metadata.name.getD "" }) := by
  simp only [Refuses, answer, create]
  split
  · exact Or.inl ⟨rfl, _, rfl⟩
  · split
    · exact Or.inl ⟨rfl, _, rfl⟩
    · exact Or.inl ⟨rfl, _, rfl⟩
    · exact Or.inr rfl

theorem replace_refuses_or_reads (store : Store) (kind : Kind) (key : Key) (object : Object kind) :
    store.Refuses (.replace kind key object) ∨
      (store.replace kind key object).1 =
        fits ((store.replace kind key object).2.stored? kind key) := by
  simp only [Refuses, answer, replace]
  split
  · exact Or.inl ⟨rfl, _, rfl⟩
  · exact Or.inl ⟨rfl, _, rfl⟩
  · split
    · exact Or.inl ⟨rfl, _, rfl⟩
    · exact Or.inr rfl

/-- A call has written an object and failed nevertheless, since the status that it left there does
not fit the kind. -/
structure FailsLate (before after : Store) (verb : Verb) (kind : Kind) (key : Key)
    (status : Option Json) (error : ClusterError) : Prop where
  unfit : error = .unfit
  unreadable : kind.readStatus? (status.getD .null) = none
  enacts : ∃ stored, stored.status = status ∧ Enacts before after verb kind key (some stored)

theorem Enacts.ne {verb : Verb} {change : Option (Stored kind)}
    (enacts : Enacts before after verb kind key change) : after ≠ before := by
  rintro rfl
  simpa using enacts.log

theorem FailsLate.ne {verb : Verb} {status : Option Json} {error : ClusterError}
    (late : FailsLate before after verb kind key status error) : after ≠ before := by
  obtain ⟨_, _, enacts⟩ := late.enacts
  exact enacts.ne

/-- A call that gives back what it has written fails only if that is not to be read. -/
theorem Enacts.failsLate {verb : Verb} {stored : Stored kind} {error : ClusterError}
    (enacts : Enacts before after verb kind key (some stored))
    (failed : .error error = fits (after.stored? kind key)) :
    FailsLate before after verb kind key stored.status error := by
  rw [stored?, enacts.here, Option.bind_some] at failed
  cases read : stored.read? with
  | some object =>
      rw [read] at failed
      cases failed
  | none =>
      rw [read] at failed
      cases failed
      exact {
        unfit := rfl
        unreadable := Option.map_eq_none_iff.mp read
        enacts := ⟨stored, rfl, enacts⟩ }

/-- A creation that fails has changed nothing, unless the status that it was sent does not fit. -/
theorem ne_iff_of_create_eq_error {namespaceName : String} {object : Object kind}
    {error : ClusterError}
    (failed : store.create kind namespaceName object = (.error error, after)) :
    after ≠ store ↔
      FailsLate store after .create kind { namespaceName, name := object.metadata.name.getD "" }
        object.sentStatus error := by
  refine ⟨fun changed => ?_, FailsLate.ne⟩
  have notRefused : ¬ store.Refuses (.create kind namespaceName object) := fun refused =>
    changed ((congrArg Prod.snd failed).symm.trans refused.1)
  obtain ⟨uid, _, enacts⟩ :=
    (store.create_cases kind namespaceName object).resolve_left notRefused
  have reads := (store.create_refuses_or_reads kind namespaceName object).resolve_left notRefused
  rw [failed] at enacts reads
  exact enacts.failsLate reads

/-- A replacement that fails has changed nothing, unless the status that stays or is taken over does
not fit. -/
theorem ne_iff_of_replace_eq_error {object : Object kind} {error : ClusterError}
    (failed : store.replace kind key object = (.error error, after)) :
    after ≠ store ↔ ∃ current, store.find? kind key = some current ∧
      FailsLate store after .replace kind key (current.status.or object.sentStatus) error := by
  refine ⟨fun changed => ?_, fun ⟨_, _, late⟩ => late.ne⟩
  have notRefused : ¬ store.Refuses (.replace kind key object) := fun refused =>
    changed ((congrArg Prod.snd failed).symm.trans refused.1)
  obtain ⟨current, found, enacts⟩ :=
    (store.replace_cases kind key object).resolve_left notRefused
  have reads := (store.replace_refuses_or_reads kind key object).resolve_left notRefused
  rw [failed] at enacts reads
  exact ⟨current, found, enacts.failsLate reads⟩

/-! ## Statuses and objects -/

/-- How far the calls to a cluster keep statuses apart from objects, and when they fail and leave
something changed. -/
structure SeparatesStatuses (store : Store) : Prop where
  replaced : ∀ kind key object reply after,
    store.replace kind key object = (.ok reply, after) → ∃ current stored,
      store.find? kind key = some current ∧
        Enacts store after .replace kind key (some stored) ∧
        stored.status = current.status.or object.sentStatus ∧
        (stored.status = current.status ↔ (current.status = none → object.status = none))
  patched : ∀ kind key patch after,
    store.patchStatus kind key patch = (.ok (), after) → ∃ current,
      store.find? kind key = some current ∧
        after.version = store.version ∧
        Enacts store after .patchStatus kind key
          (some { current with status := some (patchedStatus current.status patch) })
  notCreated : ∀ kind namespaceName (object : Object kind) error after,
    store.create kind namespaceName object = (.error error, after) →
      (after ≠ store ↔
        FailsLate store after .create kind { namespaceName, name := object.metadata.name.getD "" }
          object.sentStatus error)
  notReplaced : ∀ kind key object error after,
    store.replace kind key object = (.error error, after) →
      (after ≠ store ↔ ∃ current, store.find? kind key = some current ∧
        FailsLate store after .replace kind key (current.status.or object.sentStatus) error)
  notDeleted : ∀ kind key error after,
    store.delete kind key = (.error error, after) → after = store
  notPatched : ∀ kind key patch error after,
    store.patchStatus kind key patch = (.error error, after) → after = store

/-- A replaced object keeps its status, unless it has none and is sent one; a patched status leaves
its object and all versions; and a call that fails changes nothing, unless it has written an object
whose status does not fit. -/
theorem separatesStatuses (store : Store) : store.SeparatesStatuses where
  replaced := by
    intro kind key object reply after replaced
    rcases store.replace_cases kind key object with refused | ⟨current, found, enacts⟩
    · exact absurd replaced refused.not_ok
    · rw [replaced] at enacts
      exact ⟨current, _, found, enacts, rfl, Object.or_sentStatus_eq_iff⟩
  patched := by
    intro kind key patch after patched
    rcases store.patchStatus_cases kind key patch with refused | ⟨current, found, enacts⟩
    · exact absurd patched refused.not_ok
    · rw [patched] at enacts
      exact ⟨current, found, enacts.version, enacts⟩
  notCreated _ _ _ _ _ := ne_iff_of_create_eq_error
  notReplaced _ _ _ _ _ := ne_iff_of_replace_eq_error
  notDeleted _ _ _ _ := eq_of_delete_eq_error
  notPatched _ _ _ _ _ := eq_of_patchStatus_eq_error

/-- A Deployment that nothing has been reported on. -/
def unreported : Deployment where
  metadata := { name := some "audit-workload" }
  content := none

/-- Where that Deployment is stored. -/
def unreportedKey : Key where
  namespaceName := "security"
  name := "audit-workload"

/-- A cluster into which that Deployment was inserted. -/
def inserted : Store :=
  empty.insert .deployment "security" unreported

/-- A Deployment without a status takes the one that it is sent. One whose status does not fit is
replaced by a call that fails. -/
theorem exists_status_taken_over :
    (∃ reply after stored,
      inserted.replace .deployment unreportedKey
          { unreported with status := some { replicas := some 3 } } = (.ok reply, after) ∧
        after.find? .deployment unreportedKey = some stored ∧ stored.status ≠ none) ∧
      ∃ status error after,
        (inserted.setStatus .deployment unreportedKey status).replace .deployment unreportedKey
            unreported = (.error error, after) ∧
          after.version ≠ (inserted.setStatus .deployment unreportedKey status).version ∧
          after.log ≠ (inserted.setStatus .deployment unreportedKey status).log := by
  refine ⟨⟨_, _, _, rfl, rfl, ?_⟩, str "broken", .unfit, _, rfl, ?_, ?_⟩
  all_goals decide

end Store

/-! ## Statuses that are patched by passes -/

namespace AuditConfigStatus

/-- The patches that passes send hold no objects, so that they are merged as the standard has it. -/
theorem patchedStatus_toJson (status : AuditConfigStatus) (current : Option Json) :
    Store.patchedStatus current status.toJson =
      standardPatch (current.getD .null) status.toJson := by
  have flat : ∀ entry ∈ [("conditions", arr (status.conditions.map Condition.toJson)),
      ("pods", ofStrings status.pods)], entry.2.asMembers? = none := by
    simp [asMembers?, ofStrings]
  have merged : ∀ members, mergePatch (obj members) status.toJson =
      standardPatch (obj members) status.toJson := by
    intro members
    rw [toJson_eq, merges_mergePatch.objects, merges_standardPatch.objects,
      merges_mergePatch.foldl_change_eq merges_standardPatch flat]
  cases current with
  | none => exact merged []
  | some json =>
      cases json with
      | obj members => exact merged members
      | _ => exact merged []

end AuditConfigStatus

end ClusterAudit
