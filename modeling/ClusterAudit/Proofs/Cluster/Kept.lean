import ClusterAudit.Proofs.Cluster.Versions
import ClusterAudit.Proofs.Schema

/-!
Facts that hold of every stored object, whatever has happened to the cluster. It is enough that such
a fact holds of each object that is written, and of an object whose status others have changed.
-/

namespace ClusterAudit

namespace Store

variable {store before after : Store} {kind : Kind} {key : Key}
  {fact : (kind : Kind) → Key → Stored kind → Prop}

/-- The fact holds of every object that is stored under a new version, and does not depend on
statuses. -/
structure IsKept (fact : (kind : Kind) → Key → Stored kind → Prop) : Prop where
  stored : ∀ kind key version (object : Object kind),
    fact kind key (stampedAt key version (.ofObject object))
  succeeds : ∀ kind key version (current : Stored kind) object,
    fact kind key (stampedAt key version (succeed current object))
  reported : ∀ kind key (current : Stored kind) status,
    fact kind key current → fact kind key { current with status := some status }

/-- The fact holds of all stored objects. -/
def HoldsOfAll (store : Store) (fact : (kind : Kind) → Key → Stored kind → Prop) : Prop :=
  ∀ kind key stored, store.find? kind key = some stored → fact kind key stored

theorem HoldsOfAll.alters {change : Option (Stored kind)} (holds : before.HoldsOfAll fact)
    (alters : Alters before after kind key change)
    (here : ∀ stored, change = some stored → fact kind key stored) : after.HoldsOfAll fact := by
  intro other place stored found
  by_cases same : other = kind ∧ place = key
  · obtain ⟨rfl, rfl⟩ := same
    exact here stored (alters.here.symm.trans found)
  · rw [alters.elsewhere other place same] at found
    exact holds other place stored found

theorem HoldsOfAll.alters_some {written : Stored kind} (holds : before.HoldsOfAll fact)
    (alters : Alters before after kind key (some written)) (here : fact kind key written) :
    after.HoldsOfAll fact := by
  apply holds.alters alters
  intro stored isWritten
  cases isWritten
  exact here

theorem HoldsOfAll.refuses {request : Call} (holds : store.HoldsOfAll fact)
    (refused : store.Refuses request) : (store.answer request).2.HoldsOfAll fact := by
  rw [refused.1]
  exact holds

variable (isKept : IsKept fact)

include isKept

theorem HoldsOfAll.answer (holds : store.HoldsOfAll fact) (request : Call) :
    (store.answer request).2.HoldsOfAll fact := by
  cases request with
  | get kind key => exact holds
  | list kind namespaceName selector => exact holds
  | create kind namespaceName object =>
      rcases store.create_cases kind namespaceName object with refused | ⟨_, _, enacts⟩
      · exact holds.refuses refused
      · exact holds.alters_some enacts.toAlters (isKept.stored _ _ _ _)
  | replace kind key object =>
      rcases store.replace_cases kind key object with refused | ⟨_, _, enacts⟩
      · exact holds.refuses refused
      · exact holds.alters_some enacts.toAlters (isKept.succeeds _ _ _ _ _)
  | delete kind key =>
      rcases store.delete_cases kind key with refused | enacts
      · exact holds.refuses refused
      · apply holds.alters enacts.toAlters
        intro stored isErased
        cases isErased
  | patchStatus kind key patch =>
      rcases store.patchStatus_cases kind key patch with refused | ⟨current, found, enacts⟩
      · exact holds.refuses refused
      · exact holds.alters_some enacts.toAlters
          (isKept.reported _ _ _ _ (holds kind key current found))

theorem HoldsOfAll.putStamped (holds : store.HoldsOfAll fact) (kind : Kind) (key : Key)
    (object : Object kind) : (store.putStamped kind key (.ofObject object)).HoldsOfAll fact := by
  have recorded := holds.alters_some (alters_putStamped store kind key (.ofObject object) .create)
    (isKept.stored kind key _ object)
  exact recorded

theorem HoldsOfAll.setStatus (holds : store.HoldsOfAll fact) (kind : Kind) (key : Key)
    (status : Json) : (store.setStatus kind key status).HoldsOfAll fact := by
  rw [Store.setStatus]
  cases found : store.find? kind key with
  | none => exact holds
  | some current =>
      exact holds.alters_some (alters_put store kind key _)
        (isKept.reported _ _ _ _ (holds kind key current found))

theorem HoldsOfAll.write (holds : before.HoldsOfAll fact) (write : Write before after) :
    after.HoldsOfAll fact := by
  cases write with
  | call request => exact holds.answer isKept request
  | insert kind namespaceName object => exact holds.putStamped isKept kind _ object
  | edit kind key object present => exact holds.putStamped isKept kind key object
  | setStatus kind key status => exact holds.setStatus isKept kind key status
  | maintain _ tables version =>
      intro kind key stored found
      rw [find?, tables] at found
      exact holds kind key stored found

theorem IsReachable.holdsOfAll (reachable : store.IsReachable) : store.HoldsOfAll fact := by
  induction reachable with
  | refl =>
      intro kind key stored found
      rw [find?_empty] at found
      cases found
  | tail _ write inductionHypothesis => exact inductionHypothesis.write isKept write

end Store

/-! ## Whole seconds -/

theorem Metadata.inSeconds_inSeconds (metadata : Metadata) :
    metadata.inSeconds.inSeconds = metadata.inSeconds := by
  simp only [inSeconds, Option.map_map, Function.comp_def, Instant.inSeconds_inSeconds,
    Schema.metadata, Schema.membersInSeconds_membersInSeconds]

theorem PodSpec.inSeconds_inSeconds (spec : PodSpec) :
    spec.inSeconds.inSeconds = spec.inSeconds := by
  simp only [inSeconds, Option.map_map, Function.comp_def, List.map_map,
    Volume.inSeconds_inSeconds]

theorem PodTemplate.inSeconds_inSeconds (template : PodTemplate) :
    template.inSeconds.inSeconds = template.inSeconds := by
  simp [inSeconds, Function.comp_def, Metadata.inSeconds_inSeconds, PodSpec.inSeconds_inSeconds]

theorem DeploymentSpec.inSeconds_inSeconds (spec : DeploymentSpec) :
    spec.inSeconds.inSeconds = spec.inSeconds := by
  simp only [inSeconds, PodTemplate.inSeconds_inSeconds]

theorem JobSpec.inSeconds_inSeconds (spec : JobSpec) :
    spec.inSeconds.inSeconds = spec.inSeconds := by
  simp only [inSeconds, PodTemplate.inSeconds_inSeconds]

theorem CronJobSpec.inSeconds_inSeconds (spec : CronJobSpec) :
    spec.inSeconds.inSeconds = spec.inSeconds := by
  simp [inSeconds, JobTemplate.inSeconds, Function.comp_def, Metadata.inSeconds_inSeconds,
    JobSpec.inSeconds_inSeconds]

namespace Kind

/-- Content that has been cut to whole seconds stays as it is. -/
theorem contentInSeconds_contentInSeconds (kind : Kind) (content : kind.Content) :
    kind.contentInSeconds (kind.contentInSeconds content) = kind.contentInSeconds content := by
  cases kind with
  | cronJob | deployment | node | pod =>
      simp only [contentInSeconds, Option.map_map, Function.comp_def,
        CronJobSpec.inSeconds_inSeconds, DeploymentSpec.inSeconds_inSeconds,
        Schema.inSeconds_inSeconds]
  | _ => rfl

end Kind

namespace Store

variable {store : Store} {kind : Kind} {key : Key} {stored : Stored kind}

/-- The content of an object has its instants in whole seconds. -/
def IsInSeconds (kind : Kind) (_ : Key) (stored : Stored kind) : Prop :=
  kind.contentInSeconds stored.content = stored.content

theorem isKept_isInSeconds : IsKept IsInSeconds where
  stored _ _ _ object := Kind.contentInSeconds_contentInSeconds _ object.content
  succeeds _ _ _ _ object := Kind.contentInSeconds_contentInSeconds _ object.content
  reported _ _ _ _ whole := whole

theorem IsReachable.isInSeconds (reachable : store.IsReachable)
    (found : store.find? kind key = some stored) : IsInSeconds kind key stored :=
  reachable.holdsOfAll isKept_isInSeconds kind key stored found

end Store

end ClusterAudit
