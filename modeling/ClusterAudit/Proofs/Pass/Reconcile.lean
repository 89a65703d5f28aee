import ClusterAudit.Proofs.Pass.Features

/-!
Whole passes that are done. A pass over a configuration that stays is done exactly when every
feature is as the configuration asks; it has then written its report and changed nothing else.
-/

namespace ClusterAudit

namespace Store

variable {before after store : Store} {key : Key}

def policy (store : Store) (policyName : String) : OperatorPolicy :=
  ((store.stored? .operatorConfig (Key.ofCluster policyName)).map Object.content).getD {}

theorem policy_congr {policyName : String}
    (same : after.find? .operatorConfig (Key.ofCluster policyName) =
      before.find? .operatorConfig (Key.ofCluster policyName)) :
    after.policy policyName = before.policy policyName := by
  rw [policy, policy, stored?_congr same]

def drawn (store : Store) : Store :=
  store.freshIdentifier.2

/-- What a pass over a configuration works with. -/
def context (store : Store) (policyName : String) (config : AuditConfig) (owner : Owner)
    (now : Instant) : PassContext where
  config
  owner
  policy := store.policy policyName
  now
  token := store.freshIdentifier.1

/-! ## Written reports -/

/-- The two stores hold the same, but for the status of the configuration at a place. -/
structure DiffersInStatus (before after : Store) (key : Key) : Prop where
  elsewhere : ∀ kind place, ¬ (kind = .auditConfig ∧ place = key) →
    after.find? kind place = before.find? kind place
  here : ∀ stored, before.find? .auditConfig key = some stored →
    ∃ status, after.find? .auditConfig key = some { stored with status }
  faults : after.faults = before.faults

namespace DiffersInStatus

theorem refl : DiffersInStatus store store key where
  elsewhere _ _ _ := rfl
  here stored found := ⟨stored.status, found⟩
  faults := rfl

theorem ofAlters {stored : Stored .auditConfig} {status : Option Json}
    (found : before.find? .auditConfig key = some stored)
    (alters : Alters before after .auditConfig key (some { stored with status })) :
    DiffersInStatus before after key where
  elsewhere := alters.elsewhere
  here := by
    intro other otherFound
    have same : some other = some stored := otherFound.symm.trans found
    cases same
    exact ⟨status, alters.here⟩
  faults := alters.faults

theorem otherKind (differs : DiffersInStatus before after key) {kind : Kind}
    (different : kind ≠ .auditConfig) (place : Key) :
    after.find? kind place = before.find? kind place :=
  differs.elsewhere kind place fun same => different same.1

/-- A report does not touch the finalizers, be it of the configuration that it is about or of
another one. -/
theorem isGuarded (differs : DiffersInStatus before after key) {home : Key}
    {stored : Stored .auditConfig} (found : before.find? .auditConfig home = some stored) :
    Pass.Admission.isGuarded after home = Pass.Admission.isGuarded before home := by
  rw [Pass.Admission.isGuarded, Pass.Admission.isGuarded]
  by_cases same : home = key
  · rw [same] at found ⊢
    obtain ⟨status, written⟩ := differs.here stored found
    rw [written, found]
    rfl
  · rw [differs.elsewhere .auditConfig home fun here => same here.2]

end DiffersInStatus

end Store

namespace Pass

open Store

variable {images : ImageSource} {store after : Store} {context : PassContext}
  {updates : List ConditionUpdate} {policyName : String} {config : AuditConfig} {owner : Owner}
  {now : Instant}

/-- The status that a pass found is what it leaves, or it has written the new one. -/
def Publishes (context : PassContext) (next : AuditConfigStatus) (before after : Store) : Prop :=
  (next = context.config.status.getD {} ∧ after = before) ∨
    (next ≠ context.config.status.getD {} ∧
      before.patchStatus .auditConfig context.owner.configKey next.toJson = (.ok (), after))

theorem Publishes.differsInStatus {next : AuditConfigStatus}
    (publishes : Publishes context next store after) :
    DiffersInStatus store after context.owner.configKey := by
  rcases publishes with ⟨_, rfl⟩ | ⟨_, written⟩
  · exact DiffersInStatus.refl
  · rcases store.patchStatus_cases .auditConfig context.owner.configKey next.toJson with
      refused | ⟨stored, found, enacts⟩
    · exact absurd written refused.not_ok
    · rw [written] at enacts
      exact DiffersInStatus.ofAlters found enacts.toAlters

section

variable (quiet : store.faults = [])

include quiet

theorem runOn_operatorPolicy :
    (operatorPolicy policyName).runOn images store = (.done (store.policy policyName), store) := by
  rw [operatorPolicy]
  cases place : store.find? .operatorConfig (Key.ofCluster policyName) with
  | none =>
      have looked : (get .operatorConfig (Key.ofCluster policyName)).runOn images store =
          (.done none, store) :=
        (runOn_get_eq_done_iff quiet).mpr ⟨place, rfl⟩
      rw [runOn_bind_of_done looked, Store.policy, stored?, place]
      rfl
  | some stored =>
      have present : store.stored? .operatorConfig (Key.ofCluster policyName) =
          some { metadata := stored.metadata, content := stored.content, status := none } := by
        rw [stored?, place]
        rfl
      have looked : (get .operatorConfig (Key.ofCluster policyName)).runOn images store =
          (.done (some _), store) :=
        (runOn_get_eq_done_iff quiet).mpr ⟨present, rfl⟩
      rw [runOn_bind_of_done looked, Store.policy, present]
      rfl

/-- A pass over a configuration that is not there has nothing to do. -/
theorem reconcile_of_absent {key : Key} (absent : store.find? .auditConfig key = none) :
    store.reconcile images policyName key now = (.done .done, store.drawn) := by
  have quietDrawn : store.drawn.faults = [] := quiet
  have looked : (get .auditConfig key).runOn images store.drawn = (.done none, store.drawn) :=
    (runOn_get_eq_done_iff quietDrawn).mpr ⟨absent, rfl⟩
  change (reconcile policyName key now _).runOn images store.drawn = _
  rw [reconcile, runOn_bind_of_done looked]
  rfl

/-- A pass over a configuration that is being deleted lets it go. -/
theorem reconcile_of_deleted {key : Key} (current : store.stored? .auditConfig key = some config)
    (deleted : config.metadata.deletionTimestamp.isSome = true) :
    store.reconcile images policyName key now =
      (Admission.finalize config >>= fun _ => (pure .done : Pass Progress)).runOn images
        store.drawn := by
  have quietDrawn : store.drawn.faults = [] := quiet
  have looked : (get .auditConfig key).runOn images store.drawn =
      (.done (some config), store.drawn) :=
    (runOn_get_eq_done_iff quietDrawn).mpr ⟨current, rfl⟩
  change (reconcile policyName key now _).runOn images store.drawn = _
  rw [reconcile, runOn_bind_of_done looked]
  simp only [deleted, if_true]

/-- A pass over a configuration that stays runs its features under the owner that it makes. -/
theorem reconcile_of_stays {key : Key} (current : store.stored? .auditConfig key = some config)
    (stays : config.metadata.deletionTimestamp = none) :
    store.reconcile images policyName key now =
      (configured (Owner.of config) >>= fun owner => do
        let (progress, updates) ←
          runFeatures (store.context policyName config owner now) Feature.all
        persistStatus (store.context policyName config owner now) updates
        return progress : Pass Progress).runOn images store.drawn := by
  have quietDrawn : store.drawn.faults = [] := quiet
  have looked : (get .auditConfig key).runOn images store.drawn =
      (.done (some config), store.drawn) :=
    (runOn_get_eq_done_iff quietDrawn).mpr ⟨current, rfl⟩
  have ofPolicy : (operatorPolicy policyName).runOn images store.drawn =
      (.done (store.policy policyName), store.drawn) :=
    runOn_operatorPolicy quietDrawn
  change (reconcile policyName key now _).runOn images store.drawn = _
  rw [reconcile, runOn_bind_of_done looked]
  simp only [stays, Option.isSome_none, Bool.false_eq_true, if_false]
  rw [reconcileFeatures, runOn_bind_of_done ofPolicy]
  rfl

theorem runOn_persistStatus_eq_done_iff :
    (persistStatus context updates).runOn images store = (.done (), after) ↔
      ∃ pods, store.Lists .pod context.owner.namespaceName (context.owner.selector .workloads)
          pods ∧
        Publishes context (nextStatus context updates pods) store after := by
  simp only [persistStatus, runOn_bind_eq_done_iff]
  constructor
  · intro finished
    obtain ⟨pods, middle, looked, finished⟩ := finished
    obtain ⟨lists, rfl⟩ := (runOn_list_eq_done_iff quiet).mp looked
    refine ⟨pods, lists, ?_⟩
    by_cases kept : nextStatus context updates pods = context.config.status.getD {}
    · rw [if_pos kept] at finished
      cases finished
      exact Or.inl ⟨kept, rfl⟩
    · rw [if_neg kept] at finished
      exact Or.inr ⟨kept, runOn_ask_eq_done_iff.mp finished⟩
  · intro published
    obtain ⟨pods, lists, publishes⟩ := published
    refine ⟨pods, store, (runOn_list_eq_done_iff quiet).mpr ⟨lists, rfl⟩, ?_⟩
    rcases publishes with kept | written
    · obtain ⟨kept, rfl⟩ := kept
      rw [if_pos kept]
      rfl
    · obtain ⟨different, patched⟩ := written
      rw [if_neg different]
      exact runOn_ask_eq_done_iff.mpr patched

/-- A pass over a configuration that stays is done exactly when all features are as it asks. -/
theorem reconcile_eq_done_iff {key : Key}
    (current : store.stored? .auditConfig key = some config)
    (stays : config.metadata.deletionTimestamp = none) (owned : Owner.of config = .ok owner) :
    store.reconcile images policyName key now = (.done .done, after) ↔
      ∃ updates pods,
        (store.context policyName config owner now).AllSettled images store.drawn Feature.all
          updates ∧
        store.drawn.Lists .pod owner.namespaceName (owner.selector .workloads) pods ∧
        Publishes (store.context policyName config owner now)
          (nextStatus (store.context policyName config owner now) updates pods)
          store.drawn after := by
  have quietDrawn : store.drawn.faults = [] := quiet
  have identified : (configured (Owner.of config)).runOn images store.drawn =
      (.done owner, store.drawn) :=
    runOn_configured_eq_done_iff.mpr ⟨owned, rfl⟩
  rw [reconcile_of_stays quiet current stays, runOn_bind_of_done identified]
  simp only [runOn_bind_eq_done_iff]
  constructor
  · intro finished
    obtain ⟨⟨progress, updates⟩, middle, ended, _, last, persisted, finished⟩ := finished
    cases finished
    obtain ⟨settled, rfl⟩ := (runOn_runFeatures_eq_done_iff quietDrawn).mp ended
    obtain ⟨pods, lists, publishes⟩ := (runOn_persistStatus_eq_done_iff quietDrawn).mp persisted
    exact ⟨updates, pods, settled, lists, publishes⟩
  · intro settled
    obtain ⟨updates, pods, settled, lists, publishes⟩ := settled
    exact ⟨(.done, updates), store.drawn,
      (runOn_runFeatures_eq_done_iff quietDrawn).mpr ⟨settled, rfl⟩, (), after,
      (runOn_persistStatus_eq_done_iff quietDrawn).mpr ⟨pods, lists, publishes⟩, rfl⟩

end

end Pass

end ClusterAudit
