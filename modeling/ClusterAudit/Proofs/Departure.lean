import ClusterAudit.Proofs.Cluster.Kept
import ClusterAudit.Proofs.Interleaving
import ClusterAudit.Proofs.Pass.Frugal
import ClusterAudit.Proofs.Pass.Reconcile
import ClusterAudit.Proofs.Writers

/-!
Passes over a configuration that is being deleted. Whatever the configuration says and whichever
calls fail, such a pass removes the registration of the webhook, takes the finalizer away after
that, and touches nothing else.
-/

namespace ClusterAudit

open Pass.Admission (finalizer finalizers hasFinalizer)

/-! ## Namespaces of stored objects -/

namespace Store

variable {store before after : Store} {kind : Kind} {key : Key}

/-- An object of a kind that has namespaces says in which one it is. -/
def IsPlaced (kind : Kind) (key : Key) (stored : Stored kind) : Prop :=
  kind.isNamespaced = true → stored.metadata.namespaceName = some key.namespaceName

theorem isPlaced_stampedAt (kind : Kind) (key : Key) (version : Nat) (stored : Stored kind) :
    IsPlaced kind key (stampedAt key version stored) := by
  intro namespaced
  simp only [stampedAt, stamp, namespaced, if_true]

theorem isKept_isPlaced : IsKept IsPlaced where
  stored kind key version _ := isPlaced_stampedAt kind key version _
  succeeds kind key version _ _ := isPlaced_stampedAt kind key version _
  reported _ _ _ _ placed := placed

/-! ## What a pass leaves -/

/-- The registration of a configuration, which goes by the name that the configuration shows. -/
def registrationOf (key : Key) (stored : Stored .auditConfig) : Key :=
  Key.registration { key with name := stored.metadata.displayName }

/-- What a pass over a configuration that is being deleted may change, in this order. -/
def departure (key : Key) (stored : Stored .auditConfig) : List LogEntry :=
  [{ verb := .delete, kind := .webhookConfiguration, key := registrationOf key stored },
    { verb := .replace, kind := .auditConfig, key }]

/-- How a pass ends that meets a configuration which is being deleted, and what it leaves. Nothing
happens without the finalizer. With it the pass is done once the registration is gone and the
finalizer taken away, and fails if the registration cannot be removed. -/
structure LetsGo (before : Store) (key : Key) (stored : Stored .auditConfig) {Result : Type}
    (ending : Ending Result) (after : Store) : Prop where
  logs : ∃ entries, Logs before after entries ∧ entries.Sublist (departure key stored)
  unguarded : finalizer ∉ stored.metadata.finalizers.getD [] → Logs before after []
  released : finalizer ∈ stored.metadata.finalizers.getD [] →
    ∀ result, ending = .done result →
      after.find? .webhookConfiguration (registrationOf key stored) = none ∧
      ∃ written, after.find? .auditConfig key = some written ∧
        written.metadata.finalizers =
          some ((stored.metadata.finalizers.getD []).filter (· != finalizer)) ∧
        written.content = stored.content ∧ written.status = stored.status
  held : finalizer ∈ stored.metadata.finalizers.getD [] →
    ∀ error, (before.delete .webhookConfiguration (registrationOf key stored)).1 = .error error →
      error.isNotFound = false → Logs before after [] ∧ ∃ cause, ending = .failed cause

/-- A registration is gone after a call that deletes it, and after one that says truthfully that
there is none. -/
theorem IsHonest.find?_delete (honest : store.IsHonest) {place : Key}
    (settled : ∀ error, (store.delete .webhookConfiguration place).1 = .error error →
      error.isNotFound = true) :
    (store.delete .webhookConfiguration place).2.find? .webhookConfiguration place = none := by
  cases faulty : store.fault? .delete .webhookConfiguration with
  | some error =>
      have failed : (store.delete .webhookConfiguration place).1 = .error error := by
        simp only [delete, faulty]
      have notFound := settled error failed
      rw [honest error faulty] at notFound
      cases notFound
  | none =>
      cases found : store.find? .webhookConfiguration place with
      | none =>
          simp only [delete, faulty, found]
      | some current =>
          simp only [delete, faulty, found]
          exact find?_erase_self

theorem exists_logs_delete (store : Store) (kind : Kind) (place : Key) :
    ∃ entries, Logs store (store.delete kind place).2 entries ∧
      entries.Sublist [{ verb := .delete, kind, key := place }] := by
  rcases store.delete_cases kind place with refused | enacts
  · refine ⟨[], ?_, List.nil_sublist _⟩
    have same : (store.delete kind place).2 = store := refused.1
    rw [same]
    exact .refl
  · exact ⟨_, enacts.logs, List.Sublist.refl _⟩

theorem logs_drawn (store : Store) : Logs store store.drawn [] where
  log := (List.append_nil _).symm
  elsewhere _ _ _ := rfl
  faults := rfl

theorem delete_drawn (store : Store) (kind : Kind) (place : Key) :
    (store.drawn.delete kind place).1 = (store.delete kind place).1 := by
  have sameFaults : store.drawn.fault? .delete kind = store.fault? .delete kind := rfl
  have samePlace : store.drawn.find? kind place = store.find? kind place := rfl
  rw [delete, delete, sameFaults, samePlace]
  cases store.fault? .delete kind with
  | some error => rfl
  | none => cases store.find? kind place <;> rfl

/-- A token that was drawn before changes nothing of this. -/
theorem LetsGo.of_drawn {stored : Stored .auditConfig} {Result : Type} {ending : Ending Result}
    (letsGo : store.drawn.LetsGo key stored ending after) :
    store.LetsGo key stored ending after := by
  obtain ⟨⟨entries, logs, atMost⟩, unguarded, released, held⟩ := letsGo
  refine {
    logs := ⟨entries, store.logs_drawn.trans logs, atMost⟩
    unguarded := fun isFree => store.logs_drawn.trans (unguarded isFree)
    released
    held := ?_ }
  intro guarded error refused known
  obtain ⟨kept, failed⟩ := held guarded error ((store.delete_drawn _ _).trans refused) known
  exact ⟨store.logs_drawn.trans kept, failed⟩

end Store

namespace Pass

open Store

variable {images : ImageSource} {store : Store} {key : Key} {stored : Stored .auditConfig}
  {config : AuditConfig}

/-! ## Single calls -/

/-- A deletion fails and changes nothing, or nothing is wrong with it but that there was nothing to
delete. -/
theorem runOn_deleteIfPresent_cases (images : ImageSource) (store : Store) (kind : Kind)
    (place : Key) :
    (∃ error, (store.delete kind place).1 = .error error ∧
      (deleteIfPresent kind place).runOn images store = (.failed (.cluster error), store)) ∨
    (∀ error, (store.delete kind place).1 = .error error → error.isNotFound = true) ∧
      ∃ deleted, (deleteIfPresent kind place).runOn images store =
        (.done deleted, (store.delete kind place).2) := by
  rw [deleteIfPresent, runOn_bind_of_done (runOn_attempt _)]
  simp only [answer]
  cases deleted : store.delete kind place with
  | mk reply after =>
      cases reply with
      | ok _ =>
          refine Or.inr ⟨?_, true, rfl⟩
          intro error failed
          cases failed
      | error error =>
          cases notFound : error.isNotFound with
          | false =>
              left
              rw [eq_of_delete_eq_error deleted]
              exact ⟨error, rfl, by simp only [notFound, Bool.false_eq_true, if_false, runOn]⟩
          | true =>
              right
              refine ⟨?_, false, ?_⟩
              · intro other same
                cases same
                exact notFound
              · simp only [notFound, if_true]
                rfl

/-! ## The finalizer -/

/-- A pass that fails before it has changed anything. -/
theorem letsGo_of_failed {Result : Type} (store : Store) (key : Key) (stored : Stored .auditConfig)
    (cause : ReconcileError) : store.LetsGo key stored (.failed cause : Ending Result) store where
  logs := ⟨[], .refl, List.nil_sublist _⟩
  unguarded _ := .refl
  released _ := nofun
  held _ _ _ _ := ⟨.refl, cause, rfl⟩

section

variable (versioned : store.IsVersioned) (placed : store.HoldsOfAll IsPlaced)
  (found : store.find? .auditConfig key = some stored) (reads : stored.read? = some config)

include versioned placed found reads

/-- The finalizer is taken away from the configuration that was read, or the pass fails and nothing
has changed. A configuration that goes by another name than its place keeps it. -/
theorem runOn_removeFinalizer_cases (images : ImageSource) :
    (∃ cause, (Admission.removeFinalizer config).runOn images store = (.failed cause, store)) ∨
    ∃ written,
      Enacts store ((Admission.removeFinalizer config).runOn images store).2 .replace .auditConfig
        key (some written) ∧
      written.metadata.finalizers = some ((finalizers config).filter (· != finalizer)) ∧
      written.content = stored.content ∧ written.status = stored.status := by
  have sameMetadata := Stored.metadata_of_read? reads
  have inNamespace : Admission.namespaceOf config = .ok key.namespaceName := by
    rw [Admission.namespaceOf, sameMetadata, placed .auditConfig key stored found rfl]
  have present : store.stored? .auditConfig key = some config := by
    rw [stored?, found, Option.bind_some, reads]
  let object := Admission.withFinalizers config ((finalizers config).filter (· != finalizer))
  let place : Key := { key with name := config.displayName }
  have ran : (Admission.removeFinalizer config).runOn images store =
      resume images (fun _ => pure ())
        ((ask (.replace .auditConfig place object)).runOn images store) := by
    rw [Admission.removeFinalizer,
      runOn_bind_of_done (runOn_configured_eq_done_iff.mpr ⟨inNamespace, rfl⟩), runOn_bind]
    rfl
  have isMadeFrom : object.IsMadeFrom config := { version := rfl, status := rfl }
  have orRefused : store.Refuses (.replace .auditConfig place object) ∨
      place = key ∧ ∃ current, store.find? .auditConfig key = some current ∧
        Enacts store (store.replace .auditConfig key object).2 .replace .auditConfig key
          (some (stampedAt key (store.version + 1) (succeed current object))) := by
    by_cases here : place = key
    · rw [here]
      exact (store.replace_cases .auditConfig key object).imp id fun enacted => ⟨rfl, enacted⟩
    · exact Or.inl (versioned.refuses_of_elsewhere present isMadeFrom here)
  rcases orRefused with refused | ⟨here, current, there, enacts⟩
  · left
    obtain ⟨error, failed⟩ := runOn_ask_of_refuses images refused
    rw [ran, failed]
    exact ⟨_, rfl⟩
  · right
    cases there.symm.trans found
    rw [ran, resume_pure_snd, runOn_ask_snd, here]
    refine ⟨_, enacts, rfl, ?_, ?_⟩
    · change config.content = stored.content
      exact Stored.content_of_read? reads
    · exact (remembers_of_stored? versioned present).status_succeed isMadeFrom found
        (congrArg Metadata.resourceVersion sameMetadata.symm)

/-- Once the registration is gone, what is left to do takes the finalizer away or fails. -/
theorem letsGo_of_unregistered {before : Store} {entries : List LogEntry}
    (logs : Logs before store entries)
    (atMost : entries.Sublist
      [{ verb := .delete, kind := .webhookConfiguration, key := registrationOf key stored }])
    (settled : ∀ error,
      (before.delete .webhookConfiguration (registrationOf key stored)).1 = .error error →
        error.isNotFound = true)
    (absent : store.find? .webhookConfiguration (registrationOf key stored) = none)
    (guarded : finalizer ∈ stored.metadata.finalizers.getD []) (images : ImageSource) :
    before.LetsGo key stored ((Admission.removeFinalizer config).runOn images store).1
      ((Admission.removeFinalizer config).runOn images store).2 := by
  have sameFinalizers : finalizers config = stored.metadata.finalizers.getD [] := by
    rw [finalizers, Stored.metadata_of_read? reads]
  rcases runOn_removeFinalizer_cases versioned placed found reads images with
    ⟨cause, failed⟩ | ⟨written, enacts, cleared, sameContent, sameStatus⟩
  · rw [failed]
    exact {
      logs := ⟨entries, logs, atMost.trans (List.sublist_append_left _ _)⟩
      unguarded := fun isFree => absurd guarded isFree
      released := fun _ => nofun
      held := fun _ error refused known => by
        rw [settled error refused] at known
        cases known }
  · exact {
      logs := ⟨entries ++ [_], logs.trans enacts.logs, atMost.append (List.Sublist.refl _)⟩
      unguarded := fun isFree => absurd guarded isFree
      released := fun _ _ _ => by
        refine ⟨?_, written, enacts.here, ?_, sameContent, sameStatus⟩
        · rw [enacts.otherKind (by decide), absent]
        · rw [cleared, sameFinalizers]
      held := fun _ error refused known => by
        rw [settled error refused] at known
        cases known }

theorem letsGo_finalize (honest : store.IsHonest) (images : ImageSource) :
    store.LetsGo key stored ((Admission.finalize config).runOn images store).1
      ((Admission.finalize config).runOn images store).2 := by
  have sameMetadata := Stored.metadata_of_read? reads
  have sameFinalizers : finalizers config = stored.metadata.finalizers.getD [] := by
    rw [finalizers, sameMetadata]
  have inNamespace : Admission.namespaceOf config = .ok key.namespaceName := by
    rw [Admission.namespaceOf, sameMetadata, placed .auditConfig key stored found rfl]
  have sameRegistration : Key.ofCluster (Naming.webhookConfiguration key.namespaceName
      config.displayName) = registrationOf key stored := by
    rw [Object.displayName, sameMetadata]
    rfl
  by_cases guarded : finalizer ∈ stored.metadata.finalizers.getD []
  · have hasIt : hasFinalizer config = true := by
      rw [hasFinalizer, sameFinalizers]
      exact List.contains_iff_mem.mpr guarded
    have ran : (Admission.finalize config).runOn images store =
        resume images (fun _ => Admission.removeFinalizer config)
          ((deleteIfPresent .webhookConfiguration (registrationOf key stored)).runOn images
            store) := by
      rw [Admission.finalize, if_pos hasIt,
        runOn_bind_of_done (runOn_configured_eq_done_iff.mpr ⟨inNamespace, rfl⟩), sameRegistration,
        runOn_bind]
    rcases runOn_deleteIfPresent_cases images store .webhookConfiguration
      (registrationOf key stored) with ⟨error, _, failed⟩ | ⟨settled, deleted, removed⟩
    · rw [ran, failed]
      exact letsGo_of_failed store key stored _
    · obtain ⟨entries, logs, atMost⟩ :=
        store.exists_logs_delete .webhookConfiguration (registrationOf key stored)
      obtain ⟨_, _, evolves⟩ :=
        store.exists_evolves_answer (.delete .webhookConfiguration (registrationOf key stored))
      have stillFound : (store.delete .webhookConfiguration (registrationOf key stored)).2.find?
          .auditConfig key = some stored := by
        rw [logs.elsewhere, found]
        rintro entry member ⟨sameKind, _⟩
        rw [List.mem_singleton.mp (atMost.subset member)] at sameKind
        cases sameKind
      rw [ran, removed]
      exact letsGo_of_unregistered (versioned.evolves evolves)
        (placed.answer isKept_isPlaced _) stillFound reads logs atMost settled
        (honest.find?_delete settled) guarded images
  · have lacksIt : hasFinalizer config = false := by
      rw [hasFinalizer, sameFinalizers]
      simpa using guarded
    have ran : (Admission.finalize config).runOn images store = (.done (), store) := by
      rw [Admission.finalize, if_neg (by simp [lacksIt])]
      rfl
    rw [ran]
    exact {
      logs := ⟨[], .refl, List.nil_sublist _⟩
      unguarded := fun _ => .refl
      released := fun isGuarded => absurd isGuarded guarded
      held := fun isGuarded => absurd isGuarded guarded }

end

/-- How a pass goes on that has let a configuration go. -/
theorem letsGo_resume {before : Store} {ran : Ending Unit × Store}
    (letsGo : before.LetsGo key stored ran.1 ran.2) (images : ImageSource) :
    before.LetsGo key stored
      (resume images (fun _ => (pure .done : Pass Progress)) ran).1
      (resume images (fun _ => (pure .done : Pass Progress)) ran).2 := by
  obtain ⟨ending, after⟩ := ran
  obtain ⟨logs, unguarded, released, held⟩ := letsGo
  cases ending with
  | done result =>
      refine ⟨logs, unguarded, fun guarded _ _ => released guarded () rfl, ?_⟩
      intro guarded error refused known
      obtain ⟨_, cause, failed⟩ := held guarded error refused known
      cases failed
  | failed cause =>
      exact ⟨logs, unguarded, fun _ => nofun,
        fun guarded error refused known => ⟨(held guarded error refused known).1, cause, rfl⟩⟩
  | crashed =>
      refine ⟨logs, unguarded, fun _ => nofun, ?_⟩
      intro guarded error refused known
      obtain ⟨_, cause, failed⟩ := held guarded error refused known
      cases failed

end Pass

/-- Whatever a configuration that is being deleted says and whichever calls fail, a pass over it
removes its registration and then takes its finalizer away at most, and does so if it is done. -/
theorem letsGo_reconcile {store : Store} {key : Key} {stored : Stored .auditConfig}
    (reachable : store.IsReachable) (honest : store.IsHonest)
    (found : store.find? .auditConfig key = some stored)
    (deleted : stored.metadata.deletionTimestamp.isSome = true) (images : ImageSource)
    (policyName : String) (now : Instant) :
    store.LetsGo key stored (store.reconcile images policyName key now).1
      (store.reconcile images policyName key now).2 := by
  have started : store.reconcile images policyName key now =
      (Pass.reconcile policyName key now store.freshIdentifier.1).runOn images store.drawn := rfl
  have reachableDrawn : store.drawn.IsReachable :=
    reachable.tail (.maintain store store.drawn rfl rfl)
  apply Store.LetsGo.of_drawn
  rw [started, Pass.reconcile, Pass.get, Pass.runOn_bind]
  rcases Pass.runOn_ask_cases (.get .auditConfig key) images store.drawn with
    ⟨reply, middle, answered, ran⟩ | ⟨error, middle, answered, ran⟩
  · obtain rfl : store.drawn = middle := congrArg Prod.snd answered
    have looked : store.drawn.get .auditConfig key = .ok reply := congrArg Prod.fst answered
    rw [ran, Pass.resume]
    cases reply with
    | none => cases found.symm.trans (Store.find?_of_get looked)
    | some config =>
        obtain ⟨other, there, reads⟩ :=
          Store.exists_find?_of_stored? (Store.stored?_of_get looked)
        cases found.symm.trans there
        have isDeleted : config.metadata.deletionTimestamp.isSome = true := by
          rw [Stored.metadata_of_read? reads]
          exact deleted
        simp only [isDeleted, if_true]
        rw [Pass.runOn_bind]
        exact Pass.letsGo_resume (Pass.letsGo_finalize reachableDrawn.isVersioned
          (reachableDrawn.holdsOfAll Store.isKept_isPlaced) there reads honest images) images
  · obtain rfl : store.drawn = middle := congrArg Prod.snd answered
    rw [ran]
    exact Pass.letsGo_of_failed store.drawn key stored _

/-- A configuration that is being deleted. Others hold it back too, and the finalizer of the webhook
stands twice. -/
def heldConfig : AuditConfig :=
  Pass.Admission.withFinalizers departingConfig ["first", finalizer, "second", finalizer]

/-- A cluster with this configuration and its registration. -/
def heldStore : Store :=
  (Store.empty.insert .auditConfig "security" heldConfig).insert .webhookConfiguration "" {
    metadata := { name := some departingKey.registration.name }
    content := some [] }

theorem isReachable_heldStore : heldStore.IsReachable :=
  .tail (.single (.insert Store.empty .auditConfig "security" heldConfig)) (.insert _ _ _ _)

/-- A pass over it is done with both, and leaves the finalizers of others. -/
theorem letsGo_heldStore :
    heldStore.IsReachable ∧ heldStore.IsHonest ∧
      (∃ stored, heldStore.find? .auditConfig departingKey = some stored ∧
        stored.metadata.deletionTimestamp.isSome = true ∧
        heldStore.LetsGo departingKey stored
          (heldStore.reconcile (fun _ => .ok "image") "default" departingKey
            { seconds := 0, nanos := 0 }).1
          (heldStore.reconcile (fun _ => .ok "image") "default" departingKey
            { seconds := 0, nanos := 0 }).2) ∧
      (heldStore.reconcile (fun _ => .ok "image") "default" departingKey
        { seconds := 0, nanos := 0 }).1 = .done .done ∧
      (heldStore.reconcile (fun _ => .ok "image") "default" departingKey
        { seconds := 0, nanos := 0 }).2.log = [
          { verb := .delete, kind := .webhookConfiguration, key := departingKey.registration },
          { verb := .replace, kind := .auditConfig, key := departingKey }] := by
  obtain ⟨stored, found, deleted⟩ : ∃ stored,
      heldStore.find? .auditConfig departingKey = some stored ∧
        stored.metadata.deletionTimestamp.isSome = true := ⟨_, rfl, rfl⟩
  have honest : heldStore.IsHonest := by
    intro error faulty
    cases faulty
  refine ⟨isReachable_heldStore, honest, ⟨stored, found, deleted, ?_⟩, by decide +kernel,
    by decide +kernel⟩
  exact letsGo_reconcile isReachable_heldStore honest found deleted (fun _ => .ok "image") "default"
    { seconds := 0, nanos := 0 }

end ClusterAudit
