import ClusterAudit.Proofs.Interleaving
import ClusterAudit.Proofs.Pass.Admission

/-!
The registration of a webhook is never left without the finalizer that sees to its removal, whatever
happens in between the calls of the passes. What a pass has read of the finalizer still holds when
it registers the webhook, and the registration is gone before the finalizer is.
-/

namespace ClusterAudit

open Store
open Pass.Admission (isGuarded finalizer hasFinalizer)

namespace Pass

variable {key : Key} {store : Store} {config : AuditConfig} {context : PassContext}

/-! ## Facts that last -/

/-- The registration of the configuration is gone, if it is the one at a place. -/
def IsCleared (key place : Key) (store : Store) : Prop :=
  place = key → store.isRegistered key = false

/-- The finalizer stands, if a pass has read it. -/
def IsKnown (key : Key) (config : AuditConfig) (store : Store) : Prop :=
  hasFinalizer config = true → isGuarded store key = true

theorem isStable_isCleared (place : Key) : IsStable key (IsCleared key place) := by
  intro before after spares cleared here
  exact spares.registration (cleared here)

theorem isStable_isKnown : IsStable key (IsKnown key config) := by
  intro before after spares known standing
  exact spares.guard (known standing)

/-! ## Kinds that may be changed freely -/

theorem allowsKind_isTame {kind : Kind} (notConfig : kind ≠ .auditConfig)
    (notRegistration : kind ≠ .webhookConfiguration) : AllowsKind Call.IsTame kind where
  get _ := ⟨trivial, trivial⟩
  list _ _ := ⟨trivial, trivial⟩
  create _ _ := ⟨trivial, notRegistration⟩
  replace _ _ := ⟨fun isConfig => absurd isConfig notConfig, trivial⟩
  delete _ := ⟨notConfig, trivial⟩

theorem allowsKind_keepsGuard {kind : Kind} (notConfig : kind ≠ .auditConfig) :
    AllowsKind Call.KeepsGuard kind where
  get _ := trivial
  list _ _ := trivial
  create _ _ := trivial
  replace _ _ := fun isConfig => absurd isConfig notConfig
  delete _ := notConfig

/-! ## The finalizer -/

theorem isTame_addFinalizer : (Admission.addFinalizer config).CallsOnly Call.IsTame := by
  apply callsOnly_bind (callsOnly_configured _)
  intro namespaceName
  apply callsOnly_bind
  · apply callsOnly_ask
    refine ⟨?_, trivial⟩
    intro _
    simp [Admission.withFinalizers, List.contains_eq_mem]
  · intro updated
    trivial

/-- The registration that a pass has deleted is gone. -/
theorem protects_deleteIfPresent (place : Key) :
    (deleteIfPresent .webhookConfiguration place).Protects key
      (fun _ after => after.find? .webhookConfiguration place = none) store := by
  apply protects_bind
  apply protects_attempt
  intro middle spares honest safe
  have tame : Call.IsTame (.delete .webhookConfiguration place) := ⟨nofun, trivial⟩
  refine ⟨(spares_answer tame).isSafe safe, ?_⟩
  simp only [answer, delete]
  cases faulty : middle.fault? .delete .webhookConfiguration with
  | some error =>
      -- Only a registration that is not there is taken for one that was deleted.
      have unclear : error.isNotFound = false := honest error faulty
      simp only [unclear, Bool.false_eq_true, if_false]
      trivial
  | none =>
      cases found : middle.find? .webhookConfiguration place with
      | none => exact found
      | some stored => exact find?_erase_self

/-- The finalizer may be taken away once the registration is gone. -/
theorem protects_removeFinalizer
    (cleared : ∀ namespaceName, config.metadata.namespaceName = some namespaceName →
      IsCleared key { namespaceName, name := config.displayName } store) :
    (Admission.removeFinalizer config).Protects key (fun _ _ => True) store := by
  apply protects_bind
  cases placed : config.metadata.namespaceName with
  | none =>
      rw [Admission.namespaceOf, placed]
      trivial
  | some namespaceName =>
      rw [Admission.namespaceOf, placed]
      have clearedHere := cleared namespaceName placed
      intro middle spares honest safe
      constructor
      · intro registered
        have keeps : Call.KeepsUnregistered (.replace .auditConfig
            { namespaceName, name := config.displayName } (Admission.withFinalizers config
              ((Admission.finalizers config).filter (· != finalizer)))) := trivial
        cases wasRegistered : middle.isRegistered key with
        | false =>
            have unregistered := isRegistered_answer keeps wasRegistered
            cases registered.symm.trans unregistered
        | true =>
            -- The finalizer that goes is another configuration's, since this one's is cleared.
            have elsewhere : key ≠ { namespaceName, name := config.displayName } := by
              intro here
              have unregistered := spares.registration (clearedHere here.symm)
              cases wasRegistered.symm.trans unregistered
            have guarded := safe wasRegistered
            rcases middle.replace_cases .auditConfig
                { namespaceName, name := config.displayName } (Admission.withFinalizers config
                  ((Admission.finalizers config).filter (· != finalizer)))
              with ⟨same, _⟩ | ⟨_, _, alters⟩
            · exact (congrArg (isGuarded · key) same).trans guarded
            · exact alters.isGuarded guarded fun _ here => absurd here.symm elsewhere
      · cases (middle.answer _).1 <;> trivial

/-- A configuration that is being deleted loses its registration before its finalizer. -/
theorem protects_finalize :
    (Admission.finalize config).Protects key (fun _ _ => True) store := by
  cases standing : hasFinalizer config with
  | false =>
      simp only [Admission.finalize, standing, Bool.false_eq_true, if_false]
      trivial
  | true =>
      simp only [Admission.finalize, standing, if_true]
      apply protects_bind
      cases placed : config.metadata.namespaceName with
      | none =>
          rw [Admission.namespaceOf, placed]
          trivial
      | some namespaceName =>
          rw [Admission.namespaceOf, placed]
          apply protects_bind
          apply (protects_deleteIfPresent _).mono
          intro deleted after absent
          apply protects_removeFinalizer
          intro otherName placedOther here
          cases placed.symm.trans placedOther
          subst here
          rw [isRegistered, Key.registration, absent, Option.isSome_none]

/-! ## Features -/

theorem protects_admission_reconcile (known : IsKnown key context.config store) :
    (Admission.reconcile context).Protects key (fun _ => IsKnown key context.config) store := by
  have deployments : AllowsKind Call.KeepsGuard .deployment := allowsKind_keepsGuard nofun
  have services : AllowsKind Call.KeepsGuard .service := allowsKind_keepsGuard nofun
  have registrations : AllowsKind Call.KeepsGuard .webhookConfiguration :=
    allowsKind_keepsGuard nofun
  cases standing : hasFinalizer context.config with
  | false =>
      have tame : (Admission.reconcile context).CallsOnly Call.IsTame := by
        simp only [Admission.reconcile, standing, Bool.not_false, if_true]
        exact callsOnly_bind isTame_addFinalizer fun _ => trivial
      exact protects_of_isTame tame isStable_isKnown known
  | true =>
      have keeps : (Admission.reconcile context).CallsOnly Call.KeepsGuard := by
        simp only [Admission.reconcile, standing, Bool.not_true, Bool.false_eq_true, if_false]
        apply callsOnly_bind (callsOnly_resolve _)
        intro image
        exact callsOnly_admission_converge context services.toAllowsUpkeep
          (callsOnly_ensureCluster (registrations.get _) (registrations.create _ _)
            (registrations.replace _)) (deployments.toAllowsUpkeep.ensuring _ _)
      exact (protects_of_guarded keeps (known standing)).mono fun _ _ guarded _ => guarded

/-- A webhook that is not wanted loses its registration before its finalizer. After that the pass
wants another one to follow. -/
theorem protects_admission_tearDown (owned : Owner.of context.config = .ok context.owner) :
    (Admission.tearDown context).Protects key
      (fun outcome after => outcome.progress = .done → IsKnown key context.config after)
      store := by
  have deployments : AllowsKind Call.IsTame .deployment := allowsKind_isTame nofun nofun
  have services : AllowsKind Call.IsTame .service := allowsKind_isTame nofun nofun
  have stable : IsStable key (IsCleared key context.owner.configKey) := isStable_isCleared _
  apply protects_bind
  apply (protects_deleteIfPresent _).mono
  intro registration first absent
  have cleared : IsCleared key context.owner.configKey first := by
    intro here
    subst here
    rw [isRegistered, Option.isSome_eq_false_iff, Option.isNone_iff_eq_none]
    exact absent
  apply protects_bind
  apply (protects_of_isTame (callsOnly_deleteIfPresent (deployments.delete _)) stable cleared).mono
  intro deployment second cleared
  apply protects_bind
  apply (protects_of_isTame (callsOnly_deleteIfPresent (services.delete _)) stable cleared).mono
  intro service third cleared
  cases standing : hasFinalizer context.config with
  | false =>
      simp only [Bool.false_eq_true, if_false]
      intro _ standingNow
      cases standing.symm.trans standingNow
  | true =>
      simp only [if_true]
      apply protects_bind
      have removes : (Admission.removeFinalizer context.config).Protects key (fun _ _ => True)
          third := by
        apply protects_removeFinalizer
        intro namespaceName placed
        have sameKey : { namespaceName, name := context.config.displayName } =
            context.owner.configKey := Owner.eq_configKey owned rfl placed
        rw [sameKey]
        exact cleared
      apply removes.mono
      -- The pass has read a finalizer that no longer stands, so no other feature may follow.
      intro _ after _ isDone
      simp only [Outcome.ofChange, Bool.or_true, if_true] at isDone
      cases isDone

theorem protects_run (owned : Owner.of context.config = .ok context.owner) (feature : Feature)
    (known : IsKnown key context.config store) :
    (feature.run context).Protects key
      (fun outcome after => outcome.progress = .done → IsKnown key context.config after)
      store := by
  have configMaps : AllowsKind Call.IsTame .configMap := allowsKind_isTame nofun nofun
  have deployments : AllowsKind Call.IsTame .deployment := allowsKind_isTame nofun nofun
  have services : AllowsKind Call.IsTame .service := allowsKind_isTame nofun nofun
  have secrets : AllowsKind Call.IsTame .secret := allowsKind_isTame nofun nofun
  have cronJobs : AllowsKind Call.IsTame .cronJob := allowsKind_isTame nofun nofun
  have nodes : AllowsKind Call.IsTame .node := allowsKind_isTame nofun nofun
  have ofTame : ∀ pass : Pass Outcome, pass.CallsOnly Call.IsTame →
      pass.Protects key
        (fun outcome after => outcome.progress = .done → IsKnown key context.config after)
        store := by
    intro pass tame
    exact (protects_of_isTame tame isStable_isKnown known).mono fun _ _ known _ => known
  rw [Feature.run]
  cases feature with
  | workloads =>
      split
      · exact ofTame _ (callsOnly_workloads_reconcile context configMaps.toAllowsUpkeep
          deployments.toAllowsUpkeep (deployments.delete _))
      · exact ofTame _ (callsOnly_workloads_tearDown context (deployments.delete _)
          (configMaps.delete _))
  | nodes =>
      split
      · exact ofTame _ (callsOnly_nodes_reconcile context configMaps.toAllowsUpkeep
          cronJobs.toAllowsUpkeep nodes.toAllowsUpkeep cronJobs.delete)
      · exact ofTame _ (callsOnly_nodes_tearDown context (cronJobs.list _) cronJobs.delete
          (configMaps.delete _))
  | admission =>
      split
      · exact (protects_admission_reconcile known).mono fun _ _ known _ => known
      · exact protects_admission_tearDown owned
  | scanApi =>
      split
      · exact ofTame _ (callsOnly_scanApi_reconcile context secrets.create
          (fun _ => deployments.toAllowsUpkeep.ensuring _ _) services.toAllowsUpkeep)
      · exact ofTame _ (callsOnly_scanApi_tearDown context (secrets.delete _)
          (deployments.delete _) (services.delete _))

/-! ## Whole passes -/

theorem protects_runFeatures (owned : Owner.of context.config = .ok context.owner)
    (features : List Feature) (known : IsKnown key context.config store) :
    (runFeatures context features).Protects key (fun _ _ => True) store := by
  induction features generalizing store with
  | nil => trivial
  | cons feature rest inductionHypothesis =>
      apply protects_bind
      apply (protects_run owned feature known).mono
      intro outcome after stillKnown
      cases ended : outcome.progress with
      | requeue => trivial
      | done =>
          apply protects_bind
          apply (inductionHypothesis (stillKnown ended)).mono
          intro result last _
          trivial

theorem protects_of_isTame_weakly {Result : Type} {pass : Pass Result}
    (tame : pass.CallsOnly Call.IsTame) : pass.Protects key (fun _ _ => True) store :=
  protects_of_isTame tame (fun _ _ _ _ => trivial) trivial

theorem protects_reconcileFeatures (policyName : String) (now : Instant) (token : String)
    (known : IsKnown key config store) :
    (reconcileFeatures policyName config now token).Protects key (fun _ _ => True) store := by
  apply protects_bind
  have readsPolicy : (operatorPolicy policyName).CallsOnly Call.IsTame :=
    callsOnly_operatorPolicy policyName fun _ => ⟨trivial, trivial⟩
  apply (protects_of_isTame readsPolicy isStable_isKnown known).mono
  intro policy first stillKnown
  apply protects_bind
  cases owned : Owner.of config with
  | error cause => trivial
  | ok owner =>
      apply protects_bind
      apply (protects_runFeatures owned Feature.all stillKnown).mono
      intro result second _
      have persists : (persistStatus { config, owner, policy, now, token } result.2).CallsOnly
          Call.IsTame :=
        callsOnly_persistStatus _ _ (fun _ _ => ⟨trivial, trivial⟩) fun _ _ => ⟨trivial, trivial⟩
      apply protects_bind
      apply (protects_of_isTame_weakly persists).mono
      intro _ last _
      trivial

/-- Whatever happens between its calls, a pass over a configuration keeps the cluster safe. -/
theorem protects_reconcile (policyName : String) (now : Instant) (token : String) (store : Store) :
    (reconcile policyName key now token).Protects key (fun _ _ => True) store := by
  apply protects_bind
  apply protects_ask
  intro middle spares honest safe
  refine ⟨safe, ?_⟩
  intro found answered
  cases found with
  | none => trivial
  | some config =>
      have current : middle.stored? .auditConfig key = some config :=
        stored?_of_get answered
      have known : IsKnown key config middle := by
        intro standing
        rw [Admission.isGuarded_of_stored? current]
        exact standing
      change (ite _ _ _ : Pass Progress).Protects key (fun _ _ => True) middle
      split
      · apply protects_bind
        apply protects_finalize.mono
        intro _ last _
        trivial
      · exact protects_reconcileFeatures policyName now token known

end Pass

/-- In every situation that comes about, the registration of a configuration's webhook is there only
if the configuration is, with its finalizer. -/
theorem isGuarded_of_isRegistered {key : Key} {start reached : Situation}
    (idle : start.running = none) (honest : start.store.IsHonest)
    (unregistered : start.store.isRegistered key = false)
    (steps : Relation.ReflTransGen (Situation.Step key) start reached)
    (registered : reached.store.isRegistered key = true) :
    isGuarded reached.store key = true := by
  have isProtected : start.IsProtected key := by
    refine ⟨honest, ?_, ?_⟩
    · intro registeredAtStart
      cases unregistered.symm.trans registeredAtStart
    · intro pass runs
      cases idle.symm.trans runs
  have reachedProtected := isProtected.steps Pass.protects_reconcile steps
  exact reachedProtected.safe registered

/-! ## A webhook that comes up -/

/-- A configuration that asks for the webhook and for nothing else. -/
def watchedConfig : AuditConfig where
  metadata := { name := some "audit", uid := some "uid-audit" }
  content := { admission := { enable := true } }

def watchedKey : Key where
  namespaceName := "security"
  name := "audit"

def watchedWorld : World where
  store := Store.empty.insert .auditConfig "security" watchedConfig

/-- A cluster with that configuration after four passes: the finalizer, the server, its service and
the registration have come in this order. -/
def webhookWorld : World :=
  (World.reconcileRepeatedly watchedKey { seconds := 0, nanos := 0 } 4 watchedWorld).2

set_option maxRecDepth 10000 in
theorem isGuarded_webhookWorld :
    webhookWorld.store.isRegistered watchedKey = true ∧
      isGuarded webhookWorld.store watchedKey = true := by
  have registered : webhookWorld.store.isRegistered watchedKey = true := by decide +kernel
  have steps : Relation.ReflTransGen (Situation.Step watchedKey) { store := watchedWorld.store }
      { store := webhookWorld.store } :=
    Situation.steps_reconcileRepeatedly watchedWorld _ 4
  have honest : watchedWorld.store.IsHonest := by
    intro error faulty
    cases faulty
  exact ⟨registered, isGuarded_of_isRegistered rfl honest rfl steps registered⟩

end ClusterAudit
