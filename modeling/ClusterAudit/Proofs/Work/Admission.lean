import ClusterAudit.Proofs.Naming
import ClusterAudit.Proofs.Pass.Admission
import ClusterAudit.Proofs.Work.Basic

/-!
The work of the admission webhook: the finalizer, the server, its service and the registration. The
finalizer is the only thing about the configuration that changes.
-/

namespace ClusterAudit

/-- A configuration says what an aim says, and is not being deleted. -/
structure Aim.IsOf (aim : Aim) (config : AuditConfig) : Prop where
  owned : Owner.of config = .ok aim.owner
  content : config.content = aim.spec
  stays : config.metadata.deletionTimestamp = none

/-- The stored configuration says what an aim says. -/
def Aim.IsCurrent (aim : Aim) (store : Store) : Prop :=
  ∃ config, store.stored? .auditConfig aim.owner.configKey = some config ∧ aim.IsOf config

namespace Owner

variable {config other : AuditConfig} {owner : Owner}

theorem namespaceName_of_eq_ok (owned : Owner.of config = .ok owner) :
    config.metadata.namespaceName = some owner.namespaceName := by
  rw [Owner.of] at owned
  cases namespaceName : config.metadata.namespaceName with
  | none =>
      rw [namespaceName] at owned
      cases owned
  | some name =>
      rw [namespaceName] at owned
      cases reference : Owner.referenceTo? config.metadata with
      | none =>
          rw [reference] at owned
          cases owned
      | some found =>
          rw [reference] at owned
          cases owned
          rfl

theorem displayName_of_eq_ok (owned : Owner.of config = .ok owner) :
    config.displayName = owner.name := by
  have placed := namespaceName_of_eq_ok owned
  have sameKey : owner.key config.displayName = owner.configKey := eq_configKey owned rfl placed
  exact congrArg Key.name sameKey

/-- Configurations of the same names and the same identifier have the same owner. -/
theorem of_congr (name : other.metadata.name = config.metadata.name)
    (generateName : other.metadata.generateName = config.metadata.generateName)
    (namespaceName : other.metadata.namespaceName = config.metadata.namespaceName)
    (uid : other.metadata.uid = config.metadata.uid) : Owner.of other = Owner.of config := by
  simp only [Owner.of, Owner.referenceTo?, Object.displayName, Metadata.displayName, name,
    generateName, namespaceName, uid]

end Owner

namespace Pass.Admission

open Store Managed

variable {context : PassContext} {images : ImageSource} {store after : Store} {aim : Aim}
  {config : AuditConfig}

/-! ## Finalizers -/

/-- A configuration that is given other finalizers keeps everything else. -/
theorem exists_runOn_update_withFinalizers (images : ImageSource) (quiet : store.faults = [])
    (current : store.stored? .auditConfig aim.owner.configKey = some config) (isOf : aim.IsOf config)
    (names : List String) :
    ∃ result after stored,
      (update aim.owner.namespaceName (withFinalizers config names)).runOn images store =
        (.done result, after) ∧
      Alters store after .auditConfig aim.owner.configKey (some stored) ∧
      after.stored? .auditConfig aim.owner.configKey = some result ∧
      finalizers result = names ∧ aim.IsOf result := by
  obtain ⟨stored, found, read⟩ := exists_find?_of_stored? current
  have sameMetadata := Stored.metadata_of_read? read
  have revises : Revises (withFinalizers config names) stored config := {
    read
    version := by
      change config.metadata.resourceVersion = _
      rw [sameMetadata]
    status := rfl }
  have named : (withFinalizers config names).displayName = aim.owner.configKey.name :=
    Owner.displayName_of_eq_ok isOf.owned
  obtain ⟨version, after, updated, alters⟩ := runOn_update_of_revises quiet revises found named
  refine ⟨_, after, _, updated, alters, ?_, rfl, ?_⟩
  · rw [stored?, alters.here, Option.bind_some]
    exact revises.read?_succeed _ version
  · refine { owned := ?_, content := isOf.content, stays := ?_ }
    · rw [← isOf.owned]
      apply Owner.of_congr
      · rfl
      · rfl
      · exact (Owner.namespaceName_of_eq_ok isOf.owned).symm
      · change stored.metadata.uid.or config.metadata.uid = config.metadata.uid
        rw [← sameMetadata]
        cases config.metadata.uid <;> rfl
    · change Option.map _ config.metadata.deletionTimestamp = none
      rw [isOf.stays]
      rfl

/-! ## What is left to do -/

/-- The objects of the webhook, and the configuration, which has its finalizer. -/
def IsHome (owner : Owner) : Kind → Key → Prop
  | .auditConfig, key => key = owner.configKey
  | .deployment, key => key = owner.key (Naming.webhookDeployment owner.name)
  | .service, key => key = owner.key (Naming.webhookService owner.name)
  | .webhookConfiguration, key => key = registrationKey owner
  | _, _ => False

def wanted (aim : Aim) : Deployment :=
  Template.Admission.deployment aim.spec aim.owner (aim.image (request aim))

def isDeployed (aim : Aim) (store : Store) : Bool :=
  store.holds sameDeployment (aim.owner.key (Naming.webhookDeployment aim.owner.name)) (wanted aim)

def isExposed (aim : Aim) (store : Store) : Bool :=
  store.holds sameService (aim.owner.key (Naming.webhookService aim.owner.name))
    (Template.Admission.service aim.owner)

def isRegistered (aim : Aim) (store : Store) : Bool :=
  store.holds sameRegistration (registrationKey aim.owner)
    (Template.Admission.registration aim.spec aim.owner)

def work (aim : Aim) (store : Store) : Nat :=
  outstanding (isGuarded store aim.owner.configKey) + outstanding (isDeployed aim store) +
    outstanding (isExposed aim store) + outstanding (isRegistered aim store)

theorem work_le (aim : Aim) (store : Store) : work aim store ≤ 4 := by
  have guarded := outstanding_le (isGuarded store aim.owner.configKey)
  have deployed := outstanding_le (isDeployed aim store)
  have exposed := outstanding_le (isExposed aim store)
  have registered := outstanding_le (isRegistered aim store)
  rw [work]
  omega

/-- The objects of the webhook that a pass reads can be read, and those that it updates stand under
their own names. -/
structure Fits (aim : Aim) (store : Store) : Prop where
  deployment :
    store.IsSoundAt .deployment (aim.owner.key (Naming.webhookDeployment aim.owner.name))
  service : store.IsSoundAt .service (aim.owner.key (Naming.webhookService aim.owner.name))
  registration :
    ∀ stored, store.find? .webhookConfiguration (registrationKey aim.owner) = some stored →
      ∃ live, stored.read? = some live

/-- A pass can bring the webhook into place, and give the configuration its finalizer. -/
structure Accepts (aim : Aim) (store : Store) : Prop extends Fits aim store where
  current : aim.IsCurrent store

section Congruence

variable (same : ∀ kind key, kind ≠ .auditConfig → IsHome aim.owner kind key →
  after.find? kind key = store.find? kind key)

include same

theorem work_congr
    (sameGuard : isGuarded after aim.owner.configKey = isGuarded store aim.owner.configKey) :
    work aim after = work aim store := by
  have deployed : isDeployed aim after = isDeployed aim store :=
    holds_congr (same .deployment _ nofun rfl) _ _
  have exposed : isExposed aim after = isExposed aim store :=
    holds_congr (same .service _ nofun rfl) _ _
  have registered : isRegistered aim after = isRegistered aim store :=
    holds_congr (same .webhookConfiguration _ nofun rfl) _ _
  rw [work, work, sameGuard, deployed, exposed, registered]

theorem Accepts.congr (accepts : Accepts aim store) (current : aim.IsCurrent after) :
    Accepts aim after where
  current
  deployment := accepts.deployment.congr (same .deployment _ nofun rfl)
  service := accepts.service.congr (same .service _ nofun rfl)
  registration := by
    rw [same .webhookConfiguration _ nofun rfl]
    exact accepts.registration

end Congruence

/-! ## Steps -/

theorem advance_of_guarded {stored : Stored .auditConfig} (accepts : Accepts aim store)
    (alters : Alters store after .auditConfig aim.owner.configKey (some stored))
    (current : aim.IsCurrent after) (guarded : isGuarded after aim.owner.configKey = true)
    (unguarded : isGuarded store aim.owner.configKey = false) :
    Advance (IsHome aim.owner) (Accepts aim) (work aim) store after := by
  have deployments : ∀ place, after.find? .deployment place = store.find? .deployment place :=
    alters.otherKind nofun
  have services : ∀ place, after.find? .service place = store.find? .service place :=
    alters.otherKind nofun
  have registrations : ∀ place,
      after.find? .webhookConfiguration place = store.find? .webhookConfiguration place :=
    alters.otherKind nofun
  refine { agree := alters.agreeOutside rfl, intact := ?_, less := ?_ }
  · exact {
      current
      deployment := accepts.deployment.congr (deployments _)
      service := accepts.service.congr (services _)
      registration := by
        rw [registrations]
        exact accepts.registration }
  · have deployed : isDeployed aim after = isDeployed aim store := holds_congr (deployments _) _ _
    have exposed : isExposed aim after = isExposed aim store := holds_congr (services _) _ _
    have registered : isRegistered aim after = isRegistered aim store :=
      holds_congr (registrations _) _ _
    rw [work, work, guarded, unguarded, deployed, exposed, registered, outstanding_true,
      outstanding_false]
    omega

theorem advance_of_deployed {object result : Deployment} (accepts : Accepts aim store)
    (deposits : Deposits store after .deployment
      (aim.owner.key (Naming.webhookDeployment aim.owner.name)) object result)
    (named : object.displayName = Naming.webhookDeployment aim.owner.name)
    (settled : sameDeployment result (wanted aim) = true) (missing : isDeployed aim store = false) :
    Advance (IsHome aim.owner) (Accepts aim) (work aim) store after := by
  have configs : ∀ place, after.find? .auditConfig place = store.find? .auditConfig place :=
    deposits.otherKind nofun
  have services : ∀ place, after.find? .service place = store.find? .service place :=
    deposits.otherKind nofun
  have registrations : ∀ place,
      after.find? .webhookConfiguration place = store.find? .webhookConfiguration place :=
    deposits.otherKind nofun
  refine { agree := deposits.agreeOutside rfl, intact := ?_, less := ?_ }
  · obtain ⟨config, present, isOf⟩ := accepts.current
    exact {
      current := ⟨config, (stored?_congr (configs _)).trans present, isOf⟩
      deployment := deposits.sound named
      service := accepts.service.congr (services _)
      registration := by
        rw [registrations]
        exact accepts.registration }
  · have deployed : isDeployed aim after = true := deposits.holds settled
    have exposed : isExposed aim after = isExposed aim store := holds_congr (services _) _ _
    have registered : isRegistered aim after = isRegistered aim store :=
      holds_congr (registrations _) _ _
    rw [work, work, isGuarded, isGuarded, configs, deployed, missing, exposed, registered,
      outstanding_true, outstanding_false]
    omega

theorem advance_of_exposed {object result : Service} (accepts : Accepts aim store)
    (deposits : Deposits store after .service
      (aim.owner.key (Naming.webhookService aim.owner.name)) object result)
    (named : object.displayName = Naming.webhookService aim.owner.name)
    (settled : sameService result (Template.Admission.service aim.owner) = true)
    (missing : isExposed aim store = false) :
    Advance (IsHome aim.owner) (Accepts aim) (work aim) store after := by
  have configs : ∀ place, after.find? .auditConfig place = store.find? .auditConfig place :=
    deposits.otherKind nofun
  have deployments : ∀ place, after.find? .deployment place = store.find? .deployment place :=
    deposits.otherKind nofun
  have registrations : ∀ place,
      after.find? .webhookConfiguration place = store.find? .webhookConfiguration place :=
    deposits.otherKind nofun
  refine { agree := deposits.agreeOutside rfl, intact := ?_, less := ?_ }
  · obtain ⟨config, present, isOf⟩ := accepts.current
    exact {
      current := ⟨config, (stored?_congr (configs _)).trans present, isOf⟩
      deployment := accepts.deployment.congr (deployments _)
      service := deposits.sound named
      registration := by
        rw [registrations]
        exact accepts.registration }
  · have deployed : isDeployed aim after = isDeployed aim store := holds_congr (deployments _) _ _
    have exposed : isExposed aim after = true := deposits.holds settled
    have registered : isRegistered aim after = isRegistered aim store :=
      holds_congr (registrations _) _ _
    rw [work, work, isGuarded, isGuarded, configs, deployed, exposed, missing, registered,
      outstanding_true, outstanding_false]
    omega

theorem advance_of_registered {object result : WebhookConfiguration} (accepts : Accepts aim store)
    (deposits : Deposits store after .webhookConfiguration (registrationKey aim.owner) object result)
    (settled : sameRegistration result
      (Template.Admission.registration aim.spec aim.owner) = true)
    (missing : isRegistered aim store = false) :
    Advance (IsHome aim.owner) (Accepts aim) (work aim) store after := by
  have configs : ∀ place, after.find? .auditConfig place = store.find? .auditConfig place :=
    deposits.otherKind nofun
  have deployments : ∀ place, after.find? .deployment place = store.find? .deployment place :=
    deposits.otherKind nofun
  have services : ∀ place, after.find? .service place = store.find? .service place :=
    deposits.otherKind nofun
  refine { agree := deposits.agreeOutside rfl, intact := ?_, less := ?_ }
  · obtain ⟨config, present, isOf⟩ := accepts.current
    obtain ⟨stored, read, alters⟩ := deposits.alters
    exact {
      current := ⟨config, (stored?_congr (configs _)).trans present, isOf⟩
      deployment := accepts.deployment.congr (deployments _)
      service := accepts.service.congr (services _)
      registration := by
        intro other found
        cases alters.here.symm.trans found
        exact ⟨result, read⟩ }
  · have deployed : isDeployed aim after = isDeployed aim store := holds_congr (deployments _) _ _
    have exposed : isExposed aim after = isExposed aim store := holds_congr (services _) _ _
    have registered : isRegistered aim after = true := deposits.holds settled
    rw [work, work, isGuarded, isGuarded, configs, deployed, exposed, registered, missing,
      outstanding_true, outstanding_false]
    omega

/-! ## Passes -/

section

variable (quiet : store.faults = [])

include quiet

theorem proceeds_converge (accepts : Accepts (context.aim images) store) :
    Proceeds (IsHome context.owner) (Accepts (context.aim images)) (work (context.aim images)) store
      ((converge context (wanted (context.aim images))).runOn images store) := by
  have serverSettles : Settles sameDeployment mergeDeployment (wanted (context.aim images)) :=
    settles_deployment (inSeconds_admission_deployment _ _ _)
  have serverFilled : Naming.webhookDeployment context.owner.name ≠ "" :=
    Naming.append_ne_empty (by decide)
  have serviceSettles :
      Settles sameService mergeService (Template.Admission.service context.owner) :=
    settles_service _
  have serviceFilled : Naming.webhookService context.owner.name ≠ "" :=
    Naming.append_ne_empty (by decide)
  have registrationSettles : Settles sameRegistration mergeRegistration
      (Template.Admission.registration context.spec context.owner) :=
    settles_registration _
  have registrationFilled : Naming.webhookConfiguration context.owner.namespaceName
      context.owner.name ≠ "" :=
    Naming.append_ne_empty (by decide)
  refine .ensure quiet serverSettles rfl serverFilled rfl accepts.deployment ?_ ?_
  · intro missing after object result deposits named settled
    exact advance_of_deployed accepts deposits named settled missing
  intro deployed
  refine .ensure quiet serviceSettles rfl serviceFilled rfl accepts.service ?_ ?_
  · intro missing after object result deposits named settled
    exact advance_of_exposed accepts deposits named settled missing
  intro _
  refine .ensureCluster quiet registrationSettles rfl registrationFilled rfl accepts.registration
    ?_ ?_
  · intro missing after object result deposits settled
    exact advance_of_registered accepts deposits settled missing
  intro _
  obtain ⟨live, present, _⟩ := holds_iff.mp deployed
  have finds : store.Finds .deployment
      (context.key (wanted (context.aim images)).displayName) (some live) := present
  refine .bind ((runOn_get_eq_done_iff quiet).mpr ⟨finds, rfl⟩) ?_
  exact .settled _ rfl

/-- A pass over a webhook that is wanted goes through, and does one thing at most. -/
theorem proceeds_reconcile
    (resolves : ∃ image, (context.aim images).images (request (context.aim images)) = .ok image)
    (current : store.stored? .auditConfig context.owner.configKey = some context.config)
    (isOf : (context.aim images).IsOf context.config)
    (accepts : Accepts (context.aim images) store) :
    Proceeds (IsHome context.owner) (Accepts (context.aim images)) (work (context.aim images)) store
      ((reconcile context).runOn images store) := by
  have known := isGuarded_of_stored? current
  cases guarded : hasFinalizer context.config with
  | false =>
      obtain ⟨result, after, stored, updated, alters, present, names, resultOf⟩ :=
        exists_runOn_update_withFinalizers images quiet current isOf
          (finalizers context.config ++ [finalizer])
      have guardedAfter : isGuarded after (context.aim images).owner.configKey = true := by
        rw [isGuarded_of_stored? present, hasFinalizer, names]
        simp
      have placed : namespaceOf context.config = .ok context.owner.namespaceName := by
        rw [namespaceOf, Owner.namespaceName_of_eq_ok isOf.owned]
        rfl
      have added : (addFinalizer context.config).runOn images store = (.done (), after) := by
        refine (runOn_bind_of_done (runOn_configured_eq_done_iff.mpr ⟨placed, rfl⟩)).trans ?_
        exact runOn_bind_of_done updated
      simp only [reconcile, guarded, Bool.not_false, if_true]
      refine .bind added ?_
      exact .advanced _ after rfl (advance_of_guarded accepts alters ⟨result, present, resultOf⟩
        guardedAfter (known.trans guarded))
  | true =>
      have answered : images (request (context.aim images)) =
          .ok ((context.aim images).image (request (context.aim images))) :=
        Aim.image_eq resolves
      simp only [reconcile, guarded, Bool.not_true, Bool.false_eq_true, if_false]
      refine .bind (runOn_resolve_eq_done_iff.mpr ⟨answered, rfl⟩) ?_
      exact proceeds_converge quiet accepts

end

/-! ## Removal -/

def isGone (owner : Owner) (store : Store) : Bool :=
  (store.find? .webhookConfiguration (registrationKey owner)).isNone &&
    (store.find? .deployment (owner.key (Naming.webhookDeployment owner.name))).isNone &&
    (store.find? .service (owner.key (Naming.webhookService owner.name))).isNone &&
    !isGuarded store owner.configKey

theorem isGone_iff {owner : Owner} :
    isGone owner store = true ↔ Gone owner owner.configKey store := by
  simp only [isGone, Bool.and_eq_true, Option.isNone_iff_eq_none, Bool.not_eq_true']
  constructor
  · intro absent
    obtain ⟨⟨⟨registration, deployment⟩, service⟩, unguarded⟩ := absent
    exact { registration, deployment, service, unguarded }
  · intro gone
    exact ⟨⟨⟨gone.registration, gone.deployment⟩, gone.service⟩, gone.unguarded⟩

theorem isGone_congr {owner : Owner}
    (same : ∀ kind key, kind ≠ .auditConfig → IsHome owner kind key →
      after.find? kind key = store.find? kind key)
    (sameGuard : isGuarded after owner.configKey = isGuarded store owner.configKey) :
    isGone owner after = isGone owner store := by
  rw [isGone, isGone, same .webhookConfiguration _ nofun rfl, same .deployment _ nofun rfl,
    same .service _ nofun rfl, sameGuard]

theorem exists_runOn_removeFinalizer (images : ImageSource) (quiet : store.faults = [])
    (current : store.stored? .auditConfig aim.owner.configKey = some config)
    (isOf : aim.IsOf config) :
    ∃ after stored,
      (removeFinalizer config).runOn images store = (.done (), after) ∧
      Alters store after .auditConfig aim.owner.configKey (some stored) ∧
      aim.IsCurrent after ∧ isGuarded after aim.owner.configKey = false := by
  obtain ⟨result, after, stored, updated, alters, present, names, resultOf⟩ :=
    exists_runOn_update_withFinalizers images quiet current isOf
      ((finalizers config).filter (· != finalizer))
  have placed : namespaceOf config = .ok aim.owner.namespaceName := by
    rw [namespaceOf, Owner.namespaceName_of_eq_ok isOf.owned]
  have unguarded : isGuarded after aim.owner.configKey = false := by
    rw [isGuarded_of_stored? present, hasFinalizer, names]
    simp
  refine ⟨after, stored, ?_, alters, ⟨result, present, resultOf⟩, unguarded⟩
  refine (runOn_bind_of_done (runOn_configured_eq_done_iff.mpr ⟨placed, rfl⟩)).trans ?_
  exact runOn_bind_of_done updated

/-- A pass over a webhook that is not wanted goes through, and leaves nothing of it. -/
theorem proceeds_tearDown (quiet : store.faults = [])
    (current : store.stored? .auditConfig context.owner.configKey = some context.config)
    (isOf : (context.aim images).IsOf context.config) :
    Proceeds (IsHome context.owner) (context.aim images).IsCurrent
      (fun store => outstanding (isGone context.owner store)) store
      ((tearDown context).runOn images store) := by
  have known := isGuarded_of_stored? current
  obtain ⟨first, deleted, alters⟩ :=
    exists_runOn_deleteIfPresent images quiet .webhookConfiguration
      (registrationKey context.owner)
  obtain ⟨second, deletedNext, altersNext⟩ :=
    exists_runOn_deleteIfPresent images (alters.faults.trans quiet) .deployment
      (context.key (Naming.webhookDeployment context.name))
  have quietSecond : second.faults = [] := altersNext.faults.trans (alters.faults.trans quiet)
  obtain ⟨third, deletedLast, altersLast⟩ :=
    exists_runOn_deleteIfPresent images quietSecond .service
      (context.key (Naming.webhookService context.name))
  have quietThird : third.faults = [] := altersLast.faults.trans quietSecond
  have configs : ∀ place, third.find? .auditConfig place = store.find? .auditConfig place := by
    intro place
    exact Eq.trans (altersLast.otherKind (by decide) place)
      (Eq.trans (altersNext.otherKind (by decide) place) (alters.otherKind (by decide) place))
  have currentThird : third.stored? .auditConfig context.owner.configKey = some context.config :=
    (stored?_congr (configs _)).trans current
  obtain ⟨after, ended, ⟨change, altersConfig⟩, currentAfter, unguarded⟩ :
      ∃ after,
        (tearDown context).runOn images store = (.done (.ofChange
          ((store.find? .webhookConfiguration (registrationKey context.owner)).isSome ||
            (first.find? .deployment
              (context.key (Naming.webhookDeployment context.name))).isSome ||
            (second.find? .service (context.key (Naming.webhookService context.name))).isSome ||
            hasFinalizer context.config)
          (context.disabled .admissionDegraded "AdmissionDisabled"
            "Admission webhook is disabled")), after) ∧
        (∃ change, Alters third after .auditConfig context.owner.configKey change) ∧
        (context.aim images).IsCurrent after ∧
        isGuarded after context.owner.configKey = false := by
    cases guarded : hasFinalizer context.config with
    | false =>
        have unguardedThird : isGuarded third context.owner.configKey = false :=
          (isGuarded_of_stored? currentThird).trans guarded
        refine ⟨third, ?_, ⟨_, Alters.refl⟩, ⟨context.config, currentThird, isOf⟩,
          unguardedThird⟩
        refine (runOn_bind_of_done deleted).trans ?_
        refine (runOn_bind_of_done deletedNext).trans ?_
        refine (runOn_bind_of_done deletedLast).trans ?_
        simp only [guarded, Bool.false_eq_true, if_false]
        rfl
    | true =>
        obtain ⟨after, stored, removed, altersConfig, currentAfter, unguarded⟩ :=
          exists_runOn_removeFinalizer images quietThird currentThird isOf
        refine ⟨after, ?_, ⟨_, altersConfig⟩, currentAfter, unguarded⟩
        refine (runOn_bind_of_done deleted).trans ?_
        refine (runOn_bind_of_done deletedNext).trans ?_
        refine (runOn_bind_of_done deletedLast).trans ?_
        simp only [guarded, if_true]
        exact runOn_bind_of_done removed
  have gone : Gone context.owner context.owner.configKey after := {
    registration :=
      Eq.trans (altersConfig.otherKind (by decide) _) (Eq.trans (altersLast.otherKind (by decide) _)
        (Eq.trans (altersNext.otherKind (by decide) _) alters.here))
    deployment :=
      Eq.trans (altersConfig.otherKind (by decide) _)
        (Eq.trans (altersLast.otherKind (by decide) _) altersNext.here)
    service := Eq.trans (altersConfig.otherKind (by decide) _) altersLast.here
    unguarded }
  have agree : AgreeOutside (IsHome context.owner) store after :=
    (alters.agreeOutside rfl).trans ((altersNext.agreeOutside rfl).trans
      ((altersLast.agreeOutside rfl).trans (altersConfig.agreeOutside rfl)))
  have whenGone (absent : isGone context.owner store = true) :
      TornDown context.owner (hasFinalizer context.config) store :=
    (tornDown_iff_gone known).mpr (isGone_iff.mp absent)
  exact .of_removal (runOn_tearDown_eq_done_iff quiet) whenGone ended agree currentAfter
    (isGone_iff.mpr gone)

end Pass.Admission

end ClusterAudit
