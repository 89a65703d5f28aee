import ClusterAudit.Proofs.Converged

/-!
The admission webhook in a pass that changes nothing. The pass is done with it exactly when it is in
place and the finalizer was read on the configuration, or, if it is not wanted, when it is gone and
no finalizer was read.
-/

namespace ClusterAudit.Pass.Admission

open Store

variable {context : PassContext} {images : ImageSource} {store after : Store}
  {desired : Deployment} {outcome : Outcome}

/-- The webhook is in place, the finalizer was read, and a pass reports on it. -/
structure Settled (aim : Aim) (guarded : Bool) (store : Store) (report : ConditionUpdate) :
    Prop where
  standing : guarded = true
  deployment :
    ∃ image live, aim.images (request aim) = .ok image ∧
      store.stored? .deployment (aim.owner.key (Naming.webhookDeployment aim.owner.name)) =
        some live ∧
      Managed.sameDeployment live (Template.Admission.deployment aim.spec aim.owner image) =
        true ∧
      report = condition (live.status.getD {})
  service :
    store.holds Managed.sameService (aim.owner.key (Naming.webhookService aim.owner.name))
      (Template.Admission.service aim.owner) = true
  registration :
    store.holds Managed.sameRegistration (registrationKey aim.owner)
      (Template.Admission.registration aim.spec aim.owner) = true

/-- A pass finds nothing of the webhook, and has read no finalizer. -/
structure TornDown (owner : Owner) (guarded : Bool) (store : Store) : Prop where
  registration : store.find? .webhookConfiguration (registrationKey owner) = none
  deployment :
    store.find? .deployment (owner.key (Naming.webhookDeployment owner.name)) = none
  service : store.find? .service (owner.key (Naming.webhookService owner.name)) = none
  lifted : guarded = false

/-! ## Finalizer -/

/-- What a pass has read of its configuration tells whether the stored one is guarded. -/
theorem isGuarded_of_stored? {key : Key} {config : AuditConfig}
    (current : store.stored? .auditConfig key = some config) :
    isGuarded store key = hasFinalizer config := by
  obtain ⟨stored, place, read⟩ := exists_find?_of_stored? current
  rw [isGuarded, place, Option.any_some, ← Stored.metadata_of_read? read]
  rfl

section

variable (quiet : store.faults = [])

include quiet

/-! ## In place -/

theorem runOn_converge_eq_done_iff :
    ((converge context desired).runOn images store = (.done outcome, after) ∧
        outcome.progress = .done) ↔
      (∃ live,
        store.stored? .deployment (context.owner.key desired.displayName) = some live ∧
        Managed.sameDeployment live desired = true ∧
        outcome = .settled (condition (live.status.getD {}))) ∧
      store.holds Managed.sameService (context.owner.key (Naming.webhookService context.name))
        (Template.Admission.service context.owner) = true ∧
      store.holds Managed.sameRegistration (registrationKey context.owner)
        (Template.Admission.registration context.spec context.owner) = true ∧
      after = store := by
  constructor
  · intro finished
    obtain ⟨deployment, finished⟩ := (runOn_guard_ensure_eq_done_iff quiet).mp finished
    obtain ⟨service, finished⟩ := (runOn_guard_ensure_eq_done_iff quiet).mp finished
    obtain ⟨registration, finished, _⟩ :=
      (runOn_guard_ensureCluster_eq_done_iff quiet).mp finished
    obtain ⟨found, last, looked, finished⟩ := runOn_bind_eq_done_iff.mp finished
    obtain ⟨live, present, agree⟩ := holds_iff.mp deployment
    obtain ⟨finds, rfl⟩ := (runOn_get_eq_done_iff quiet).mp looked
    obtain rfl := finds.eq_some present
    cases finished
    exact ⟨⟨live, present, agree, rfl⟩, service, registration, rfl⟩
  · intro settled
    obtain ⟨⟨live, present, agree, rfl⟩, service, registration, rfl⟩ := settled
    apply (runOn_guard_ensure_eq_done_iff quiet).mpr
    refine ⟨holds_iff.mpr ⟨live, present, agree⟩, ?_⟩
    apply (runOn_guard_ensure_eq_done_iff quiet).mpr
    refine ⟨service, ?_⟩
    apply (runOn_guard_ensureCluster_eq_done_iff quiet).mpr
    refine ⟨registration, runOn_bind_eq_done_iff.mpr ?_, rfl⟩
    exact ⟨some live, after, (runOn_get_eq_done_iff quiet).mpr ⟨present, rfl⟩, rfl⟩

/-- A pass is done with the webhook exactly when it is in place. -/
theorem runOn_reconcile_eq_done_iff :
    ((reconcile context).runOn images store = (.done outcome, after) ∧
        outcome.progress = .done) ↔
      (∃ report, Settled (context.aim images) (hasFinalizer context.config) store report ∧
          outcome = .settled report) ∧
        after = store := by
  cases guarded : hasFinalizer context.config with
  | false =>
      simp only [reconcile, guarded, Bool.not_false, if_true, runOn_bind_const_eq_done_iff]
      constructor
      · rintro ⟨⟨_, rfl⟩, isDone⟩
        cases isDone
      · rintro ⟨⟨report, settled, _⟩, _⟩
        cases settled.standing
  | true =>
      simp only [reconcile, guarded, Bool.not_true, Bool.false_eq_true, if_false,
        runOn_bind_eq_done_iff]
      constructor
      · rintro ⟨⟨image, middle, resolved, finished⟩, isDone⟩
        obtain ⟨answered, rfl⟩ := runOn_resolve_eq_done_iff.mp resolved
        obtain ⟨⟨live, present, agree, rfl⟩, service, registration, rfl⟩ :=
          (runOn_converge_eq_done_iff quiet).mp ⟨finished, isDone⟩
        refine ⟨⟨_, ?_, rfl⟩, rfl⟩
        exact {
          standing := rfl
          deployment := ⟨image, live, answered, present, agree, rfl⟩
          service
          registration }
      · rintro ⟨⟨report, settled, rfl⟩, rfl⟩
        obtain ⟨image, live, answered, present, agree, rfl⟩ := settled.deployment
        refine ⟨⟨image, after, runOn_resolve_eq_done_iff.mpr ⟨answered, rfl⟩, ?_⟩, rfl⟩
        exact ((runOn_converge_eq_done_iff quiet).mpr
          ⟨⟨live, present, agree, rfl⟩, settled.service, settled.registration, rfl⟩).1

/-! ## Gone -/

/-- A pass is done with a webhook that is not wanted exactly when it is gone. -/
theorem runOn_tearDown_eq_done_iff :
    ((tearDown context).runOn images store = (.done outcome, after) ∧
        outcome.progress = .done) ↔
      TornDown context.owner (hasFinalizer context.config) store ∧
        outcome = .ofChange false (context.disabled .admissionDegraded "AdmissionDisabled"
          "Admission webhook is disabled") ∧ after = store := by
  simp only [tearDown, runOn_bind_eq_done_iff]
  constructor
  · rintro ⟨⟨registration, first, deleted, deployment, second, deletedNext, service, third,
      deletedLast, finished⟩, isDone⟩
    cases guarded : hasFinalizer context.config with
    | true =>
        simp only [guarded, if_true, runOn_bind_const_eq_done_iff] at finished
        obtain ⟨_, rfl⟩ := finished
        have unchanged := Outcome.progress_ofChange_eq_done_iff.mp isDone
        simp at unchanged
    | false =>
        simp only [guarded, Bool.false_eq_true, if_false] at finished
        cases finished
        have unchanged := Outcome.progress_ofChange_eq_done_iff.mp isDone
        simp only [Bool.or_eq_false_iff] at unchanged
        obtain ⟨⟨⟨rfl, rfl⟩, rfl⟩, _⟩ := unchanged
        obtain ⟨registrationFree, rfl⟩ := (runOn_deleteIfPresent_eq_false_iff quiet).mp deleted
        obtain ⟨deploymentFree, rfl⟩ :=
          (runOn_deleteIfPresent_eq_false_iff quiet).mp deletedNext
        obtain ⟨serviceFree, rfl⟩ := (runOn_deleteIfPresent_eq_false_iff quiet).mp deletedLast
        exact ⟨{
          registration := registrationFree
          deployment := deploymentFree
          service := serviceFree
          lifted := rfl }, rfl, rfl⟩
  · rintro ⟨gone, rfl, rfl⟩
    refine ⟨⟨false, after, runOn_deleteIfPresent_of_free quiet gone.registration, false, after,
      runOn_deleteIfPresent_of_free quiet gone.deployment, false, after,
      runOn_deleteIfPresent_of_free quiet gone.service, ?_⟩, rfl⟩
    simp only [gone.lifted, Bool.false_eq_true, if_false]
    rfl

end

/-! ## Seen from outside -/

section

variable
  (sameDeployments : ∀ key, after.find? .deployment key = store.find? .deployment key)
  (sameServices : ∀ key, after.find? .service key = store.find? .service key)
  (sameRegistrations :
    ∀ key, after.find? .webhookConfiguration key = store.find? .webhookConfiguration key)

include sameDeployments sameServices sameRegistrations

theorem Settled.congr {aim : Aim} {guarded : Bool} {report : ConditionUpdate}
    (settled : Settled aim guarded store report) : Settled aim guarded after report where
  standing := settled.standing
  deployment := by
    rw [stored?_congr (sameDeployments _)]
    exact settled.deployment
  service := by
    rw [holds_congr (sameServices _)]
    exact settled.service
  registration := by
    rw [holds_congr (sameRegistrations _)]
    exact settled.registration

theorem TornDown.congr {owner : Owner} {guarded : Bool} (gone : TornDown owner guarded store) :
    TornDown owner guarded after where
  registration := (sameRegistrations _).trans gone.registration
  deployment := (sameDeployments _).trans gone.deployment
  service := (sameServices _).trans gone.service
  lifted := gone.lifted

end

theorem Settled.inPlace {aim : Aim} {guarded : Bool} {home : Key} {report : ConditionUpdate}
    (settled : Settled aim guarded store report) (known : isGuarded store home = guarded) :
    InPlace aim home store where
  guarded := known.trans settled.standing
  deployment := by
    obtain ⟨image, live, answered, present, agree, _⟩ := settled.deployment
    exact ⟨image, answered, holds_iff.mpr ⟨live, present, agree⟩⟩
  service := settled.service
  registration := settled.registration

/-- What a pass has read of the finalizer is all that it does not look up. -/
theorem tornDown_iff_gone {owner : Owner} {guarded : Bool} {home : Key}
    (known : isGuarded store home = guarded) :
    TornDown owner guarded store ↔ Gone owner home store := by
  constructor
  · intro tornDown
    obtain ⟨registration, deployment, service, lifted⟩ := tornDown
    exact { registration, deployment, service, unguarded := known.trans lifted }
  · intro gone
    obtain ⟨registration, deployment, service, unguarded⟩ := gone
    exact { registration, deployment, service, lifted := known.symm.trans unguarded }

end ClusterAudit.Pass.Admission
