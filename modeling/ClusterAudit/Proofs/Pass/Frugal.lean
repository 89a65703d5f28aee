import ClusterAudit.Proofs.Log
import ClusterAudit.Proofs.Pass.Convergence

/-!
Parts of passes that change little. A part that says that it did nothing has left the cluster as it
was, and most features stop at their first change. All of this holds whatever the cluster holds and
whichever calls fail, also where a failure is taken for an answer.
-/

namespace ClusterAudit

open Store

/-- The call changes nothing and leaves no entry in the log. -/
def Call.Reads (request : Call) : Prop :=
  request.entry? = none

namespace Store

variable {store after : Store} {kind : Kind} {key : Key}

/-- A call leaves one entry in the log at most. -/
theorem exists_log_answer (store : Store) (request : Call) :
    ∃ entries, (store.answer request).2.log = store.log ++ entries ∧ entries.length ≤ 1 := by
  cases mutates : request.entry? with
  | none => exact ⟨[], by simp [store.answer_of_reading mutates], by simp⟩
  | some entry =>
      rcases store.refuses_or_logs mutates with refused | logs
      · exact ⟨[], by simp [refused.1], by simp⟩
      · exact ⟨[entry], logs.log, by simp⟩

/-- A creation that is told that the place is taken has changed nothing. -/
theorem eq_of_create_eq_alreadyExists {namespaceName : String} {object : Object kind}
    {error : ClusterError}
    (created : store.create kind namespaceName object = (.error error, after))
    (taken : error.isAlreadyExists = true) : after = store := by
  rw [create] at created
  split at created
  · cases created
    rfl
  · split at created
    · cases created
      rfl
    · cases created
      rfl
    · obtain ⟨failed, _⟩ := Prod.mk.inj created
      cases unfit : Option.bind _ Stored.read? with
      | some read =>
          rw [unfit] at failed
          cases failed
      | none =>
          rw [unfit] at failed
          cases failed
          cases taken

theorem eq_of_delete_eq_error {error : ClusterError}
    (deleted : store.delete kind key = (.error error, after)) : after = store := by
  rw [delete] at deleted
  split at deleted <;> cases deleted <;> rfl

theorem eq_of_patchStatus_eq_error {patch : Json} {error : ClusterError}
    (patched : store.patchStatus kind key patch = (.error error, after)) : after = store := by
  rw [patchStatus] at patched
  split at patched <;> cases patched <;> rfl

end Store

theorem Progress.requeue_ne_done : Progress.requeue ≠ .done := by
  decide

namespace Pass

variable {First Second Result : Type} {images : ImageSource} {store after : Store}
  {quietly : First → Prop} {silent : Result → Prop}

/-- If a part of a pass ends with a result that says that it did nothing, the cluster is as it
was. -/
def KeepsStore (images : ImageSource) (silent : Result → Prop) (pass : Pass Result) : Prop :=
  ∀ store result after, pass.runOn images store = (.done result, after) → silent result →
    after = store

/-- A part of a pass that changes the cluster once at most, and not at all if it ends with a result
that says so. -/
structure IsFrugal (images : ImageSource) (silent : Result → Prop) (pass : Pass Result) : Prop where
  keeps : pass.KeepsStore images silent
  once : ∀ store, ∃ entries, (pass.runOn images store).2.log = store.log ++ entries ∧
    entries.length ≤ 1

/-! ## Sequences -/

theorem runOn_of_reading {pass : Pass Result} (reads : pass.CallsOnly Call.Reads)
    (store : Store) : (pass.runOn images store).2 = store := by
  induction pass generalizing store with
  | done result => rfl
  | fail error => rfl
  | crash => rfl
  | call request next inductionHypothesis =>
      refine (inductionHypothesis _ (reads.2 _) _).trans ?_
      exact store.answer_of_reading reads.1
  | image request next inductionHypothesis => exact inductionHypothesis _ (reads _) _
  | note feature next inductionHypothesis => exact inductionHypothesis reads _

theorem isFrugal_of_reading {pass : Pass Result} (reads : pass.CallsOnly Call.Reads) :
    pass.IsFrugal images silent where
  keeps := by
    intro store result after ended _
    have same : (pass.runOn images store).2 = store := runOn_of_reading reads store
    rw [ended] at same
    exact same
  once := by
    intro store
    rw [runOn_of_reading reads]
    exact ⟨[], by simp, by simp⟩

theorem isFrugal_pure (result : Result) : (pure result : Pass Result).IsFrugal images silent :=
  isFrugal_of_reading trivial

/-- A sequence is frugal if what follows a first part that has changed the cluster does nothing but
say so. -/
theorem isFrugal_bind {first : Pass First} {second : First → Pass Result}
    (firstFrugal : first.IsFrugal images quietly)
    (rest : ∀ value, quietly value ∧ (second value).IsFrugal images silent ∨
      ∃ result, second value = pure result ∧ ¬ silent result) :
    (first >>= second).IsFrugal images silent where
  keeps := by
    intro store result after ended isSilent
    obtain ⟨value, middle, endedFirst, endedSecond⟩ := runOn_bind_eq_done_iff.mp ended
    rcases rest value with ⟨quiet, frugal⟩ | ⟨said, only, loud⟩
    · have sameFirst := firstFrugal.keeps _ _ _ endedFirst quiet
      rw [frugal.keeps _ _ _ endedSecond isSilent, sameFirst]
    · rw [only] at endedSecond
      cases endedSecond
      exact absurd isSilent loud
  once := by
    intro store
    obtain ⟨entries, log, few⟩ := firstFrugal.once store
    rw [runOn_bind]
    cases endedFirst : first.runOn images store with
    | mk ending middle =>
        rw [endedFirst] at log
        cases ending with
        | failed error => exact ⟨entries, log, few⟩
        | crashed => exact ⟨entries, log, few⟩
        | done value =>
            rcases rest value with ⟨quiet, frugal⟩ | ⟨said, only, _⟩
            · rw [firstFrugal.keeps _ _ _ endedFirst quiet]
              exact frugal.once store
            · rw [resume, only]
              exact ⟨entries, log, few⟩

/-- What follows a part that only looks may depend on what was seen. -/
theorem isFrugal_bind_right {first : Pass First} {second : First → Pass Result}
    (reads : first.CallsOnly Call.Reads)
    (rest : ∀ value, (second value).IsFrugal images silent) :
    (first >>= second).IsFrugal images silent := by
  have firstFrugal : first.IsFrugal images fun _ => True := isFrugal_of_reading reads
  exact isFrugal_bind firstFrugal fun value => Or.inl ⟨trivial, rest value⟩

/-! ## Steps -/

section Steps

variable {kind : Kind} {namespaceName : String} {desired object : Object kind} {key : Key}
  {same : Object kind → Object kind → Bool} {merge : Object kind → Object kind → Object kind}

theorem reads_get : (get kind key).CallsOnly Call.Reads := by
  have reads : (Call.get kind key).Reads := rfl
  exact callsOnly_ask reads

theorem reads_list {selector : String} :
    (list kind namespaceName selector).CallsOnly Call.Reads := by
  have reads : (Call.list kind namespaceName selector).Reads := rfl
  exact callsOnly_ask reads

theorem keepsStore_get : (get kind key).KeepsStore images fun _ => True :=
  (isFrugal_of_reading reads_get).keeps

theorem keepsStore_list {selector : String} :
    (list kind namespaceName selector).KeepsStore images fun _ => True :=
  (isFrugal_of_reading reads_list).keeps

theorem isFrugal_ask (request : Call) : (ask request).IsFrugal images (fun _ => False) where
  keeps := nofun
  once := by
    intro store
    have answered : ((ask request).runOn images store).2 = (store.answer request).2 := by
      simp only [ask, runOn]
      cases (store.answer request).1 <;> rfl
    rw [answered]
    exact store.exists_log_answer request

/-- A call that changes the cluster is the last thing that a part does. -/
theorem isFrugal_ask_bind {request : Call} {result : Result} (loud : ¬ silent result) :
    (ask request >>= fun _ => (pure result : Pass Result)).IsFrugal images silent :=
  isFrugal_bind (isFrugal_ask request) fun _ => Or.inr ⟨result, rfl, loud⟩

theorem isFrugal_createIfAbsent :
    (createIfAbsent namespaceName desired).IsFrugal images (∃ live, · = .existing live) := by
  apply isFrugal_bind_right reads_get
  intro found
  cases found with
  | some live => exact isFrugal_pure _
  | none =>
      apply isFrugal_bind (isFrugal_ask (.create kind namespaceName desired))
      intro created
      refine Or.inr ⟨.created created, rfl, ?_⟩
      rintro ⟨live, differs⟩
      cases differs

theorem isFrugal_ensure :
    (ensure namespaceName desired same merge).IsFrugal images (·.isMutation = false) := by
  apply isFrugal_bind isFrugal_createIfAbsent
  intro applied
  cases applied with
  | created object => exact Or.inr ⟨.created, rfl, nofun⟩
  | existing live =>
      left
      refine ⟨⟨live, rfl⟩, ?_⟩
      change (ite _ _ _ : Pass Change).IsFrugal images _
      split
      · exact isFrugal_pure _
      · exact isFrugal_ask_bind nofun

theorem isFrugal_ensureCluster :
    (ensureCluster desired same merge).IsFrugal images (·.isMutation = false) := by
  apply isFrugal_bind_right reads_get
  intro found
  cases found with
  | none => exact isFrugal_ask_bind nofun
  | some live =>
      change (ite _ _ _ : Pass Change).IsFrugal images _
      split
      · exact isFrugal_pure _
      · exact isFrugal_ask_bind nofun

/-- A call of which some failures are taken for an answer has changed nothing if it failed so. -/
theorem keepsStore_attempt (request : Call) (tolerates : ClusterError → Bool)
    {next : Except ClusterError request.Reply → Pass Bool}
    (goes : ∀ reply, next (.ok reply) = pure true)
    (fails : ∀ error, next (.error error) =
      if tolerates error = true then pure false else fail (.cluster error))
    (refused : ∀ (store : Store) (error : ClusterError) (after : Store),
      store.answer request = (.error error, after) → tolerates error = true → after = store) :
    (attempt request >>= next).KeepsStore images (· = false) := by
  intro store changed after ended unchanged
  obtain ⟨reply, middle, attempted, finished⟩ := runOn_bind_eq_done_iff.mp ended
  cases reply with
  | ok value =>
      rw [goes] at finished
      cases finished
      cases unchanged
  | error error =>
      rw [fails] at finished
      cases tolerated : tolerates error with
      | false =>
          simp only [tolerated, Bool.false_eq_true, if_false] at finished
          cases finished
      | true =>
          simp only [tolerated, if_true] at finished
          cases finished
          exact refused store error _ (runOn_attempt_eq_done_iff.mp attempted) tolerated

theorem keepsStore_createTolerant :
    (createTolerant namespaceName object).KeepsStore images (· = false) :=
  keepsStore_attempt (.create kind namespaceName object) ClusterError.isAlreadyExists
    (fun _ => rfl) (fun _ => rfl)
    fun _ _ _ created taken => eq_of_create_eq_alreadyExists created taken

theorem keepsStore_deleteIfPresent : (deleteIfPresent kind key).KeepsStore images (· = false) :=
  keepsStore_attempt (.delete kind key) ClusterError.isNotFound (fun _ => rfl) (fun _ => rfl)
    fun _ _ _ deleted _ => eq_of_delete_eq_error deleted

theorem once_deleteIfPresent (store : Store) :
    ∃ entries, ((deleteIfPresent kind key).runOn images store).2.log = store.log ++ entries ∧
      entries.length ≤ 1 := by
  have answered : ((deleteIfPresent kind key).runOn images store).2 =
      (store.answer (.delete kind key)).2 := by
    rw [deleteIfPresent, runOn_bind_of_done (runOn_attempt _)]
    cases (store.answer (.delete kind key)).1 with
    | ok deleted => rfl
    | error error =>
        dsimp only
        split <;> rfl
  rw [answered]
  exact store.exists_log_answer _

theorem isFrugal_deleteIfPresent : (deleteIfPresent kind key).IsFrugal images (· = false) where
  keeps := keepsStore_deleteIfPresent
  once := once_deleteIfPresent

end Steps

/-! ## Features -/

variable {context : PassContext}

/-- A feature stops at the first of its objects that had to be changed. -/
theorem isFrugal_guard {step : Pass Change} {rest : Pass Outcome}
    (stepFrugal : step.IsFrugal images (·.isMutation = false))
    (restFrugal : rest.IsFrugal images (·.progress = .done)) :
    (step >>= fun change => if change.isMutation = true then pure .changed else rest).IsFrugal
      images (·.progress = .done) := by
  apply isFrugal_bind stepFrugal
  intro change
  cases mutated : change.isMutation with
  | true => exact Or.inr ⟨.changed, rfl, Progress.requeue_ne_done⟩
  | false => exact Or.inl ⟨rfl, restFrugal⟩

namespace Workloads

theorem isFrugal_removeLegacy : (removeLegacy context).IsFrugal images (· = false) := by
  apply isFrugal_bind_right reads_get
  intro found
  cases found with
  | none => exact isFrugal_pure _
  | some legacy =>
      change (ite _ _ _ : Pass Bool).IsFrugal images _
      split
      · exact isFrugal_deleteIfPresent
      · exact isFrugal_pure _

theorem isFrugal_settle (live : Deployment) :
    (settle context live).IsFrugal images (·.progress = .done) := by
  rw [settle]
  split
  · exact isFrugal_pure _
  · apply isFrugal_bind isFrugal_removeLegacy
    intro removed
    cases removed with
    | true => exact Or.inr ⟨_, rfl, Progress.requeue_ne_done⟩
    | false => exact Or.inl ⟨rfl, isFrugal_pure _⟩

theorem isFrugal_converge (live desired : Deployment) (inventory : String) :
    (converge context live desired inventory).IsFrugal images (·.progress = .done) := by
  rw [converge]
  split
  · exact isFrugal_ask_bind Progress.requeue_ne_done
  · dsimp only
    split
    · exact isFrugal_ask_bind Progress.requeue_ne_done
    · exact isFrugal_settle live

theorem isFrugal_reconcile : (reconcile context).IsFrugal images (·.progress = .done) := by
  apply isFrugal_guard isFrugal_ensure
  apply isFrugal_bind_right (callsOnly_resolve _)
  intro image
  apply isFrugal_bind isFrugal_createIfAbsent
  intro applied
  cases applied with
  | created object => exact Or.inr ⟨.changed, rfl, Progress.requeue_ne_done⟩
  | existing live => exact Or.inl ⟨⟨live, rfl⟩, isFrugal_converge _ _ _⟩

theorem keepsStore_tearDown : (tearDown context).KeepsStore images (·.progress = .done) := by
  intro store outcome after ended isDone
  simp only [tearDown, runOn_bind_eq_done_iff] at ended
  obtain ⟨deployment, first, deleted, configMap, second, deletedNext, finished⟩ := ended
  cases finished
  have unchanged := Outcome.progress_ofChange_eq_done_iff.mp isDone
  obtain ⟨rfl, rfl⟩ := Bool.or_eq_false_iff.mp unchanged
  rw [keepsStore_deleteIfPresent _ _ _ deletedNext rfl,
    keepsStore_deleteIfPresent _ _ _ deleted rfl]

end Workloads

namespace Nodes

theorem isFrugal_converge (desired live : List CronJob) :
    (converge context desired live).IsFrugal images (·.progress = .done) := by
  rw [converge]
  split
  · apply isFrugal_bind isFrugal_createIfAbsent
    intro applied
    exact Or.inr ⟨.changed, rfl, Progress.requeue_ne_done⟩
  · split
    · exact isFrugal_ask_bind Progress.requeue_ne_done
    · split
      · apply isFrugal_bind isFrugal_deleteIfPresent
        intro deleted
        exact Or.inr ⟨.changed, rfl, Progress.requeue_ne_done⟩
      · exact isFrugal_pure _

theorem isFrugal_reconcile : (reconcile context).IsFrugal images (·.progress = .done) := by
  apply isFrugal_guard isFrugal_ensure
  apply isFrugal_bind_right (callsOnly_resolve _)
  intro image
  apply isFrugal_bind_right reads_list
  intro nodes
  apply isFrugal_bind_right (callsOnly_desiredCronJobs _ _ _)
  intro desired
  apply isFrugal_bind_right reads_list
  intro live
  exact isFrugal_converge desired live

theorem keepsStore_deleteAll {live : List CronJob} :
    (deleteAll context live).KeepsStore images (· = false) := by
  induction live with
  | nil => exact (isFrugal_pure _).keeps
  | cons cronJob rest inductionHypothesis =>
      intro store deletedAny after ended unchanged
      simp only [deleteAll, runOn_bind_eq_done_iff] at ended
      obtain ⟨deleted, first, endedFirst, deletedRest, second, endedRest, finished⟩ := ended
      cases finished
      obtain ⟨rfl, rfl⟩ := Bool.or_eq_false_iff.mp unchanged
      rw [inductionHypothesis _ _ _ endedRest rfl, keepsStore_deleteIfPresent _ _ _ endedFirst rfl]

theorem keepsStore_tearDown : (tearDown context).KeepsStore images (·.progress = .done) := by
  intro store outcome after ended isDone
  simp only [tearDown, runOn_bind_eq_done_iff] at ended
  obtain ⟨live, first, looked, cronJobs, second, deleted, configMap, third, deletedNext,
    finished⟩ := ended
  cases finished
  have unchanged := Outcome.progress_ofChange_eq_done_iff.mp isDone
  obtain ⟨rfl, rfl⟩ := Bool.or_eq_false_iff.mp unchanged
  rw [keepsStore_deleteIfPresent _ _ _ deletedNext rfl, keepsStore_deleteAll _ _ _ deleted rfl,
    keepsStore_list _ _ _ looked trivial]

end Nodes

namespace Admission

variable {config : AuditConfig}

/-- The finalizers are changed with one call. -/
theorem isFrugal_addFinalizer : (addFinalizer config).IsFrugal images fun _ => False := by
  apply isFrugal_bind_right (callsOnly_configured _)
  intro namespaceName
  exact isFrugal_ask_bind nofun

theorem isFrugal_reconcile : (reconcile context).IsFrugal images (·.progress = .done) := by
  rw [reconcile]
  split
  · exact isFrugal_bind isFrugal_addFinalizer fun _ =>
      Or.inr ⟨.changed, rfl, Progress.requeue_ne_done⟩
  · apply isFrugal_bind_right (callsOnly_resolve _)
    intro image
    apply isFrugal_guard isFrugal_ensure
    apply isFrugal_guard isFrugal_ensure
    apply isFrugal_guard isFrugal_ensureCluster
    exact isFrugal_bind_right reads_get fun _ => isFrugal_pure _

theorem keepsStore_tearDown : (tearDown context).KeepsStore images (·.progress = .done) := by
  intro store outcome after ended isDone
  simp only [tearDown, runOn_bind_eq_done_iff] at ended
  obtain ⟨registration, first, deletedFirst, deployment, second, deletedSecond, service, third,
    deletedThird, ended⟩ := ended
  cases standing : hasFinalizer context.config with
  | true =>
      simp only [standing, if_true, runOn_bind_eq_done_iff] at ended
      obtain ⟨_, fourth, _, finished⟩ := ended
      cases finished
      simp [Outcome.ofChange] at isDone
  | false =>
      simp only [standing, Bool.false_eq_true, if_false] at ended
      cases ended
      have unchanged := Outcome.progress_ofChange_eq_done_iff.mp isDone
      simp only [Bool.or_eq_false_iff] at unchanged
      obtain ⟨⟨⟨rfl, rfl⟩, rfl⟩, _⟩ := unchanged
      rw [keepsStore_deleteIfPresent _ _ _ deletedThird rfl,
        keepsStore_deleteIfPresent _ _ _ deletedSecond rfl,
        keepsStore_deleteIfPresent _ _ _ deletedFirst rfl]

end Admission

namespace ScanApi

theorem keepsStore_deploy {owner : Owner} {token : String} {desired : Deployment} :
    (deploy owner token desired).KeepsStore images (· = false) := by
  intro store changed after ended unchanged
  simp only [deploy, runOn_bind_eq_done_iff] at ended
  obtain ⟨secret, first, created, deployment, second, ensured, service, third, ensuredNext,
    finished⟩ := ended
  cases finished
  simp only [Bool.or_eq_false_iff] at unchanged
  obtain ⟨⟨rfl, kept⟩, keptNext⟩ := unchanged
  rw [isFrugal_ensure.keeps _ _ _ ensuredNext keptNext, isFrugal_ensure.keeps _ _ _ ensured kept,
    keepsStore_createTolerant _ _ _ created rfl]

theorem keepsStore_reconcile : (reconcile context).KeepsStore images (·.progress = .done) := by
  intro store outcome after ended isDone
  simp only [reconcile, runOn_bind_eq_done_iff] at ended
  obtain ⟨image, first, resolved, changed, second, deployed, ended⟩ := ended
  obtain ⟨_, rfl⟩ := runOn_resolve_eq_done_iff.mp resolved
  cases changed with
  | true =>
      simp only [if_true] at ended
      cases ended
      cases isDone
  | false =>
      simp only [Bool.false_eq_true, if_false, runOn_bind_eq_done_iff] at ended
      obtain ⟨live, third, looked, finished⟩ := ended
      cases finished
      rw [keepsStore_get _ _ _ looked trivial, keepsStore_deploy _ _ _ deployed rfl]

theorem keepsStore_cleanup {owner : Owner} : (cleanup owner).KeepsStore images (· = false) := by
  intro store changed after ended unchanged
  simp only [cleanup, runOn_bind_eq_done_iff] at ended
  obtain ⟨secret, first, deletedFirst, deployment, second, deletedSecond, service, third,
    deletedThird, finished⟩ := ended
  cases finished
  simp only [Bool.or_eq_false_iff] at unchanged
  obtain ⟨⟨rfl, rfl⟩, rfl⟩ := unchanged
  rw [keepsStore_deleteIfPresent _ _ _ deletedThird rfl,
    keepsStore_deleteIfPresent _ _ _ deletedSecond rfl,
    keepsStore_deleteIfPresent _ _ _ deletedFirst rfl]

theorem keepsStore_tearDown : (tearDown context).KeepsStore images (·.progress = .done) := by
  intro store outcome after ended isDone
  simp only [tearDown, runOn_bind_eq_done_iff] at ended
  obtain ⟨deleted, first, cleaned, finished⟩ := ended
  cases finished
  have unchanged := Outcome.progress_ofChange_eq_done_iff.mp isDone
  exact keepsStore_cleanup _ _ _ cleaned unchanged

end ScanApi

/-- A pass that is done with a feature has not changed the cluster. -/
theorem keepsStore_run (feature : Feature) :
    (feature.run context).KeepsStore images (·.progress = .done) := by
  rw [Feature.run]
  cases feature with
  | workloads =>
      split
      · exact Workloads.isFrugal_reconcile.keeps
      · exact Workloads.keepsStore_tearDown
  | nodes =>
      split
      · exact Nodes.isFrugal_reconcile.keeps
      · exact Nodes.keepsStore_tearDown
  | admission =>
      split
      · exact Admission.isFrugal_reconcile.keeps
      · exact Admission.keepsStore_tearDown
  | scanApi =>
      split
      · exact ScanApi.keepsStore_reconcile
      · exact ScanApi.keepsStore_tearDown

/-- A pass changes the cluster once at most for a feature that is wanted. The scan API is left out,
since its objects are all brought into place in one pass. -/
theorem isFrugal_run {feature : Feature} (notScanApi : feature ≠ .scanApi)
    (enabled : feature.isEnabled context.spec = true) :
    (feature.run context).IsFrugal images (·.progress = .done) := by
  rw [Feature.run, if_pos enabled]
  cases feature with
  | workloads => exact Workloads.isFrugal_reconcile
  | nodes => exact Nodes.isFrugal_reconcile
  | admission => exact Admission.isFrugal_reconcile
  | scanApi => exact absurd rfl notScanApi

end Pass

end ClusterAudit
