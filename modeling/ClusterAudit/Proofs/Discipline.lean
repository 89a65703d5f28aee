import ClusterAudit.Proofs.Pass.Frugal
import ClusterAudit.Proofs.Requeue

/-!
The discipline of passes. In one pass a single feature changes the cluster, the last one that runs;
all before it were done and found nothing to do. The status is written after everything else, and a
pass that fails writes none. Nothing is assumed of the cluster or of the calls: any of them may
fail, with any error.
-/

namespace ClusterAudit

open Store

/-! ## Calls that leave the statuses -/

namespace Call

/-- The call changes no status of a configuration, if the ones that it replaces had the status that
it was made with. -/
def KeepsStatus (status : Option AuditConfigStatus) : Call → Prop
  | .create kind _ _ => kind ≠ .auditConfig
  | .replace .auditConfig _ object => object.status = status
  | .delete kind _ => kind ≠ .auditConfig
  | .patchStatus kind _ _ => kind ≠ .auditConfig
  | _ => True

end Call

namespace Store

variable {store : Store} {key : Key}

variable {status : Option AuditConfigStatus} {stored : Stored .auditConfig}

/-- A configuration that had a status keeps it, and one that had none gets none. -/
theorem exists_status_answer {request : Call} (keeps : request.KeepsStatus status)
    (found : store.find? .auditConfig key = some stored)
    (silent : stored.status = none → status = none) :
    ∃ later, (store.answer request).2.find? .auditConfig key = some later ∧
      later.status = stored.status := by
  by_cases named : ∃ entry,
      request.entry? = some entry ∧ entry.kind = .auditConfig ∧ entry.key = key
  · obtain ⟨entry, written, sameKind, rfl⟩ := named
    cases request with
    | get kind place => cases written
    | list kind namespaceName selector => cases written
    | create kind namespaceName object =>
        cases written
        exact absurd sameKind keeps
    | delete kind place =>
        cases written
        exact absurd sameKind keeps
    | patchStatus kind place patch =>
        cases written
        exact absurd sameKind keeps
    | replace kind place object =>
        cases written
        cases sameKind
        rcases store.replace_cases .auditConfig place object with
          ⟨same, _⟩ | ⟨current, there, enacts⟩
        · rw [same]
          exact ⟨stored, found, rfl⟩
        · cases found.symm.trans there
          refine ⟨_, enacts.here, ?_⟩
          cases reported : stored.status with
          | some json => simp [stampedAt, succeed, reported]
          | none =>
              have objectSilent : object.status = none := keeps.trans (silent reported)
              simp [stampedAt, succeed, reported, Stored.ofObject, Object.inSeconds, objectSilent]
  · exact ⟨stored, (find?_answer_of_elsewhere named).trans found, rfl⟩

end Store

namespace Pass

variable {images : ImageSource} {context : PassContext} {store after : Store} {key : Key}
  {policyName : String} {now : Instant}

theorem exists_status_runOn {Result : Type} {pass : Pass Result} {status : Option AuditConfigStatus}
    {stored : Stored .auditConfig} (keeps : pass.CallsOnly (Call.KeepsStatus status))
    (found : store.find? .auditConfig key = some stored)
    (silent : stored.status = none → status = none) :
    ∃ later, (pass.runOn images store).2.find? .auditConfig key = some later ∧
      later.status = stored.status := by
  induction pass generalizing store stored with
  | done result => exact ⟨stored, found, rfl⟩
  | fail error => exact ⟨stored, found, rfl⟩
  | crash => exact ⟨stored, found, rfl⟩
  | call request next inductionHypothesis =>
      obtain ⟨middle, foundNext, same⟩ := exists_status_answer keeps.1 found silent
      obtain ⟨later, foundLast, sameLast⟩ := inductionHypothesis (store.answer request).1
        (keeps.2 _) foundNext (by rwa [same])
      exact ⟨later, foundLast, sameLast.trans same⟩
  | image request next inductionHypothesis =>
      exact inductionHypothesis (images request) (keeps _) found silent
  | note feature next inductionHypothesis => exact inductionHypothesis keeps found silent

theorem keepsStatus_run (feature : Feature) :
    (feature.run context).CallsOnly (Call.KeepsStatus context.config.status) := by
  apply callsOnly_run
  · intro kind notConfig
    exact {
      get := fun _ => trivial
      list := fun _ _ => trivial
      create := fun _ _ => notConfig
      replace := fun _ _ => by cases kind <;> trivial
      delete := fun _ => notConfig }
  · exact fun _ _ => rfl

/-! ## Features in order -/

/-- Features that run in order on a store: those that were passed are done and have changed nothing,
one more has run, and those left have not. -/
structure RunsUpTo (context : PassContext) (images : ImageSource) (store : Store)
    (features passed : List Feature) (last : Feature) (left : List Feature) : Prop where
  order : features = passed ++ last :: left
  passed : ∀ feature ∈ passed, ∃ outcome,
    (feature.run context).runOn images store = (.done outcome, store) ∧ outcome.progress = .done
  last : ∀ outcome after, (last.run context).runOn images store = (.done outcome, after) →
    outcome.progress = .done → left = [] ∧ after = store

/-- What the features have led to, once the last one that ran has ended. -/
def collect (updates : List ConditionUpdate) (outcome : Outcome) :
    Pass (Progress × List ConditionUpdate) :=
  return (outcome.progress, updates ++ outcome.condition.toList)

section

variable {feature : Feature} {rest : List Feature}

/-- A feature after which no other one runs. -/
theorem runOn_runFeatures_of_last
    (last : ∀ outcome after, (feature.run context).runOn images store = (.done outcome, after) →
      outcome.progress = .done → rest = []) :
    (runFeatures context (feature :: rest)).runOn images store =
      resume images (collect []) ((feature.run context).runOn images store) := by
  rw [runFeatures, runOn_bind]
  cases ran : (feature.run context).runOn images store with
  | mk ending after =>
      cases ending with
      | failed error => rfl
      | crashed => rfl
      | done outcome =>
          cases progressed : outcome.progress with
          | requeue => simp only [resume, progressed, runOn, collect, runOn_pure, List.nil_append]
          | done =>
              obtain rfl := last outcome after ran progressed
              rw [resume, resume, progressed, runOn_bind]
              simp only [runFeatures, runOn, resume, collect, progressed, runOn_pure,
                List.append_nil, List.nil_append]

theorem runOn_runFeatures_of_done {outcome : Outcome}
    (ended : (feature.run context).runOn images store = (.done outcome, store))
    (isDone : outcome.progress = .done) :
    (runFeatures context (feature :: rest)).runOn images store =
      resume images (fun result => (return (result.1, outcome.condition.toList ++ result.2) :
          Pass (Progress × List ConditionUpdate)))
        ((runFeatures context rest).runOn images store) := by
  rw [runFeatures, runOn_bind_of_done ended]
  simp only [isDone, runOn_bind]

end

theorem resume_collect (updates later : List ConditionUpdate) (ran : Ending Outcome × Store) :
    resume images (fun result => (return (result.1, updates ++ result.2) :
        Pass (Progress × List ConditionUpdate))) (resume images (collect later) ran) =
      resume images (collect (updates ++ later)) ran := by
  obtain ⟨ending, after⟩ := ran
  cases ending with
  | failed error => rfl
  | crashed => rfl
  | done outcome => simp only [resume, collect, runOn_pure, List.append_assoc]

/-- Features that run in order run up to the first one that is not done. -/
theorem exists_runsUpTo (context : PassContext) (images : ImageSource) (store : Store)
    (feature : Feature) (rest : List Feature) :
    ∃ passed last left updates,
      RunsUpTo context images store (feature :: rest) passed last left ∧
      (runFeatures context (feature :: rest)).runOn images store =
        resume images (collect updates) ((last.run context).runOn images store) := by
  induction rest generalizing feature with
  | nil =>
      refine ⟨[], feature, [], [], { order := rfl, passed := nofun, last := ?_ }, ?_⟩
      · intro outcome after ended isDone
        exact ⟨rfl, keepsStore_run feature _ _ _ ended isDone⟩
      · exact runOn_runFeatures_of_last fun _ _ _ _ => rfl
  | cons next rest inductionHypothesis =>
      by_cases goesOn : ∃ outcome after,
          (feature.run context).runOn images store = (.done outcome, after) ∧
            outcome.progress = .done
      · obtain ⟨outcome, after, ended, isDone⟩ := goesOn
        obtain rfl := keepsStore_run feature _ _ _ ended isDone
        obtain ⟨passed, last, left, updates, runsUpTo, ran⟩ := inductionHypothesis next
        refine ⟨feature :: passed, last, left, outcome.condition.toList ++ updates, {
          order := by rw [runsUpTo.order, List.cons_append]
          passed := List.forall_mem_cons.mpr ⟨⟨outcome, ended, isDone⟩, runsUpTo.passed⟩
          last := runsUpTo.last }, ?_⟩
        rw [runOn_runFeatures_of_done ended isDone, ran, resume_collect]
      · refine ⟨[], feature, next :: rest, [],
          { order := rfl, passed := nofun, last := ?_ }, ?_⟩
        · intro outcome after ended isDone
          exact absurd ⟨outcome, after, ended, isDone⟩ goesOn
        · apply runOn_runFeatures_of_last
          intro outcome after ended isDone
          exact absurd ⟨outcome, after, ended, isDone⟩ goesOn

/-! ## Before and after the features -/

/-- What a pass does once the last of its features has ended. -/
def report (context : PassContext) (updates : List ConditionUpdate) (outcome : Outcome) :
    Pass Progress := do
  persistStatus context (updates ++ outcome.condition.toList)
  return outcome.progress

/-- The status is written with one call, or nothing is changed. -/
theorem runOn_persistStatus_cases (context : PassContext) (updates : List ConditionUpdate)
    (images : ImageSource) (store : Store) :
    (∃ error, (persistStatus context updates).runOn images store = (.failed error, store)) ∨
      ∃ after reports, (persistStatus context updates).runOn images store = (.done (), after) ∧
        Logs store after reports ∧
        (reports = [] ∨ reports =
          [{ verb := .patchStatus, kind := .auditConfig, key := context.key context.name }]) := by
  rw [persistStatus, list, runOn_bind]
  rcases runOn_ask_cases (.list .pod context.namespaceName (context.selector .workloads)) images
    store with ⟨pods, middle, answered, ran⟩ | ⟨error, middle, answered, ran⟩
  · obtain rfl : store = middle := congrArg Prod.snd answered
    rw [ran, resume]
    by_cases kept : nextStatus context updates pods = context.config.status.getD {}
    · rw [if_pos kept]
      exact Or.inr ⟨store, [], rfl, .refl, Or.inl rfl⟩
    · rw [if_neg kept, patchStatus]
      rcases runOn_ask_cases (.patchStatus .auditConfig (context.key context.name)
        (nextStatus context updates pods).toJson) images store with
        ⟨reply, after, patched, ranNext⟩ | ⟨error, after, patched, ranNext⟩
      · exact Or.inr ⟨after, _, ranNext, logs_of_answer_ok rfl patched, Or.inr rfl⟩
      · obtain rfl : after = store := eq_of_patchStatus_eq_error patched
        exact Or.inl ⟨_, ranNext⟩
  · obtain rfl : store = middle := congrArg Prod.snd answered
    rw [ran]
    exact Or.inl ⟨_, rfl⟩

theorem runOn_report_cases (context : PassContext) (updates : List ConditionUpdate)
    (outcome : Outcome) (images : ImageSource) (store : Store) :
    (∃ error, (report context updates outcome).runOn images store = (.failed error, store)) ∨
      ∃ after reports,
        (report context updates outcome).runOn images store = (.done outcome.progress, after) ∧
        Logs store after reports ∧
        (reports = [] ∨ reports =
          [{ verb := .patchStatus, kind := .auditConfig, key := context.key context.name }]) := by
  rw [report, runOn_bind]
  rcases runOn_persistStatus_cases context (updates ++ outcome.condition.toList) images store with
    ⟨error, ran⟩ | ⟨after, reports, ran, logs, few⟩
  · rw [ran]
    exact Or.inl ⟨error, rfl⟩
  · rw [ran]
    exact Or.inr ⟨after, reports, rfl, logs, few⟩

theorem runOn_operatorPolicy_cases (policyName : String) (images : ImageSource) (store : Store) :
    (∃ error, (operatorPolicy policyName).runOn images store = (.failed error, store)) ∨
      (operatorPolicy policyName).runOn images store =
        (.done (store.policy policyName), store) := by
  rw [operatorPolicy, get, runOn_bind]
  rcases runOn_ask_cases (.get .operatorConfig (Key.ofCluster policyName)) images store with
    ⟨found, middle, answered, ran⟩ | ⟨error, middle, answered, ran⟩
  · obtain rfl : store = middle := congrArg Prod.snd answered
    have looked : store.get .operatorConfig (Key.ofCluster policyName) = .ok found :=
      congrArg Prod.fst answered
    right
    rw [ran, resume]
    cases found with
    | none =>
        rw [Store.policy, stored?, find?_of_get looked]
        rfl
    | some policy =>
        rw [Store.policy, stored?_of_get looked]
        rfl
  · obtain rfl : store = middle := congrArg Prod.snd answered
    rw [ran]
    exact Or.inl ⟨_, rfl⟩

/-- A pass ends before its features, or runs them and writes its report. -/
theorem reconcile_cases (images : ImageSource) (policyName : String) (now : Instant)
    (stays : ∀ stored, store.find? .auditConfig key = some stored →
      stored.metadata.deletionTimestamp = none) :
    (∃ ending, store.reconcile images policyName key now = (ending, store.drawn)) ∨
      ∃ config owner, store.stored? .auditConfig key = some config ∧
        Owner.of config = .ok owner ∧
        store.reconcile images policyName key now =
          (runFeatures (store.context policyName config owner now) Feature.all >>= fun result => do
            persistStatus (store.context policyName config owner now) result.2
            return result.1 : Pass Progress).runOn images store.drawn := by
  have started : store.reconcile images policyName key now =
      (reconcile policyName key now store.freshIdentifier.1).runOn images store.drawn := rfl
  rw [started, reconcile, get, runOn_bind]
  rcases runOn_ask_cases (.get .auditConfig key) images store.drawn with
    ⟨found, middle, answered, ran⟩ | ⟨error, middle, answered, ran⟩
  · obtain rfl : store.drawn = middle := congrArg Prod.snd answered
    rw [ran, resume]
    cases found with
    | none => exact Or.inl ⟨_, rfl⟩
    | some config =>
        have current : store.stored? .auditConfig key = some config :=
          stored?_of_get (congrArg Prod.fst answered)
        obtain ⟨stored, found, read⟩ := exists_find?_of_stored? current
        have stays : config.metadata.deletionTimestamp = none := by
          rw [Stored.metadata_of_read? read]
          exact stays stored found
        simp only [stays, Option.isSome_none, Bool.false_eq_true, if_false]
        rw [reconcileFeatures, runOn_bind]
        rcases runOn_operatorPolicy_cases policyName images store.drawn with ⟨error, ran⟩ | ran
        · rw [ran]
          exact Or.inl ⟨_, rfl⟩
        · rw [ran, resume, runOn_bind]
          cases owned : Owner.of config with
          | error cause => exact Or.inl ⟨_, rfl⟩
          | ok owner => exact Or.inr ⟨config, owner, current, owned, rfl⟩
  · obtain rfl : store.drawn = middle := congrArg Prod.snd answered
    rw [ran]
    exact Or.inl ⟨_, rfl⟩

/-! ## Whole passes -/

theorem resume_resume {First Second Third : Type} (second : First → Pass Second)
    (third : Second → Pass Third) (ran : Ending First × Store) :
    resume images third (resume images second ran) =
      resume images (fun value => second value >>= third) ran := by
  obtain ⟨ending, after⟩ := ran
  cases ending with
  | failed error => rfl
  | crashed => rfl
  | done value => exact (runOn_bind _ _ _).symm

/-- A pass runs its features up to the first one that is not done, and then writes its report. -/
theorem exists_runsUpTo_all (context : PassContext) (images : ImageSource) (store : Store) :
    ∃ passed last left updates, RunsUpTo context images store Feature.all passed last left ∧
      (runFeatures context Feature.all >>= fun result => do
        persistStatus context result.2
        return result.1 : Pass Progress).runOn images store =
        resume images (report context updates) ((last.run context).runOn images store) := by
  obtain ⟨passed, last, left, updates, runsUpTo, ran⟩ :=
    exists_runsUpTo context images store .workloads [.nodes, .admission, .scanApi]
  refine ⟨passed, last, left, updates, runsUpTo, ?_⟩
  rw [Feature.all, runOn_bind, ran, resume_resume]
  rfl

/-- If the call leaves an entry in the log, it created, replaced or deleted an object. -/
def ChangesObjects (request : Call) : Prop :=
  ∀ entry, request.entry? = some entry → entry.IsChange

theorem changesObjects_run (feature : Feature) :
    (feature.run context).CallsOnly ChangesObjects := by
  apply callsOnly_run
  · intro kind _
    exact {
      get := fun _ => nofun
      list := fun _ _ => nofun
      create := by
        rintro _ _ _ ⟨⟩
        exact Or.inl rfl
      replace := by
        rintro _ _ _ ⟨⟩
        exact Or.inr (Or.inl rfl)
      delete := by
        rintro _ _ ⟨⟩
        exact Or.inr (Or.inr rfl) }
  · rintro _ _ _ ⟨⟩
    exact Or.inr (Or.inl rfl)

/-- What the features of a pass have done to a store: one of them, the last one that ran, has made
all the changes, and the pass has then ended or gone on with its report. -/
structure Course (context : PassContext) (images : ImageSource) (store : Store)
    (passed : List Feature) (last : Feature) (left : List Feature) (changes : List LogEntry)
    (ran : Ending Progress × Store) : Prop where
  upTo : RunsUpTo context images store Feature.all passed last left
  ran : ∃ updates,
    ran = resume images (report context updates) ((last.run context).runOn images store)
  log : ((last.run context).runOn images store).2.log = store.log ++ changes
  areChanges : ∀ entry ∈ changes, entry.IsChange
  once : last.isEnabled context.spec = true → last ≠ .scanApi → changes.length ≤ 1

theorem exists_course (context : PassContext) (images : ImageSource) (store : Store) :
    ∃ passed last left changes,
      Course context images store passed last left changes
        ((runFeatures context Feature.all >>= fun result => do
          persistStatus context result.2
          return result.1 : Pass Progress).runOn images store) := by
  obtain ⟨passed, last, left, updates, upTo, ran⟩ := exists_runsUpTo_all context images store
  obtain ⟨changes, logs, written⟩ := ((changesObjects_run last).runsOnly store).exists_logs
  refine ⟨passed, last, left, changes, {
    upTo
    ran := ⟨updates, ran⟩
    log := logs.log
    areChanges := ?_
    once := ?_ }⟩
  · intro entry member
    obtain ⟨request, allowed, isEntry⟩ := written entry member
    exact allowed entry isEntry
  · intro enabled notScanApi
    obtain ⟨entries, log, few⟩ := (isFrugal_run notScanApi enabled).once store
    have same : changes = entries := List.append_cancel_left (logs.log.symm.trans log)
    rw [same]
    exact few

section

variable {passed left : List Feature} {last : Feature} {changes : List LogEntry}
  (course : Course context images store passed last left changes (.done .done, after))

include course

/-- The last feature of a pass that is done is done and has changed nothing. -/
theorem Course.exists_report_of_done :
    ∃ updates outcome, (last.run context).runOn images store = (.done outcome, store) ∧
      outcome.progress = .done ∧ left = [] ∧
      (report context updates outcome).runOn images store = (.done .done, after) := by
  obtain ⟨updates, ran⟩ := course.ran
  cases ranLast : (last.run context).runOn images store with
  | mk ending middle =>
      rw [ranLast] at ran
      cases ending with
      | failed error => cases ran
      | crashed => cases ran
      | done outcome =>
          rw [resume] at ran
          have isDone : outcome.progress = .done := by
            rcases runOn_report_cases context updates outcome images middle with
              ⟨error, reported⟩ | ⟨_, _, reported, _⟩
            · cases ran.trans reported
            · exact (Ending.done.inj (congrArg Prod.fst (ran.trans reported))).symm
          obtain ⟨nothingLeft, rfl⟩ := course.upTo.last outcome middle ranLast isDone
          exact ⟨updates, outcome, rfl, isDone, nothingLeft, ran.symm⟩

theorem Course.run_of_done (feature : Feature) :
    ∃ outcome, (feature.run context).runOn images store = (.done outcome, store) ∧
      outcome.progress = .done := by
  obtain ⟨updates, outcome, ranLast, isDone, rfl, _⟩ := course.exists_report_of_done
  have member : feature ∈ passed ++ [last] := course.upTo.order ▸ feature.mem_all
  rcases List.mem_append.mp member with before | here
  · exact course.upTo.passed feature before
  · obtain rfl := List.mem_singleton.mp here
    exact ⟨outcome, ranLast, isDone⟩

/-- A pass that is done has changed nothing but the status of a configuration. -/
theorem Course.find?_of_done {kind : Kind} (notConfig : kind ≠ .auditConfig) (place : Key) :
    after.find? kind place = store.find? kind place := by
  obtain ⟨updates, outcome, _, _, _, reported⟩ := course.exists_report_of_done
  rcases runOn_report_cases context updates outcome images store with
    ⟨error, failed⟩ | ⟨_, reports, ended, logs, few⟩
  · cases reported.symm.trans failed
  · obtain rfl : after = _ := congrArg Prod.snd (reported.symm.trans ended)
    apply logs.elsewhere
    rintro entry member ⟨sameKind, _⟩
    rcases few with rfl | rfl
    · cases member
    · cases List.mem_singleton.mp member
      exact notConfig sameKind.symm

end

end Pass

/-- What a pass over the configuration at a place has written to the log: the changes that were made
for its features, and then its report, unless the pass failed. -/
structure Store.IsOrderly (store : Store) (key : Key) (changes reports : List LogEntry)
    (ending : Ending Progress) (after : Store) : Prop where
  log : after.log = store.log ++ changes ++ reports
  reports : reports = [] ∨
    (∃ progress, ending = .done progress) ∧
    ∃ place, reports = [{ verb := .patchStatus, kind := .auditConfig, key := place }]
  status : (∀ progress, ending ≠ .done progress) →
    (after.find? .auditConfig key).map Stored.status =
      (store.find? .auditConfig key).map Stored.status

theorem Pass.Course.exists_isOrderly {context : PassContext} {images : ImageSource}
    {store after : Store} {passed left : List Feature} {last : Feature} {changes : List LogEntry}
    {ending : Ending Progress} {key : Key} {stored : Stored .auditConfig}
    (course : Course context images store passed last left changes (ending, after))
    (found : store.find? .auditConfig key = some stored)
    (silent : stored.status = none → context.config.status = none) :
    ∃ reports, store.IsOrderly key changes reports ending after := by
  obtain ⟨updates, ran⟩ := course.ran
  have keeps : (last.run context).CallsOnly (Call.KeepsStatus context.config.status) :=
    keepsStatus_run last
  obtain ⟨later, foundLater, sameStatus⟩ :
      ∃ later, ((last.run context).runOn images store).2.find? .auditConfig key = some later ∧
        later.status = stored.status := exists_status_runOn keeps found silent
  have log := course.log
  cases ranLast : (last.run context).runOn images store with
  | mk endingLast middle =>
      rw [ranLast] at ran foundLater log
      have kept : (middle.find? .auditConfig key).map Stored.status =
          (store.find? .auditConfig key).map Stored.status := by
        rw [foundLater, found, Option.map_some, Option.map_some, sameStatus]
      have unreported : middle.log = store.log ++ changes ++ [] := by rw [log, List.append_nil]
      cases endingLast with
      | failed error =>
          cases ran
          exact ⟨[], { log := unreported, reports := Or.inl rfl, status := fun _ => kept }⟩
      | crashed =>
          cases ran
          exact ⟨[], { log := unreported, reports := Or.inl rfl, status := fun _ => kept }⟩
      | done outcome =>
          rw [resume] at ran
          rcases runOn_report_cases context updates outcome images middle with
            ⟨error, reported⟩ | ⟨_, reports, reported, logs, few⟩
          · cases ran.trans reported
            exact ⟨[], { log := unreported, reports := Or.inl rfl, status := fun _ => kept }⟩
          · cases ran.trans reported
            refine ⟨reports, {
              log := by rw [logs.log, log]
              reports := few.imp id fun one => ⟨⟨_, rfl⟩, _, one⟩
              status := fun failed => absurd rfl (failed _) }⟩

/-- Whatever the cluster holds and whichever calls fail, a pass over a configuration that stays
makes all its changes in one feature, after which it writes its report at most. -/
theorem isOrderly_reconcile {store after : Store} {images : ImageSource} {policyName : String}
    {key : Key} {now : Instant} {ending : Ending Progress}
    (stays : ∀ stored, store.find? .auditConfig key = some stored →
      stored.metadata.deletionTimestamp = none)
    (ran : store.reconcile images policyName key now = (ending, after)) :
    ∃ changes reports, store.IsOrderly key changes reports ending after ∧
      (after = store.drawn ∨
        ∃ config owner passed last left,
          store.stored? .auditConfig key = some config ∧ Owner.of config = .ok owner ∧
          Pass.Course (store.context policyName config owner now) images store.drawn passed last
            left changes (ending, after)) := by
  rcases Pass.reconcile_cases images policyName now stays with
    ⟨early, ended⟩ | ⟨config, owner, current, owned, features⟩
  · cases ran.symm.trans ended
    refine ⟨[], [], { log := ?_, reports := Or.inl rfl, status := fun _ => rfl }, Or.inl rfl⟩
    simp [drawn, freshIdentifier]
  · obtain ⟨passed, last, left, changes, course⟩ :=
      Pass.exists_course (store.context policyName config owner now) images store.drawn
    rw [← features, ran] at course
    obtain ⟨stored, found, read⟩ := exists_find?_of_stored? current
    have foundDrawn : store.drawn.find? .auditConfig key = some stored := found
    have silent : stored.status = none → config.status = none := by
      intro unreported
      rw [Stored.read?_of_no_status unreported] at read
      cases read
      rfl
    obtain ⟨reports, orderly⟩ := course.exists_isOrderly foundDrawn silent
    exact ⟨changes, reports,
      { log := orderly.log, reports := orderly.reports, status := orderly.status },
      Or.inr ⟨config, owner, passed, last, left, current, owned, course⟩⟩

/-- After a pass that is done, all features are done with the store that it has met, and nothing but
the status of a configuration has changed. -/
theorem done_of_reconcile_done {store after : Store} {images : ImageSource} {policyName : String}
    {key : Key} {config : AuditConfig} {owner : Owner} {now : Instant}
    (quiet : store.faults = []) (current : store.stored? .auditConfig key = some config)
    (stays : config.metadata.deletionTimestamp = none) (owned : Owner.of config = .ok owner)
    (finished : store.reconcile images policyName key now = (.done .done, after)) :
    (∀ feature : Feature, ∃ outcome,
      (feature.run (store.context policyName config owner now)).runOn images store.drawn =
        (.done outcome, store.drawn) ∧ outcome.progress = .done) ∧
    ∀ kind place, kind ≠ .auditConfig → after.find? kind place = store.find? kind place := by
  obtain ⟨passed, last, left, changes, course⟩ :=
    Pass.exists_course (store.context policyName config owner now) images store.drawn
  have identified : (Pass.configured (Owner.of config)).runOn images store.drawn =
      (.done owner, store.drawn) :=
    Pass.runOn_configured_eq_done_iff.mpr ⟨owned, rfl⟩
  rw [Pass.reconcile_of_stays quiet current stays, Pass.runOn_bind_of_done identified] at finished
  have course := finished ▸ course
  exact ⟨course.run_of_done, fun kind place notConfig => course.find?_of_done notConfig place⟩

/-- A fresh cluster whose pods cannot be listed. -/
def unlistedCluster : Store :=
  freshCluster.withFault { verb := .list, kind := .pod, error := .api 503 "unavailable" }

def unlistedPass : Ending Progress × Store :=
  unlistedCluster.reconcile (fun _ => .ok "image") "default" bareOwner.configKey
    { seconds := 0, nanos := 0 }

/-- The first pass over it makes an inventory and then fails, and it has written no report. -/
theorem isOrderly_unlistedCluster :
    unlistedPass.1 = .failed (.cluster (.api 503 "unavailable")) ∧
    ∃ changes reports,
      unlistedCluster.IsOrderly bareOwner.configKey changes reports unlistedPass.1
        unlistedPass.2 ∧
      changes ++ reports = [{
        verb := .create
        kind := .configMap
        key := bareOwner.key (Naming.workloadConfigMap bareOwner.name) }] := by
  have stays : ∀ stored, unlistedCluster.find? .auditConfig bareOwner.configKey = some stored →
      stored.metadata.deletionTimestamp = none := by
    intro stored found
    cases found
    rfl
  have ran : unlistedCluster.reconcile (fun _ => .ok "image") "default" bareOwner.configKey
      { seconds := 0, nanos := 0 } = (unlistedPass.1, unlistedPass.2) := rfl
  obtain ⟨changes, reports, orderly, _⟩ := isOrderly_reconcile stays ran
  refine ⟨by decide +kernel, changes, reports, orderly, ?_⟩
  have log : unlistedPass.2.log = [{
      verb := .create
      kind := .configMap
      key := bareOwner.key (Naming.workloadConfigMap bareOwner.name) }] := by decide +kernel
  rw [orderly.log] at log
  exact log

end ClusterAudit
