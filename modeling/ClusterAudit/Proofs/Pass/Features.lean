import ClusterAudit.Proofs.Pass.Admission
import ClusterAudit.Proofs.Pass.Nodes
import ClusterAudit.Proofs.Pass.ScanApi
import ClusterAudit.Proofs.Pass.Workloads

/-!
The features of a pass that changes nothing. The pass is done with all of them exactly when each is
as the configuration asks, and then what it reports is fixed by the cluster and by what was reported
before.
-/

namespace ClusterAudit

open Store

namespace Feature

/-- The feature is in place, and a pass reports on it that has read whether the finalizer stands. -/
def Stands (aim : Aim) (guarded : Bool) (store : Store) (feature : Feature)
    (report : ConditionUpdate) : Prop :=
  match feature with
  | workloads => Pass.Workloads.Settled aim store report
  | nodes => Pass.Nodes.Settled aim store report
  | admission => Pass.Admission.Settled aim guarded store report
  | scanApi => Pass.ScanApi.Settled aim store report

/-- A pass finds nothing of the feature that has read whether the finalizer stands. -/
def IsRemoved (owner : Owner) (guarded : Bool) (store : Store) : Feature → Prop
  | workloads => Pass.Workloads.Gone owner store
  | nodes => Pass.Nodes.TornDown owner store
  | admission => Pass.Admission.TornDown owner guarded store
  | scanApi => Pass.ScanApi.Gone owner store

def conditionType : Feature → ConditionType
  | workloads => .workloadScanningDegraded
  | nodes => .nodeScanningDegraded
  | admission => .admissionDegraded
  | scanApi => .scanApiDegraded

/-- What a feature that is switched off reports, if it has ever reported. -/
def reportDisabled (context : PassContext) : Feature → Option ConditionUpdate
  | workloads =>
      context.disabled .workloadScanningDegraded "WorkloadScanningDisabled"
        "Workload scanning is disabled"
  | nodes =>
      context.disabled .nodeScanningDegraded "NodeScanningDisabled" "Node scanning is disabled"
  | admission =>
      context.disabled .admissionDegraded "AdmissionDisabled" "Admission webhook is disabled"
  | scanApi => context.disabled .scanApiDegraded "ScanApiDisabled" "Scan API is disabled"

/-- The feature is as the configuration asks, and a pass gives a report of it. -/
def Settled (context : PassContext) (images : ImageSource) (store : Store) (feature : Feature)
    (report : Option ConditionUpdate) : Prop :=
  let guarded := Pass.Admission.hasFinalizer context.config
  if feature.isEnabled context.spec then
    ∃ update, feature.Stands (context.aim images) guarded store update ∧ report = some update
  else feature.IsRemoved context.owner guarded store ∧ report = feature.reportDisabled context

variable {context : PassContext} {images : ImageSource} {store after : Store}
  {feature : Feature} {outcome : Outcome}

theorem runOn_reconcile_eq_done_iff (quiet : store.faults = []) :
    ((feature.reconcile context).runOn images store = (.done outcome, after) ∧
        outcome.progress = .done) ↔
      (∃ report, feature.Stands (context.aim images) (Pass.Admission.hasFinalizer context.config)
          store report ∧ outcome = .settled report) ∧ after = store := by
  cases feature with
  | workloads => exact Pass.Workloads.runOn_reconcile_eq_done_iff quiet
  | nodes => exact Pass.Nodes.runOn_reconcile_eq_done_iff quiet
  | admission => exact Pass.Admission.runOn_reconcile_eq_done_iff quiet
  | scanApi => exact Pass.ScanApi.runOn_reconcile_eq_done_iff quiet

theorem runOn_tearDown_eq_done_iff (quiet : store.faults = []) :
    ((feature.tearDown context).runOn images store = (.done outcome, after) ∧
        outcome.progress = .done) ↔
      feature.IsRemoved context.owner (Pass.Admission.hasFinalizer context.config) store ∧
        outcome = .ofChange false (feature.reportDisabled context) ∧ after = store := by
  cases feature with
  | workloads => exact Pass.Workloads.runOn_tearDown_eq_done_iff quiet
  | nodes => exact Pass.Nodes.runOn_tearDown_eq_done_iff quiet
  | admission => exact Pass.Admission.runOn_tearDown_eq_done_iff quiet
  | scanApi => exact Pass.ScanApi.runOn_tearDown_eq_done_iff quiet

/-- A pass is done with a feature exactly when it is as the configuration asks. -/
theorem runOn_run_eq_done_iff (quiet : store.faults = []) :
    ((feature.run context).runOn images store = (.done outcome, after) ∧
        outcome.progress = .done) ↔
      (∃ report, feature.Settled context images store report ∧
        outcome = .ofChange false report) ∧ after = store := by
  cases enabled : feature.isEnabled context.spec with
  | true =>
      simp only [run, Settled, enabled, if_true]
      rw [runOn_reconcile_eq_done_iff quiet]
      constructor
      · intro settled
        obtain ⟨⟨report, stands, rfl⟩, same⟩ := settled
        exact ⟨⟨some report, ⟨report, stands, rfl⟩, rfl⟩, same⟩
      · intro settled
        obtain ⟨⟨_, ⟨report, stands, rfl⟩, rfl⟩, same⟩ := settled
        exact ⟨⟨report, stands, rfl⟩, same⟩
  | false =>
      simp only [run, Settled, enabled, Bool.false_eq_true, if_false]
      rw [runOn_tearDown_eq_done_iff quiet]
      constructor
      · intro settled
        obtain ⟨removed, rfl, same⟩ := settled
        exact ⟨⟨_, ⟨removed, rfl⟩, rfl⟩, same⟩
      · intro settled
        obtain ⟨⟨_, ⟨removed, rfl⟩, rfl⟩, same⟩ := settled
        exact ⟨removed, rfl, same⟩

/-- A pass that is done with a feature has not changed the cluster. -/
theorem eq_of_runOn_run_eq_done (quiet : store.faults = [])
    (ended : (feature.run context).runOn images store = (.done outcome, after))
    (isDone : outcome.progress = .done) : after = store :=
  ((runOn_run_eq_done_iff quiet).mp ⟨ended, isDone⟩).2

/-! ## Seen from outside -/

theorem Stands.inPlace {aim : Aim} {guarded : Bool} {home : Key} {report : ConditionUpdate}
    (plain : Selector.isPlain aim.owner.name = true)
    (stands : feature.Stands aim guarded store report)
    (known : Pass.Admission.isGuarded store home = guarded) : feature.InPlace aim home store := by
  cases feature with
  | workloads => exact Pass.Workloads.Settled.inPlace stands
  | nodes => exact Pass.Nodes.Settled.inPlace plain stands
  | admission => exact Pass.Admission.Settled.inPlace stands known
  | scanApi => exact Pass.ScanApi.Settled.inPlace stands

theorem IsRemoved.gone {owner : Owner} {guarded : Bool} {home : Key}
    (plain : Selector.isPlain owner.name = true) (removed : feature.IsRemoved owner guarded store)
    (known : Pass.Admission.isGuarded store home = guarded) : feature.Gone owner home store := by
  cases feature with
  | workloads => exact removed
  | nodes => exact Pass.Nodes.TornDown.gone plain removed
  | admission => exact (Pass.Admission.tornDown_iff_gone known).mp removed
  | scanApi => exact removed

section

variable
  (same : ∀ kind key, kind ≠ .auditConfig → after.find? kind key = store.find? kind key)

include same

theorem Stands.congr {aim : Aim} {guarded : Bool} {report : ConditionUpdate}
    (stands : feature.Stands aim guarded store report) :
    feature.Stands aim guarded after report := by
  cases feature with
  | workloads => exact Pass.Workloads.Settled.congr stands (same _ · nofun) (same _ · nofun)
  | nodes =>
      exact Pass.Nodes.Settled.congr (same _ · nofun) (same _ · nofun) stands (same _ · nofun)
  | admission =>
      exact Pass.Admission.Settled.congr (same _ · nofun) (same _ · nofun) (same _ · nofun) stands
  | scanApi =>
      exact Pass.ScanApi.Settled.congr (same _ · nofun) (same _ · nofun) (same _ · nofun) stands

theorem IsRemoved.congr {owner : Owner} {guarded : Bool}
    (removed : feature.IsRemoved owner guarded store) : feature.IsRemoved owner guarded after := by
  cases feature with
  | workloads => exact Pass.Workloads.Gone.congr removed (same _ · nofun) (same _ · nofun)
  | nodes => exact Pass.Nodes.TornDown.congr (same _ · nofun) (same _ · nofun) removed
  | admission =>
      exact Pass.Admission.TornDown.congr (same _ · nofun) (same _ · nofun) (same _ · nofun)
        removed
  | scanApi =>
      exact Pass.ScanApi.Gone.congr (same _ · nofun) (same _ · nofun) (same _ · nofun) removed

end

end Feature

/-! ## All features -/

/-- Some features are as the configuration asks, and a pass collects their reports. -/
def PassContext.AllSettled (context : PassContext) (images : ImageSource) (store : Store) :
    List Feature → List ConditionUpdate → Prop
  | [], updates => updates = []
  | feature :: rest, updates =>
      ∃ report later, feature.Settled context images store report ∧
        context.AllSettled images store rest later ∧ updates = report.toList ++ later

namespace Pass

variable {context : PassContext} {images : ImageSource} {store after : Store}
  {updates : List ConditionUpdate}

/-- A pass is done with features exactly when all of them are as the configuration asks. -/
theorem runOn_runFeatures_eq_done_iff (quiet : store.faults = []) {features : List Feature} :
    (runFeatures context features).runOn images store = (.done (.done, updates), after) ↔
      context.AllSettled images store features updates ∧ after = store := by
  induction features generalizing updates after with
  | nil => simp [runFeatures, PassContext.AllSettled, runOn, eq_comm]
  | cons feature rest inductionHypothesis =>
      simp only [runFeatures, runOn_bind_eq_done_iff]
      constructor
      · intro finished
        obtain ⟨outcome, first, ended, finished⟩ := finished
        cases progressed : outcome.progress with
        | requeue =>
            simp only [progressed, runOn] at finished
            cases finished
        | done =>
            obtain ⟨⟨report, settled, rfl⟩, rfl⟩ :=
              (Feature.runOn_run_eq_done_iff quiet).mp ⟨ended, progressed⟩
            simp only [progressed, runOn_bind_eq_done_iff] at finished
            obtain ⟨⟨progress, later⟩, second, endedRest, finished⟩ := finished
            cases finished
            obtain ⟨restSettled, rfl⟩ := inductionHypothesis.mp endedRest
            exact ⟨⟨report, later, settled, restSettled, rfl⟩, rfl⟩
      · intro allSettled
        obtain ⟨⟨report, later, settled, restSettled, rfl⟩, rfl⟩ := allSettled
        obtain ⟨ended, progressed⟩ :=
          (Feature.runOn_run_eq_done_iff quiet).mpr ⟨⟨report, settled, rfl⟩, rfl⟩
        refine ⟨_, after, ended, ?_⟩
        simp only [progressed, runOn_bind_eq_done_iff]
        exact ⟨(.done, later), after, inductionHypothesis.mpr ⟨restSettled, rfl⟩, rfl⟩

end Pass

namespace PassContext.AllSettled

variable {context : PassContext} {images : ImageSource} {store : Store}
  {features : List Feature} {updates : List ConditionUpdate}

theorem settled_of_mem (settled : context.AllSettled images store features updates)
    {feature : Feature} (member : feature ∈ features) :
    ∃ report, feature.Settled context images store report := by
  induction features generalizing updates with
  | nil => cases member
  | cons first rest inductionHypothesis =>
      obtain ⟨report, later, firstSettled, restSettled, _⟩ := settled
      cases member with
      | head => exact ⟨report, firstSettled⟩
      | tail _ later => exact inductionHypothesis restSettled later

end PassContext.AllSettled

end ClusterAudit
