import ClusterAudit.Proofs.Pass.Reconcile
import ClusterAudit.Proofs.Work.Admission
import ClusterAudit.Proofs.Work.Nodes
import ClusterAudit.Proofs.Work.ScanApi
import ClusterAudit.Proofs.Work.Workloads

/-!
The work of all features. Each feature keeps to objects of its own, so that what one of them does
leaves the work of the others as it was.
-/

namespace ClusterAudit

open Store

theorem Owner.key_ne_key {owner : Owner} {left right : String} (different : left ≠ right) :
    owner.key (owner.name ++ left) ≠ owner.key (owner.name ++ right) := by
  intro same
  exact Naming.append_ne_append different (congrArg Key.name same)

theorem Owner.key_ne_configKey {owner : Owner} {ending : String} (filled : ending ≠ "") :
    owner.key (owner.name ++ ending) ≠ owner.configKey := by
  intro same
  exact Naming.ne_append filled (congrArg Key.name same.symm)

namespace Feature

variable {aim : Aim} {owner : Owner} {store after : Store} {feature other : Feature} {kind : Kind}
  {key : Key}

/-! ## Objects of a feature -/

/-- The objects that a feature works with. -/
def IsHome (owner : Owner) : Feature → Kind → Key → Prop
  | workloads => Pass.Workloads.IsHome owner
  | nodes => Pass.Nodes.IsHome owner
  | admission => Pass.Admission.IsHome owner
  | scanApi => Pass.ScanApi.IsHome owner

theorem eq_of_isHome_deployment (inFeature : feature.IsHome owner .deployment key)
    (inOther : other.IsHome owner .deployment key) : feature = other := by
  have webhookKey : owner.key (Naming.webhookDeployment owner.name) ≠
      owner.key (Naming.scanApi owner.name) := Owner.key_ne_key (by decide)
  have scanner : ∀ {ending : String}, ending ≠ "" → ending ≠ "-workload" →
      ¬ Pass.Workloads.IsHome owner .deployment (owner.key (owner.name ++ ending)) := by
    intro ending filled different inside
    rcases inside with isCurrent | isLegacy
    · exact Owner.key_ne_key different isCurrent
    · exact Owner.key_ne_configKey filled isLegacy
  have server : ¬ Pass.Workloads.IsHome owner .deployment
      (owner.key (Naming.webhookDeployment owner.name)) := scanner (by decide) (by decide)
  have api : ¬ Pass.Workloads.IsHome owner .deployment
      (owner.key (Naming.scanApi owner.name)) := scanner (by decide) (by decide)
  cases feature with
  | nodes => exact inFeature.elim
  | workloads =>
      cases other with
      | workloads => rfl
      | nodes => exact inOther.elim
      | admission =>
          cases inOther
          exact absurd inFeature server
      | scanApi =>
          cases inOther
          exact absurd inFeature api
  | admission =>
      cases inFeature
      cases other with
      | workloads => exact absurd inOther server
      | nodes => exact inOther.elim
      | admission => rfl
      | scanApi => exact absurd inOther webhookKey
  | scanApi =>
      cases inFeature
      cases other with
      | workloads => exact absurd inOther api
      | nodes => exact inOther.elim
      | admission => exact absurd inOther webhookKey.symm
      | scanApi => rfl

/-- No object belongs to two features. -/
theorem eq_of_isHome (inFeature : feature.IsHome owner kind key)
    (inOther : other.IsHome owner kind key) : feature = other := by
  cases kind with
  | deployment => exact eq_of_isHome_deployment inFeature inOther
  | configMap =>
      cases feature <;> cases other <;>
        first
          | rfl
          | exact inFeature.elim
          | exact inOther.elim
          | exact absurd (inFeature.symm.trans inOther) (Owner.key_ne_key (by decide))
  | service =>
      cases feature <;> cases other <;>
        first
          | rfl
          | exact inFeature.elim
          | exact inOther.elim
          | exact absurd (inFeature.symm.trans inOther) (Owner.key_ne_key (by decide))
  | _ =>
      cases feature <;> cases other <;>
        first
          | rfl
          | exact inFeature.elim
          | exact inOther.elim

/-- Policies and pods belong to no feature. -/
theorem not_isHome_operatorConfig : ¬ feature.IsHome owner .operatorConfig key := by
  cases feature <;> exact id

theorem not_isHome_pod : ¬ feature.IsHome owner .pod key := by
  cases feature <;> exact id

/-! ## Work of a feature -/

def request (aim : Aim) : Feature → ImageRequest
  | workloads => Pass.Workloads.request aim
  | nodes => Pass.Nodes.request aim
  | admission => Pass.Admission.request aim
  | scanApi => Pass.ScanApi.request aim

/-- Nothing of a feature is left. -/
def isGone (owner : Owner) (store : Store) : Feature → Bool
  | workloads => Pass.Workloads.isGone owner store
  | nodes => Pass.Nodes.isGone owner store
  | admission => Pass.Admission.isGone owner store
  | scanApi => Pass.ScanApi.isGone owner store

/-- The number of passes that bring a feature into place. -/
def effort (aim : Aim) (store : Store) : Feature → Nat
  | workloads => Pass.Workloads.work aim store
  | nodes => Pass.Nodes.work aim store
  | admission => Pass.Admission.work aim store
  | scanApi => outstanding (Pass.ScanApi.isComplete aim store)

/-- The number of passes that bring a feature to what is asked of it. -/
def work (aim : Aim) (feature : Feature) (store : Store) : Nat :=
  if feature.isEnabled aim.spec then feature.effort aim store
  else outstanding (feature.isGone aim.owner store)

/-- A pass can bring a feature into place. -/
def Accepts (aim : Aim) (store : Store) : Feature → Prop
  | workloads => Pass.Workloads.Fits aim store
  | nodes => Pass.Nodes.Accepts aim store
  | admission => Pass.Admission.Accepts aim store
  | scanApi => Pass.ScanApi.Fits aim store

/-- A pass can remove a feature. -/
def Releases (aim : Aim) (store : Store) : Feature → Prop
  | workloads => True
  | nodes => Pass.Nodes.AreReadable aim.owner store
  | admission => aim.IsCurrent store
  | scanApi => True

/-- A pass can bring a feature to what is asked of it. -/
def Fits (aim : Aim) (feature : Feature) (store : Store) : Prop :=
  if feature.isEnabled aim.spec then feature.Accepts aim store else feature.Releases aim store

theorem Fits.accepts (fits : feature.Fits aim store) (enabled : feature.isEnabled aim.spec = true) :
    feature.Accepts aim store := by
  rw [Fits, if_pos enabled] at fits
  exact fits

theorem Fits.releases (fits : feature.Fits aim store)
    (disabled : feature.isEnabled aim.spec = false) : feature.Releases aim store := by
  rw [Fits, if_neg (Bool.eq_false_iff.mp disabled)] at fits
  exact fits

/-- Two stores hold the same of a feature. The status of the configuration belongs to none. -/
structure Agrees (aim : Aim) (feature : Feature) (before after : Store) : Prop where
  same : ∀ kind key, kind ≠ .auditConfig → feature.IsHome aim.owner kind key →
    after.find? kind key = before.find? kind key
  guard : feature = admission →
    Pass.Admission.isGuarded after aim.owner.configKey =
      Pass.Admission.isGuarded before aim.owner.configKey
  current : feature = admission → aim.IsCurrent before → aim.IsCurrent after

theorem Agrees.ofSame (same : ∀ kind key, feature.IsHome aim.owner kind key →
    after.find? kind key = store.find? kind key) : feature.Agrees aim store after where
  same kind key _ inside := same kind key inside
  guard := by
    intro isAdmission
    subst isAdmission
    rw [Pass.Admission.isGuarded, Pass.Admission.isGuarded, same .auditConfig _ rfl]
  current := by
    intro isAdmission current
    subst isAdmission
    obtain ⟨config, present, isOf⟩ := current
    exact ⟨config, (stored?_congr (same .auditConfig _ rfl)).trans present, isOf⟩

theorem Agrees.ofDiffersInStatus (differs : DiffersInStatus store after aim.owner.configKey)
    (currentBefore : aim.IsCurrent store) (currentAfter : aim.IsCurrent after) :
    feature.Agrees aim store after where
  same kind key different _ := differs.otherKind different key
  guard := by
    intro _
    obtain ⟨config, present, _⟩ := currentBefore
    obtain ⟨stored, found, _⟩ := exists_find?_of_stored? present
    exact differs.isGuarded found
  current _ _ := currentAfter

/-- All objects of a feature are the same, unless the configuration is one of them. -/
theorem Agrees.all (agrees : feature.Agrees aim store after) (different : feature ≠ admission)
    (kind : Kind) (key : Key) (inside : feature.IsHome aim.owner kind key) :
    after.find? kind key = store.find? kind key := by
  apply agrees.same kind key _ inside
  intro isConfig
  subst isConfig
  cases feature with
  | workloads => exact inside.elim
  | nodes => exact inside.elim
  | admission => exact different rfl
  | scanApi => exact inside.elim

/-- The configuration is as it is asked for, whether the webhook is wanted or not. -/
theorem isCurrent_of_fits (fits : admission.Fits aim store) : aim.IsCurrent store := by
  cases enabled : admission.isEnabled aim.spec with
  | true => exact Pass.Admission.Accepts.current (fits.accepts enabled)
  | false => exact fits.releases enabled

section Congruence

variable (agrees : feature.Agrees aim store after)

include agrees

theorem effort_congr : feature.effort aim after = feature.effort aim store := by
  cases feature with
  | workloads => exact Pass.Workloads.work_congr (agrees.all nofun)
  | nodes => exact Pass.Nodes.work_congr (agrees.all nofun)
  | admission => exact Pass.Admission.work_congr agrees.same (agrees.guard rfl)
  | scanApi => exact congrArg outstanding (Pass.ScanApi.isComplete_congr (agrees.all nofun))

theorem isGone_congr : feature.isGone aim.owner after = feature.isGone aim.owner store := by
  cases feature with
  | workloads => exact Pass.Workloads.isGone_congr (agrees.all nofun)
  | nodes => exact Pass.Nodes.isGone_congr (agrees.all nofun)
  | admission => exact Pass.Admission.isGone_congr agrees.same (agrees.guard rfl)
  | scanApi => exact Pass.ScanApi.isGone_congr (agrees.all nofun)

theorem work_congr : feature.work aim after = feature.work aim store := by
  rw [work, work, effort_congr agrees, isGone_congr agrees]

theorem Fits.congr (fits : feature.Fits aim store) : feature.Fits aim after := by
  cases enabled : feature.isEnabled aim.spec with
  | true =>
      have accepts := fits.accepts enabled
      rw [Fits, if_pos enabled]
      cases feature with
      | workloads => exact Pass.Workloads.Fits.congr (agrees.all nofun) accepts
      | nodes => exact Pass.Nodes.Accepts.congr (agrees.all nofun) accepts
      | admission =>
          have current := Pass.Admission.Accepts.current accepts
          exact Pass.Admission.Accepts.congr agrees.same accepts (agrees.current rfl current)
      | scanApi => exact Pass.ScanApi.Fits.congr (agrees.all nofun) accepts
  | false =>
      have releases := fits.releases enabled
      rw [Fits, if_neg (Bool.eq_false_iff.mp enabled)]
      cases feature with
      | workloads => exact trivial
      | nodes => exact Pass.Nodes.areReadable_congr (agrees.all nofun) releases
      | admission => exact agrees.current rfl releases
      | scanApi => exact trivial

end Congruence

/-! ## A feature in a pass -/

section

variable {context : PassContext} {images : ImageSource} (quiet : store.faults = [])
  (plain : Selector.isPlain context.name = true)
  (current : store.stored? .auditConfig context.owner.configKey = some context.config)
  (isOf : (context.aim images).IsOf context.config)

include quiet plain current isOf

theorem proceeds_reconcile
    (resolves : ∃ image, (context.aim images).images (feature.request (context.aim images)) =
      .ok image)
    (accepts : feature.Accepts (context.aim images) store) :
    Pass.Proceeds (feature.IsHome context.owner)
      (fun after => feature.Accepts (context.aim images) after)
      (fun after => feature.effort (context.aim images) after) store
      ((feature.reconcile context).runOn images store) := by
  cases feature with
  | workloads => exact Pass.Workloads.proceeds_reconcile quiet resolves accepts
  | nodes => exact Pass.Nodes.proceeds_reconcile quiet plain resolves accepts
  | admission => exact Pass.Admission.proceeds_reconcile quiet resolves current isOf accepts
  | scanApi => exact Pass.ScanApi.proceeds_reconcile quiet resolves accepts

theorem proceeds_tearDown (releases : feature.Releases (context.aim images) store) :
    Pass.Proceeds (feature.IsHome context.owner)
      (fun after => feature.Releases (context.aim images) after)
      (fun after => outstanding (feature.isGone context.owner after)) store
      ((feature.tearDown context).runOn images store) := by
  cases feature with
  | workloads => exact Pass.Workloads.proceeds_tearDown quiet
  | nodes => exact Pass.Nodes.proceeds_tearDown quiet plain releases
  | admission => exact Pass.Admission.proceeds_tearDown quiet current isOf
  | scanApi => exact Pass.ScanApi.proceeds_tearDown quiet

/-- A pass over a feature goes through, and leaves less to do if it did anything. -/
theorem proceeds_run
    (resolves : feature.isEnabled context.spec = true →
      ∃ image, (context.aim images).images (feature.request (context.aim images)) = .ok image)
    (fits : feature.Fits (context.aim images) store) :
    Pass.Proceeds (feature.IsHome context.owner) (feature.Fits (context.aim images))
      (feature.work (context.aim images)) store ((feature.run context).runOn images store) := by
  cases enabled : feature.isEnabled context.spec with
  | true =>
      have asked : feature.isEnabled (context.aim images).spec = true := enabled
      have sameFits : feature.Fits (context.aim images) =
          fun after => feature.Accepts (context.aim images) after := by
        funext after
        rw [Fits, if_pos asked]
      have sameWork : feature.work (context.aim images) =
          fun after => feature.effort (context.aim images) after := by
        funext after
        rw [work, if_pos asked]
      rw [run, if_pos enabled, sameFits, sameWork]
      exact proceeds_reconcile quiet plain current isOf (resolves enabled) (fits.accepts asked)
  | false =>
      have unasked : ¬ feature.isEnabled (context.aim images).spec = true :=
        Bool.eq_false_iff.mp enabled
      have sameFits : feature.Fits (context.aim images) =
          fun after => feature.Releases (context.aim images) after := by
        funext after
        rw [Fits, if_neg unasked]
      have sameWork : feature.work (context.aim images) =
          fun after => outstanding (feature.isGone context.owner after) := by
        funext after
        rw [work, if_neg unasked]
        rfl
      rw [run, if_neg (Bool.eq_false_iff.mp enabled), sameFits, sameWork]
      exact proceeds_tearDown quiet plain current isOf (fits.releases enabled)

end

end Feature

/-! ## All features -/

namespace Aim

variable {aim : Aim} {store after : Store} {feature : Feature}

/-- The number of passes that bring all features to what is asked of them. -/
def work (aim : Aim) (store : Store) : Nat :=
  Feature.workloads.work aim store + Feature.nodes.work aim store +
    Feature.admission.work aim store + Feature.scanApi.work aim store

theorem work_congr (agrees : ∀ feature : Feature, feature.Agrees aim store after) :
    aim.work after = aim.work store := by
  rw [work, work, Feature.work_congr (agrees .workloads), Feature.work_congr (agrees .nodes),
    Feature.work_congr (agrees .admission), Feature.work_congr (agrees .scanApi)]

/-- Each feature takes as many passes as it has parts: three for the workload scanner, one for every
node and every scan beside the inventory, four for the webhook, and one for the scan API. -/
theorem work_le (aim : Aim) (store : Store) :
    aim.work store ≤ (store.among .node "").length + Pass.Nodes.marked aim.owner store + 9 := by
  have bounded : ∀ (feature : Feature) (most : Nat), feature.effort aim store ≤ most → 1 ≤ most →
      feature.work aim store ≤ most := by
    intro feature most wanted positive
    have gone := outstanding_le (feature.isGone aim.owner store)
    rw [Feature.work]
    split <;> omega
  have workloads := bounded .workloads 3 (Pass.Workloads.work_le aim store) (by omega)
  have nodes := bounded .nodes _ (Pass.Nodes.work_le aim store) (by omega)
  have admission := bounded .admission 4 (Pass.Admission.work_le aim store) (by omega)
  have scanApi := bounded .scanApi 1 (outstanding_le _) (by omega)
  rw [work]
  omega

variable (advance : Pass.Advance (feature.IsHome aim.owner) (feature.Fits aim) (feature.work aim)
  store after)

include advance

/-- What one feature did leaves the objects of another one as they were. -/
theorem agrees_of_advance {other : Feature} (different : other ≠ feature) :
    other.Agrees aim store after := by
  apply Feature.Agrees.ofSame
  intro kind key inside
  apply advance.agree.same
  intro inFeature
  exact different (Feature.eq_of_isHome inside inFeature)

theorem work_lt_of_advance : aim.work after < aim.work store := by
  have noMore : ∀ other : Feature, other.work aim after ≤ other.work aim store := by
    intro other
    by_cases isIt : other = feature
    · rw [isIt]
      exact Nat.le_of_lt advance.less
    · exact Nat.le_of_eq (Feature.work_congr (agrees_of_advance advance isIt))
  have workloads := noMore .workloads
  have nodes := noMore .nodes
  have admission := noMore .admission
  have scanApi := noMore .scanApi
  have less := advance.less
  rw [work, work]
  cases feature <;> omega

theorem fits_of_advance (fits : ∀ other : Feature, other.Fits aim store) (other : Feature) :
    other.Fits aim after := by
  by_cases isIt : other = feature
  · rw [isIt]
    exact advance.intact
  · exact Feature.Fits.congr (agrees_of_advance advance isIt) (fits other)

end Aim

/-! ## Features in order -/

namespace Pass

variable {context : PassContext} {images : ImageSource} {store : Store}

/-- A pass over some features finds nothing to do, or does some of the work of one of them. -/
theorem exists_runOn_runFeatures (quiet : store.faults = [])
    (plain : Selector.isPlain context.name = true)
    (current : store.stored? .auditConfig context.owner.configKey = some context.config)
    (isOf : (context.aim images).IsOf context.config)
    (resolves : ∀ feature : Feature, feature.isEnabled context.spec = true →
      ∃ image, (context.aim images).images (feature.request (context.aim images)) = .ok image)
    (fits : ∀ feature : Feature, feature.Fits (context.aim images) store)
    (features : List Feature) :
    ∃ progress updates after,
      (runFeatures context features).runOn images store = (.done (progress, updates), after) ∧
      ((progress = .done ∧ after = store) ∨
        (progress = .requeue ∧ ∃ feature : Feature,
          Advance (feature.IsHome context.owner) (feature.Fits (context.aim images))
            (feature.work (context.aim images)) store after)) := by
  -- The first feature that finds work ends the pass, so that those before it have left the cluster.
  induction features with
  | nil => exact ⟨.done, [], store, rfl, Or.inl ⟨rfl, rfl⟩⟩
  | cons feature rest inductionHypothesis =>
      have proceeds := Feature.proceeds_run quiet plain current isOf (resolves feature)
        (fits feature)
      cases ended : (feature.run context).runOn images store with
      | mk ending after =>
          rw [ended] at proceeds
          cases proceeds with
          | settled outcome isDone =>
              obtain ⟨progress, updates, last, endedRest, finished⟩ := inductionHypothesis
              refine ⟨progress, outcome.condition.toList ++ updates, last, ?_, finished⟩
              rw [runFeatures, runOn_bind_of_done ended]
              simp only [isDone]
              exact runOn_bind_of_done endedRest
          | advanced outcome _ wantsMore advance =>
              refine ⟨.requeue, outcome.condition.toList, after, ?_,
                Or.inr ⟨rfl, feature, advance⟩⟩
              rw [runFeatures, runOn_bind_of_done ended]
              simp only [wantsMore]
              rfl

end Pass

end ClusterAudit
