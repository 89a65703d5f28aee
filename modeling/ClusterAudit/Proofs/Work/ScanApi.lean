import ClusterAudit.Proofs.Pass.ScanApi
import ClusterAudit.Proofs.Work.Basic

/-!
The work of the scan API. A pass brings its token, its server and its service into place at once.
-/

namespace ClusterAudit.Pass.ScanApi

open Store Managed

variable {context : PassContext} {images : ImageSource} {store after : Store} {aim : Aim}
  {owner : Owner}

/-! ## What is left to do -/

/-- The objects of the scan API. -/
def IsHome (owner : Owner) : Kind → Key → Prop
  | .secret, key => key = owner.key (Naming.scanApiSecret owner.name)
  | .deployment, key => key = owner.key (Naming.scanApi owner.name)
  | .service, key => key = owner.key (Naming.scanApi owner.name)
  | _, _ => False

def wanted (aim : Aim) : Deployment :=
  Template.ScanApi.deployment aim.spec aim.owner (aim.image (request aim))

/-- Token, server and service are in place. -/
def isComplete (aim : Aim) (store : Store) : Bool :=
  (store.find? .secret (aim.owner.key (Naming.scanApiSecret aim.owner.name))).isSome &&
    store.holds sameDeploymentAndResources (aim.owner.key (Naming.scanApi aim.owner.name))
      (wanted aim) &&
    store.holds sameService (aim.owner.key (Naming.scanApi aim.owner.name))
      (Template.ScanApi.service aim.owner)

/-- Server and service can be read, and stand under their own names. -/
structure Fits (aim : Aim) (store : Store) : Prop where
  deployment : store.IsSoundAt .deployment (aim.owner.key (Naming.scanApi aim.owner.name))
  service : store.IsSoundAt .service (aim.owner.key (Naming.scanApi aim.owner.name))

section Congruence

variable (same : ∀ kind key, IsHome aim.owner kind key →
  after.find? kind key = store.find? kind key)

include same

theorem isComplete_congr : isComplete aim after = isComplete aim store := by
  rw [isComplete, isComplete, same .secret _ rfl, holds_congr (same .deployment _ rfl),
    holds_congr (same .service _ rfl)]

theorem Fits.congr (fits : Fits aim store) : Fits aim after where
  deployment := fits.deployment.congr (same .deployment _ rfl)
  service := fits.service.congr (same .service _ rfl)

end Congruence

/-! ## Passes -/

section

variable (images : ImageSource) (quiet : store.faults = [])

include quiet

/-- A token is offered, and there is one then, whether it was taken or not. -/
theorem exists_runOn_createTolerant (owner : Owner) (token : String) :
    ∃ created after,
      (createTolerant owner.namespaceName (Template.ScanApi.tokenSecret owner token)).runOn images
        store = (.done created, after) ∧
      (after.find? .secret (owner.key (Naming.scanApiSecret owner.name))).isSome = true ∧
      AgreeOutside (fun kind place =>
        kind = .secret ∧ place = owner.key (Naming.scanApiSecret owner.name)) store after := by
  have named : (Template.ScanApi.tokenSecret owner token).metadata.name =
      some (Naming.scanApiSecret owner.name) := rfl
  have filled : Naming.scanApiSecret owner.name ≠ "" := Naming.append_ne_empty (by decide)
  cases place : store.find? .secret (owner.key (Naming.scanApiSecret owner.name)) with
  | some stored =>
      have present : (store.find? .secret
          (owner.key (Naming.scanApiSecret owner.name))).isSome = true := by
        rw [place]
        rfl
      exact ⟨false, store,
        (runOn_createTolerant_eq_false_iff quiet named filled).mpr ⟨present, rfl⟩, present,
        AgreeOutside.refl⟩
  | none =>
      obtain ⟨result, after, created, deposits⟩ :=
        exists_runOn_create quiet named filled rfl place
      obtain ⟨stored, found, _⟩ := exists_find?_of_stored? deposits.present
      refine ⟨true, after, ?_, ?_, deposits.agreeOutside ⟨rfl, rfl⟩⟩
      · rw [createTolerant, runOn_bind_of_done (runOn_attempt _)]
        simp only [answer, created]
        rfl
      · exact Option.isSome_iff_exists.mpr ⟨stored, found⟩

/-- Whatever is there, a pass brings token, server and service into place. -/
theorem exists_runOn_deploy (token : String) (fits : Fits aim store) :
    ∃ changed after,
      (deploy aim.owner token (wanted aim)).runOn images store = (.done changed, after) ∧
      isComplete aim after = true ∧ Fits aim after ∧
      AgreeOutside (IsHome aim.owner) store after := by
  have serverSettles : Settles sameDeploymentAndResources mergeDeployment (wanted aim) :=
    settles_deploymentAndResources (inSeconds_scanApi_deployment _ _ _)
  have serviceSettles : Settles sameService mergeService (Template.ScanApi.service aim.owner) :=
    settles_service _
  have serverName : (wanted aim).metadata.name = some (Naming.scanApi aim.owner.name) := rfl
  have serviceName : (Template.ScanApi.service aim.owner).metadata.name =
      some (Naming.scanApi aim.owner.name) := rfl
  have filled : Naming.scanApi aim.owner.name ≠ "" := Naming.append_ne_empty (by decide)
  obtain ⟨created, first, offered, token, agree⟩ :=
    exists_runOn_createTolerant images quiet aim.owner token
  have deployments : ∀ place, first.find? .deployment place = store.find? .deployment place :=
    fun place => agree.same .deployment place nofun
  have services : ∀ place, first.find? .service place = store.find? .service place :=
    fun place => agree.same .service place nofun
  obtain ⟨deployed, second, ensured, deploymentHolds, deploymentFits, agreeNext⟩ :=
    exists_runOn_ensure_holds images (agree.quiet quiet) serverSettles serverName filled rfl
      (fits.deployment.congr (deployments _))
  have secretsNext : ∀ place, second.find? .secret place = first.find? .secret place :=
    fun place => agreeNext.same .secret place nofun
  have servicesNext : ∀ place, second.find? .service place = first.find? .service place :=
    fun place => agreeNext.same .service place nofun
  obtain ⟨exposed, after, ensuredNext, serviceHolds, serviceFits, agreeLast⟩ :=
    exists_runOn_ensure_holds images (agreeNext.quiet (agree.quiet quiet)) serviceSettles
      serviceName filled rfl (fits.service.congr ((servicesNext _).trans (services _)))
  have secretsLast : ∀ place, after.find? .secret place = second.find? .secret place :=
    fun place => agreeLast.same .secret place nofun
  have deploymentsLast : ∀ place,
      after.find? .deployment place = second.find? .deployment place :=
    fun place => agreeLast.same .deployment place nofun
  refine ⟨created || deployed.isMutation || exposed.isMutation, after, ?_, ?_, ?_, ?_⟩
  · refine (runOn_bind_of_done offered).trans ?_
    refine (runOn_bind_of_done ensured).trans ?_
    exact runOn_bind_of_done ensuredNext
  · have deploymentKept : after.holds sameDeploymentAndResources
        (aim.owner.key (Naming.scanApi aim.owner.name)) (wanted aim) = true :=
      (holds_congr (deploymentsLast _) _ _).trans deploymentHolds
    have serviceKept : after.holds sameService
        (aim.owner.key (Naming.scanApi aim.owner.name)) (Template.ScanApi.service aim.owner) =
          true := serviceHolds
    rw [isComplete, secretsLast, secretsNext, token, deploymentKept, serviceKept]
    rfl
  · exact {
      deployment := deploymentFits.congr (deploymentsLast _)
      service := serviceFits }
  · refine (agree.mono ?_).trans ((agreeNext.mono ?_).trans (agreeLast.mono ?_))
    · intro kind place here
      obtain ⟨rfl, rfl⟩ := here
      rfl
    · intro kind place here
      obtain ⟨rfl, rfl⟩ := here
      rfl
    · intro kind place here
      obtain ⟨rfl, rfl⟩ := here
      rfl

end

theorem isComplete_iff :
    isComplete aim store = true ↔
      (store.find? .secret (aim.owner.key (Naming.scanApiSecret aim.owner.name))).isSome = true ∧
        store.holds sameDeploymentAndResources (aim.owner.key (Naming.scanApi aim.owner.name))
          (wanted aim) = true ∧
        store.holds sameService (aim.owner.key (Naming.scanApi aim.owner.name))
          (Template.ScanApi.service aim.owner) = true := by
  rw [isComplete, Bool.and_eq_true, Bool.and_eq_true, and_assoc]

/-- A pass over a scan API that is wanted goes through, and brings all of it into place. -/
theorem proceeds_reconcile (quiet : store.faults = [])
    (resolves : ∃ image, (context.aim images).images (request (context.aim images)) = .ok image)
    (fits : Fits (context.aim images) store) :
    Proceeds (IsHome context.owner) (Fits (context.aim images))
      (fun store => outstanding (isComplete (context.aim images) store)) store
      ((reconcile context).runOn images store) := by
  have answered : (context.aim images).images (request (context.aim images)) =
      .ok ((context.aim images).image (request (context.aim images))) :=
    Aim.image_eq resolves
  cases before : isComplete (context.aim images) store with
  | true =>
      obtain ⟨secret, deployment, service⟩ := isComplete_iff.mp before
      obtain ⟨live, present, agree⟩ := holds_iff.mp deployment
      have settled : Settled (context.aim images) store (condition (live.status.getD {})) := {
        secret
        deployment := ⟨_, live, answered, present, agree, rfl⟩
        service }
      have finished : (reconcile context).runOn images store =
          (.done (.settled (condition (live.status.getD {}))), store) :=
        ((runOn_reconcile_eq_done_iff quiet).mpr ⟨⟨_, settled, rfl⟩, rfl⟩).1
      rw [finished]
      exact .settled _ rfl
  | false =>
      obtain ⟨changed, after, deployed, complete, fitsAfter, agree⟩ :=
        exists_runOn_deploy images quiet context.token fits
      refine .bind (runOn_resolve_eq_done_iff.mpr ⟨answered, rfl⟩) ?_
      refine .bind deployed ?_
      cases changed with
      | true =>
          refine .advanced _ after rfl { agree, intact := fitsAfter, less := ?_ }
          rw [before, complete]
          exact Nat.zero_lt_one
      | false =>
          obtain ⟨secret, deployment, service, _⟩ := (runOn_deploy_eq_false_iff quiet).mp deployed
          rw [isComplete_iff.mpr ⟨secret, deployment, service⟩] at before
          cases before

/-! ## Removal -/

def isGone (owner : Owner) (store : Store) : Bool :=
  (store.find? .secret (owner.key (Naming.scanApiSecret owner.name))).isNone &&
    (store.find? .deployment (owner.key (Naming.scanApi owner.name))).isNone &&
    (store.find? .service (owner.key (Naming.scanApi owner.name))).isNone

theorem isGone_iff : isGone owner store = true ↔ Gone owner store := by
  simp only [isGone, Bool.and_eq_true, Option.isNone_iff_eq_none]
  constructor
  · intro absent
    obtain ⟨⟨secret, deployment⟩, service⟩ := absent
    exact { secret, deployment, service }
  · intro gone
    exact ⟨⟨gone.secret, gone.deployment⟩, gone.service⟩

theorem isGone_congr
    (same : ∀ kind key, IsHome owner kind key → after.find? kind key = store.find? kind key) :
    isGone owner after = isGone owner store := by
  rw [isGone, isGone, same .secret _ rfl, same .deployment _ rfl, same .service _ rfl]

/-- A pass over a scan API that is not wanted goes through, and leaves nothing of it. -/
theorem proceeds_tearDown (quiet : store.faults = []) :
    Proceeds (IsHome context.owner) (fun _ => True)
      (fun store => outstanding (isGone context.owner store)) store
      ((tearDown context).runOn images store) := by
  obtain ⟨first, deleted, alters⟩ :=
    exists_runOn_deleteIfPresent images quiet .secret
      (context.owner.key (Naming.scanApiSecret context.owner.name))
  have quietFirst : first.faults = [] := alters.faults.trans quiet
  obtain ⟨second, deletedNext, altersNext⟩ :=
    exists_runOn_deleteIfPresent images quietFirst .deployment
      (context.owner.key (Naming.scanApi context.owner.name))
  have quietSecond : second.faults = [] := altersNext.faults.trans quietFirst
  obtain ⟨after, deletedLast, altersLast⟩ :=
    exists_runOn_deleteIfPresent images quietSecond .service
      (context.owner.key (Naming.scanApi context.owner.name))
  have cleaned : (cleanup context.owner).runOn images store = (.done _, after) :=
    (runOn_bind_of_done deleted).trans
      ((runOn_bind_of_done deletedNext).trans (runOn_bind_of_done deletedLast))
  have ended : (tearDown context).runOn images store = (.done _, after) :=
    runOn_bind_of_done cleaned
  have gone : Gone context.owner after := {
    secret :=
      Eq.trans (altersLast.otherKind (by decide) _)
        (Eq.trans (altersNext.otherKind (by decide) _) alters.here)
    deployment := Eq.trans (altersLast.otherKind (by decide) _) altersNext.here
    service := altersLast.here }
  have agree : AgreeOutside (IsHome context.owner) store after :=
    (alters.agreeOutside rfl).trans
      ((altersNext.agreeOutside rfl).trans (altersLast.agreeOutside rfl))
  exact .of_removal (runOn_tearDown_eq_done_iff quiet) isGone_iff.mp ended agree trivial
    (isGone_iff.mpr gone)

end ClusterAudit.Pass.ScanApi
