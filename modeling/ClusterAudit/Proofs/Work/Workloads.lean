import ClusterAudit.Proofs.Naming
import ClusterAudit.Proofs.Pass.Workloads
import ClusterAudit.Proofs.Work.Basic

/-!
The work of the workload scanner: its inventory, its deployment, and the one of an earlier release. A
restart changes the annotations of the pods and nothing that is compared, so that it is not undone.
-/

namespace ClusterAudit

/-! ## Annotations -/

namespace PodTemplate

variable {template : PodTemplate} {key other value : String}

theorem annotation?_annotate_self : (template.annotate key value).annotation? key = some value :=
  Dictionary.get?_insert_self

theorem annotation?_annotate_of_ne (different : other ≠ key) :
    (template.annotate key value).annotation? other = template.annotation? other := by
  change ((((template.metadata.getD {}).annotations.getD Dictionary.empty).insert key value).get?
    other) = _
  rw [Dictionary.get?_insert_of_ne different]
  cases found : template.metadata with
  | none => simp [annotation?, found, Dictionary.get?, Dictionary.empty]
  | some metadata =>
      cases annotations : metadata.annotations with
      | none => simp [annotation?, found, annotations, Dictionary.get?, Dictionary.empty]
      | some table => simp [annotation?, found, annotations]

theorem annotation?_inSeconds : template.inSeconds.annotation? key = template.annotation? key := by
  cases found : template.metadata with
  | none => simp [annotation?, inSeconds, found]
  | some metadata => simp [annotation?, inSeconds, found, Metadata.inSeconds]

end PodTemplate

namespace Pass.Workloads

open Store Managed Template.Workloads

variable {context : PassContext} {images : ImageSource} {store after : Store} {aim : Aim}

/-! ## What is left to do -/

/-- The objects of the workload scanner. -/
def IsHome (owner : Owner) : Kind → Key → Prop
  | .configMap, key => key = owner.key (Naming.workloadConfigMap owner.name)
  | .deployment, key =>
      key = owner.key (Naming.workloadDeployment owner.name) ∨
        key = owner.key (Naming.legacyWorkloadDeployment owner.name)
  | _, _ => False

def wanted (aim : Aim) : Deployment :=
  deployment aim.spec aim.owner (aim.image (request aim)) (inventory aim.owner)

def isListed (aim : Aim) (store : Store) : Bool :=
  store.holds sameConfigMap (aim.owner.key (Naming.workloadConfigMap aim.owner.name))
    (configMap aim.owner (inventory aim.owner))

/-- The deployment is as it is wanted, and its pods were started with the current inventory. -/
def isDeployed (aim : Aim) (store : Store) : Bool :=
  (store.stored? .deployment (aim.owner.key (Naming.workloadDeployment aim.owner.name))).any
    fun live => sameDeploymentAndResources live (wanted aim) &&
      podRevision? live == some (Inventory.revision (inventory aim.owner))

/-- No scanner of an earlier release is left for a pass to delete. -/
def isCleaned (aim : Aim) (store : Store) : Bool :=
  aim.policy.disableLegacyWorkloadCleanup ||
    !(store.find? .deployment
      (aim.owner.key (Naming.legacyWorkloadDeployment aim.owner.name))).any
        fun stored => stored.metadata.isOwnedBy aim.owner.reference.uid

def work (aim : Aim) (store : Store) : Nat :=
  outstanding (isListed aim store) + outstanding (isDeployed aim store) +
    outstanding (isCleaned aim store)

theorem work_le (aim : Aim) (store : Store) : work aim store ≤ 3 := by
  have listed := outstanding_le (isListed aim store)
  have deployed := outstanding_le (isDeployed aim store)
  have cleaned := outstanding_le (isCleaned aim store)
  rw [work]
  omega

/-- The objects of the scanner that a pass reads can be read, and those that it updates stand under
their own names. -/
structure Fits (aim : Aim) (store : Store) : Prop where
  configMap :
    store.IsSoundAt .configMap (aim.owner.key (Naming.workloadConfigMap aim.owner.name))
  deployment :
    store.IsSoundAt .deployment (aim.owner.key (Naming.workloadDeployment aim.owner.name))
  legacy :
    aim.policy.disableLegacyWorkloadCleanup = false → ∀ stored,
      store.find? .deployment (aim.owner.key (Naming.legacyWorkloadDeployment aim.owner.name)) =
        some stored → ∃ live, stored.read? = some live

section Congruence

variable (same : ∀ kind key, IsHome aim.owner kind key →
  after.find? kind key = store.find? kind key)

include same

theorem work_congr : work aim after = work aim store := by
  have configMap := same .configMap _ rfl
  have deployment := same .deployment _ (Or.inl rfl)
  have legacy := same .deployment _ (Or.inr rfl)
  rw [work, work, isListed, isListed, holds_congr configMap, isDeployed, isDeployed,
    stored?_congr deployment, isCleaned, isCleaned, legacy]

theorem Fits.congr (fits : Fits aim store) : Fits aim after where
  configMap := fits.configMap.congr (same .configMap _ rfl)
  deployment := fits.deployment.congr (same .deployment _ (Or.inl rfl))
  legacy := by
    rw [same .deployment _ (Or.inr rfl)]
    exact fits.legacy

end Congruence

/-! ## Deployments that settle -/

theorem revisionKey_ne_restartedAtKey : revisionKey ≠ restartedAtKey := by decide

theorem podRevision?_of_isStoredAs {object result : Deployment} {spec : DeploymentSpec}
    (isStored : IsStoredAs object result) (content : object.content = some spec) :
    podRevision? result = spec.template.annotation? revisionKey := by
  have stored : result.content = some spec.inSeconds := by
    rw [isStored.content, content]
    rfl
  rw [podRevision?, annotation?, stored, Option.bind_some]
  exact PodTemplate.annotation?_inSeconds

/-- A deployment that was created or updated is as it is wanted, with the current inventory. -/
theorem settled_of_merged {live result : Deployment}
    (isStored : IsStoredAs (merged live (wanted aim)) result) :
    sameDeploymentAndResources result (wanted aim) = true ∧
      podRevision? result = some (Inventory.revision (inventory aim.owner)) := by
  have whole := inSeconds_workloads_deployment aim.spec aim.owner (aim.image (request aim))
    (inventory aim.owner)
  have wantedRevision : podRevision? (wanted aim) =
      some (Inventory.revision (inventory aim.owner)) := rfl
  rw [merged] at isStored
  cases restarted : annotation? live restartedAtKey with
  | none =>
      rw [restarted] at isStored
      have content : result.content = (wanted aim).content := isStored.content.trans whole
      refine ⟨?_, ?_⟩
      · exact sameDeploymentAndResources_of_eq content rfl rfl rfl rfl isStored.owners
      · rw [← wantedRevision, podRevision?, podRevision?, annotation?, annotation?, content]
  | some time =>
      rw [restarted] at isStored
      have revision := podRevision?_of_isStoredAs isStored rfl
      rw [PodTemplate.annotation?_annotate_of_ne revisionKey_ne_restartedAtKey] at revision
      refine ⟨?_, revision.trans wantedRevision⟩
      have owners : result.metadata.owners = (wanted aim).metadata.owners := isStored.owners
      have wantedContent : (wanted aim).content = some ((wanted aim).content.getD {}) := rfl
      have samePod := congrArg (fun spec => spec.template.spec) (Option.some.inj whole)
      exact sameDeploymentAndResources_of_eq isStored.content wantedContent rfl rfl samePod owners

theorem settled_of_created {result : Deployment} (isStored : IsStoredAs (wanted aim) result) :
    sameDeploymentAndResources result (wanted aim) = true ∧
      podRevision? result = some (Inventory.revision (inventory aim.owner)) := by
  have mergedContent : IsStoredAs (merged { content := none } (wanted aim)) result :=
    { owners := isStored.owners, labels := isStored.labels, content := isStored.content }
  exact settled_of_merged mergedContent

/-- A deployment whose pods were made to restart is still as it is wanted. -/
theorem settled_of_restarted {live result : Deployment} {now : Instant}
    (agree : sameDeploymentAndResources live (wanted aim) = true)
    (isStored : IsStoredAs
      (restarted live now (Inventory.revision (inventory aim.owner))) result) :
    sameDeploymentAndResources result (wanted aim) = true ∧
      podRevision? result = some (Inventory.revision (inventory aim.owner)) := by
  have whole := inSeconds_workloads_deployment aim.spec aim.owner (aim.image (request aim))
    (inventory aim.owner)
  refine ⟨?_, ?_⟩
  · obtain ⟨spec, content⟩ := exists_content_of_sameDeploymentAndResources rfl agree
    have stored := isStored.content
    simp only [restarted, annotate, content, Option.getD_some] at stored
    exact sameDeploymentAndResources_of_inSeconds content stored rfl rfl rfl rfl isStored.owners
      whole agree
  · rw [podRevision?_of_isStoredAs isStored rfl]
    exact PodTemplate.annotation?_annotate_self

/-! ## Steps -/

theorem key_ne_legacyKey (owner : Owner) :
    owner.key (Naming.legacyWorkloadDeployment owner.name) ≠
      owner.key (Naming.workloadDeployment owner.name) := by
  intro same
  exact Naming.ne_append (by decide) (congrArg Key.name same)

theorem advance_of_listed {object result : ConfigMap} (fits : Fits aim store)
    (deposits : Deposits store after .configMap
      (aim.owner.key (Naming.workloadConfigMap aim.owner.name)) object result)
    (named : object.displayName = Naming.workloadConfigMap aim.owner.name)
    (settled : sameConfigMap result (configMap aim.owner (inventory aim.owner)) = true)
    (missing : isListed aim store = false) :
    Advance (IsHome aim.owner) (Fits aim) (work aim) store after := by
  have deployments : ∀ place, after.find? .deployment place = store.find? .deployment place :=
    deposits.otherKind nofun
  refine { agree := deposits.agreeOutside rfl, intact := ?_, less := ?_ }
  · exact {
      configMap := deposits.sound named
      deployment := fits.deployment.congr (deployments _)
      legacy := by
        rw [deployments]
        exact fits.legacy }
  · have listed : isListed aim after = true := deposits.holds settled
    have deployed : isDeployed aim after = isDeployed aim store := by
      rw [isDeployed, isDeployed, stored?_congr (deployments _)]
    have cleaned : isCleaned aim after = isCleaned aim store := by
      rw [isCleaned, isCleaned, deployments]
    rw [work, work, listed, missing, deployed, cleaned, outstanding_true, outstanding_false]
    omega

theorem advance_of_deployed {object result : Deployment} (fits : Fits aim store)
    (deposits : Deposits store after .deployment
      (aim.owner.key (Naming.workloadDeployment aim.owner.name)) object result)
    (named : object.displayName = Naming.workloadDeployment aim.owner.name)
    (settled : sameDeploymentAndResources result (wanted aim) = true ∧
      podRevision? result = some (Inventory.revision (inventory aim.owner)))
    (missing : isDeployed aim store = false) :
    Advance (IsHome aim.owner) (Fits aim) (work aim) store after := by
  have configMaps : ∀ place, after.find? .configMap place = store.find? .configMap place :=
    deposits.otherKind nofun
  have legacy := deposits.otherPlace (key_ne_legacyKey aim.owner)
  refine { agree := deposits.agreeOutside (Or.inl rfl), intact := ?_, less := ?_ }
  · exact {
      configMap := fits.configMap.congr (configMaps _)
      deployment := deposits.sound named
      legacy := by
        rw [legacy]
        exact fits.legacy }
  · have listed : isListed aim after = isListed aim store := holds_congr (configMaps _) _ _
    have deployed : isDeployed aim after = true := by
      rw [isDeployed, deposits.present, Option.any_some, settled.1, settled.2, Bool.true_and,
        beq_self_eq_true]
    have cleaned : isCleaned aim after = isCleaned aim store := by
      rw [isCleaned, isCleaned, legacy]
    rw [work, work, listed, deployed, missing, cleaned, outstanding_true, outstanding_false]
    omega

theorem advance_of_cleaned (fits : Fits aim store)
    (alters : Alters store after .deployment
      (aim.owner.key (Naming.legacyWorkloadDeployment aim.owner.name)) none)
    (left : isCleaned aim store = false) :
    Advance (IsHome aim.owner) (Fits aim) (work aim) store after := by
  have configMaps : ∀ place, after.find? .configMap place = store.find? .configMap place :=
    alters.otherKind nofun
  have deployment := alters.otherPlace (key_ne_legacyKey aim.owner).symm
  refine { agree := alters.agreeOutside (Or.inr rfl), intact := ?_, less := ?_ }
  · exact {
      configMap := fits.configMap.congr (configMaps _)
      deployment := fits.deployment.congr deployment
      legacy := by
        intro _ stored found
        cases alters.here.symm.trans found }
  · have listed : isListed aim after = isListed aim store := holds_congr (configMaps _) _ _
    have deployed : isDeployed aim after = isDeployed aim store := by
      rw [isDeployed, isDeployed, stored?_congr deployment]
    have cleaned : isCleaned aim after = true := by
      rw [isCleaned, alters.here, Option.any_none, Bool.not_false, Bool.or_true]
    rw [work, work, listed, deployed, cleaned, left, outstanding_true, outstanding_false]
    omega

/-! ## Passes -/

section

variable (quiet : store.faults = [])

include quiet

theorem proceeds_settle {live : Deployment} (fits : Fits (context.aim images) store) :
    Proceeds (IsHome context.owner) (Fits (context.aim images)) (work (context.aim images)) store
      ((settle context live).runOn images store) := by
  cases disabled : context.policy.disableLegacyWorkloadCleanup with
  | true =>
      simp only [settle, disabled, if_true]
      exact .settled _ rfl
  | false =>
      simp only [settle, disabled, Bool.false_eq_true, if_false]
      have kept : IsWithoutLegacy context.owner store →
          Proceeds (IsHome context.owner) (Fits (context.aim images)) (work (context.aim images))
            store ((removeLegacy context >>= fun removed => (pure
              (.ofChange removed (some (condition live))) : Pass Outcome)).runOn images store) := by
        intro without
        refine .bind ((runOn_removeLegacy_eq_false_iff quiet).mpr ⟨without, rfl⟩) ?_
        exact .settled _ rfl
      cases place : store.find? .deployment
          (context.owner.key (Naming.legacyWorkloadDeployment context.owner.name)) with
      | none => exact kept ⟨none, place, rfl⟩
      | some stored =>
          obtain ⟨legacy, read⟩ := fits.legacy disabled stored place
          have present : store.stored? .deployment
              (context.owner.key (Naming.legacyWorkloadDeployment context.owner.name)) =
                some legacy := by
            rw [stored?, place, Option.bind_some, read]
          cases owned : legacy.metadata.isOwnedBy context.owner.reference.uid with
          | false => exact kept ⟨some legacy, present, owned⟩
          | true =>
              obtain ⟨after, deleted, alters⟩ := runOn_deleteIfPresent_of_taken quiet place
              have finds : store.Finds .deployment
                  (context.owner.key (Naming.legacyWorkloadDeployment context.owner.name))
                  (some legacy) := present
              have looked : (get .deployment
                  (context.owner.key (Naming.legacyWorkloadDeployment context.owner.name))).runOn
                    images store = (.done (some legacy), store) :=
                (runOn_get_eq_done_iff quiet).mpr ⟨finds, rfl⟩
              have removed : (removeLegacy context).runOn images store = (.done true, after) := by
                refine (runOn_bind_of_done looked).trans ?_
                simp only [owned, if_true]
                exact deleted
              refine .bind removed ?_
              have left : isCleaned (context.aim images) store = false := by
                rw [Stored.metadata_of_read? read] at owned
                simp [isCleaned, PassContext.aim, place, disabled, owned]
              exact .advanced _ after rfl (advance_of_cleaned fits alters left)

theorem proceeds_converge {live : Deployment} {current : Stored .deployment}
    (place : store.find? .deployment
      (context.owner.key (Naming.workloadDeployment context.owner.name)) = some current)
    (read : current.read? = some live) (fits : Fits (context.aim images) store) :
    Proceeds (IsHome context.owner) (Fits (context.aim images)) (work (context.aim images)) store
      ((converge context live (wanted (context.aim images)) (inventory context.owner)).runOn images
        store) := by
  have named : live.displayName = Naming.workloadDeployment context.owner.name := by
    rw [Object.displayName, Stored.metadata_of_read? read]
    exact (fits.deployment current place).named
  have present : store.stored? .deployment
      (context.owner.key (Naming.workloadDeployment context.owner.name)) = some live := by
    rw [stored?, place, Option.bind_some, read]
  have isDeployed_eq : isDeployed (context.aim images) store =
      (sameDeploymentAndResources live (wanted (context.aim images)) &&
        podRevision? live == some (Inventory.revision (inventory context.owner))) := by
    change (store.stored? .deployment
      (context.owner.key (Naming.workloadDeployment context.owner.name))).any _ = _
    rw [present, Option.any_some]
    rfl
  cases agree : sameDeploymentAndResources live (wanted (context.aim images)) with
  | false =>
      have mergedName : (merged live (wanted (context.aim images))).displayName =
          live.displayName := by
        rw [merged]
        split <;> rfl
      have mergedVersion :
          (merged live (wanted (context.aim images))).metadata.resourceVersion =
            live.metadata.resourceVersion := by
        rw [merged]
        split <;> rfl
      have mergedStatus : (merged live (wanted (context.aim images))).status = live.status := by
        rw [merged]
        split <;> rfl
      obtain ⟨result, after, updated, deposits⟩ :=
        exists_runOn_update quiet place read (mergedName.trans named) mergedVersion mergedStatus
      have missing : isDeployed (context.aim images) store = false := by
        rw [isDeployed_eq, agree, Bool.false_and]
      simp only [converge, agree, Bool.not_false, if_true]
      refine .bind updated ?_
      exact .advanced _ after rfl (advance_of_deployed fits deposits
        (mergedName.trans named) (settled_of_merged deposits.isStored) missing)
  | true =>
      simp only [converge, agree, Bool.not_true, Bool.false_eq_true, if_false]
      by_cases current :
          podRevision? live = some (Inventory.revision (inventory context.owner))
      · simp only [current, bne_self_eq_false, Bool.false_eq_true, if_false]
        exact proceeds_settle quiet fits
      · have outdated : (podRevision? live !=
            some (Inventory.revision (inventory context.owner))) = true := bne_iff_ne.mpr current
        have restartedName : (restarted live context.now
            (Inventory.revision (inventory context.owner))).displayName =
              Naming.workloadDeployment context.owner.name := named
        obtain ⟨result, after, updated, deposits⟩ :=
          exists_runOn_update quiet place read restartedName rfl rfl
        have missing : isDeployed (context.aim images) store = false := by
          rw [isDeployed_eq, agree, Bool.true_and]
          exact beq_eq_false_iff_ne.mpr current
        simp only [outdated, if_true]
        refine .bind updated ?_
        exact .advanced _ after rfl (advance_of_deployed fits deposits named
          (settled_of_restarted agree deposits.isStored) missing)

/-- A pass over a scanner that is wanted goes through, and does one thing at most. -/
theorem proceeds_reconcile
    (resolves : ∃ image, (context.aim images).images (request (context.aim images)) = .ok image)
    (fits : Fits (context.aim images) store) :
    Proceeds (IsHome context.owner) (Fits (context.aim images)) (work (context.aim images)) store
      ((reconcile context).runOn images store) := by
  have filled : Naming.workloadConfigMap context.owner.name ≠ "" :=
    Naming.append_ne_empty (by decide)
  have deploymentName : (wanted (context.aim images)).metadata.name =
      some (Naming.workloadDeployment context.owner.name) := rfl
  have deploymentFilled : Naming.workloadDeployment context.owner.name ≠ "" :=
    Naming.append_ne_empty (by decide)
  refine .ensure quiet
    (settles_configMap (configMap context.owner (inventory context.owner))) rfl filled rfl
    fits.configMap ?_ ?_
  · intro missing after object result deposits named settled
    exact advance_of_listed fits deposits named settled missing
  intro _
  have answered : images (request (context.aim images)) =
      .ok ((context.aim images).image (request (context.aim images))) :=
    Aim.image_eq resolves
  refine .bind (runOn_resolve_eq_done_iff.mpr ⟨answered, rfl⟩) ?_
  cases place : store.find? .deployment
      (context.owner.key (Naming.workloadDeployment context.owner.name)) with
  | none =>
      obtain ⟨result, after, created, deposits⟩ :=
        exists_runOn_createIfAbsent quiet deploymentName deploymentFilled rfl place
      have missing : isDeployed (context.aim images) store = false := by
        have absent : store.stored? .deployment
            (context.owner.key (Naming.workloadDeployment context.owner.name)) = none := by
          rw [stored?, place, Option.bind_none]
        exact congrArg (Option.any _) absent
      refine .bind created ?_
      exact .advanced _ after rfl (advance_of_deployed fits deposits rfl
        (settled_of_created deposits.isStored) missing)
  | some current =>
      obtain ⟨live, read, present, named⟩ := fits.deployment.exists_live place
      refine .bind ((runOn_createIfAbsent_eq_existing_iff quiet).mpr ⟨present, rfl⟩) ?_
      exact proceeds_converge quiet place read fits

end

/-! ## Removal -/

def isGone (owner : Owner) (store : Store) : Bool :=
  (store.find? .deployment (owner.key (Naming.workloadDeployment owner.name))).isNone &&
    (store.find? .configMap (owner.key (Naming.workloadConfigMap owner.name))).isNone

theorem isGone_iff {owner : Owner} : isGone owner store = true ↔ Gone owner store := by
  rw [isGone, Bool.and_eq_true, Option.isNone_iff_eq_none, Option.isNone_iff_eq_none]
  constructor
  · intro absent
    exact { deployment := absent.1, configMap := absent.2 }
  · intro gone
    exact ⟨gone.deployment, gone.configMap⟩

theorem isGone_congr {owner : Owner}
    (same : ∀ kind key, IsHome owner kind key → after.find? kind key = store.find? kind key) :
    isGone owner after = isGone owner store := by
  rw [isGone, isGone, same .deployment _ (Or.inl rfl), same .configMap _ rfl]

/-- A pass over a scanner that is not wanted goes through, and leaves nothing of it. -/
theorem proceeds_tearDown (quiet : store.faults = []) :
    Proceeds (IsHome context.owner) (fun _ => True)
      (fun store => outstanding (isGone context.owner store)) store
      ((tearDown context).runOn images store) := by
  obtain ⟨middle, deleted, alters⟩ :=
    exists_runOn_deleteIfPresent images quiet .deployment
      (context.key (Naming.workloadDeployment context.name))
  obtain ⟨after, deletedNext, altersNext⟩ :=
    exists_runOn_deleteIfPresent images (alters.faults.trans quiet) .configMap
      (context.key (Naming.workloadConfigMap context.name))
  have ended : (tearDown context).runOn images store = (.done _, after) :=
    (runOn_bind_of_done deleted).trans (runOn_bind_of_done deletedNext)
  have deployments : ∀ place, after.find? .deployment place = middle.find? .deployment place :=
    altersNext.otherKind nofun
  have gone : Gone context.owner after := {
    deployment := (deployments _).trans alters.here
    configMap := altersNext.here }
  have agree : AgreeOutside (IsHome context.owner) store after :=
    (alters.agreeOutside (Or.inl rfl)).trans (altersNext.agreeOutside rfl)
  exact .of_removal (runOn_tearDown_eq_done_iff quiet) isGone_iff.mp ended agree trivial
    (isGone_iff.mpr gone)

end Pass.Workloads

end ClusterAudit
