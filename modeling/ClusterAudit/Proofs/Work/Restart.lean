import ClusterAudit.Proofs.Cluster.Kept
import ClusterAudit.Proofs.Pass.Elsewhere
import ClusterAudit.Proofs.Work.Workloads
import ClusterAudit.Proofs.Writers

/-!
What the workload scanner's part of a pass does to the annotations of the scanner's pods. Pods that
were started with another inventory are made to restart, and nothing else in their deployment
changes. A deployment that is brought to what is wanted keeps the time of the last restart.
-/

namespace ClusterAudit

/-! ## Annotations -/

namespace PodTemplate

theorem inSeconds_annotate (template : PodTemplate) (key value : String) :
    (template.annotate key value).inSeconds = template.inSeconds.annotate key value := by
  cases found : template.metadata with
  | none =>
      have blank : Schema.metadata.membersInSeconds [] = [] := rfl
      simp [annotate, inSeconds, found, Metadata.inSeconds, blank]
  | some metadata => simp [annotate, inSeconds, found, Metadata.inSeconds]

end PodTemplate

namespace DeploymentSpec

/-- A deployment without the annotations of its pods. -/
def unannotated (spec : DeploymentSpec) : DeploymentSpec :=
  { spec with
    template := { spec.template with
      metadata := some { spec.template.metadata.getD {} with annotations := none } } }

end DeploymentSpec

namespace Template.Workloads

variable {deployment : Deployment} {key other value : String}

theorem annotation?_annotate_self :
    annotation? (annotate deployment key value) key = some value :=
  PodTemplate.annotation?_annotate_self

theorem annotation?_annotate_of_ne (different : other ≠ key) :
    annotation? (annotate deployment key value) other = annotation? deployment other := by
  have kept : annotation? (annotate deployment key value) other =
      (deployment.content.getD {}).template.annotation? other :=
    PodTemplate.annotation?_annotate_of_ne different
  rw [kept]
  cases found : deployment.content with
  | none => simp [annotation?, found, PodTemplate.annotation?]
  | some spec => simp [annotation?, found]

end Template.Workloads

namespace Stored

/-- An annotation of the pods of a stored deployment. -/
def podAnnotation? (stored : Stored .deployment) (key : String) : Option String :=
  stored.content.bind fun spec => spec.template.annotation? key

theorem annotation?_of_read? {stored : Stored .deployment} {live : Deployment}
    (read : stored.read? = some live) (key : String) :
    Template.Workloads.annotation? live key = stored.podAnnotation? key := by
  rw [Template.Workloads.annotation?, content_of_read? read, podAnnotation?]

theorem podAnnotation?_succeed (place : Key) (version : Nat) (current : Stored .deployment)
    (object : Deployment) (key : String) :
    (Store.stampedAt place version (Store.succeed current object)).podAnnotation? key =
      Template.Workloads.annotation? object key := by
  have content : (Store.stampedAt place version (Store.succeed current object)).content =
      object.content.map DeploymentSpec.inSeconds := rfl
  rw [podAnnotation?, content, Template.Workloads.annotation?]
  cases object.content with
  | none => rfl
  | some spec => exact PodTemplate.annotation?_inSeconds

end Stored

namespace Pass.Workloads

open Store Managed Template.Workloads

variable {aim : Aim} {live : Deployment} {stored : Stored .deployment}

/-! ## Deployments that are due -/

/-- The place of the scanner's deployment. -/
def scannerKey (owner : Owner) : Key :=
  owner.key (Naming.workloadDeployment owner.name)

/-- The revision of the inventory that the scanner is to run with. -/
def revision (owner : Owner) : String :=
  Inventory.revision (inventory owner)

/-- The deployment that is stored for the scanner can be read, and has the scanner's name. -/
structure IsScanner (owner : Owner) (stored : Stored .deployment) (live : Deployment) : Prop where
  read : stored.read? = some live
  named : live.displayName = Naming.workloadDeployment owner.name

/-- The scanner's deployment is as it is wanted, but its pods were not started with the current
inventory. -/
structure IsDue (aim : Aim) (stored : Stored .deployment) (live : Deployment) : Prop
    extends IsScanner aim.owner stored live where
  same : sameDeploymentAndResources live (wanted aim) = true
  outdated : podRevision? live ≠ some (revision aim.owner)

/-- The pods of a deployment were made to restart at a given time with a given inventory, and the
annotations that say so are all that has changed. -/
structure Restarts (before after : Stored .deployment) (time revision : String) : Prop where
  restartedAt : after.podAnnotation? restartedAtKey = some time
  revision : after.podAnnotation? revisionKey = some revision
  others : ∀ key, key ≠ restartedAtKey → key ≠ revisionKey →
    after.podAnnotation? key = before.podAnnotation? key
  rest : after.content.map DeploymentSpec.unannotated =
    before.content.map DeploymentSpec.unannotated

theorem IsDue.restarts (due : IsDue aim stored live)
    (whole : IsInSeconds .deployment (scannerKey aim.owner) stored) (version : Nat)
    (now : Instant) :
    Restarts stored
      (stampedAt (scannerKey aim.owner) version
        (succeed stored (restarted live now (revision aim.owner))))
      now.toOffsetText (revision aim.owner) where
  restartedAt := by
    rw [Stored.podAnnotation?_succeed, restarted,
      annotation?_annotate_of_ne revisionKey_ne_restartedAtKey.symm, annotation?_annotate_self]
  revision := by
    rw [Stored.podAnnotation?_succeed, restarted, annotation?_annotate_self]
  others := by
    intro key notTime notRevision
    rw [Stored.podAnnotation?_succeed, restarted, annotation?_annotate_of_ne notRevision,
      annotation?_annotate_of_ne notTime, Stored.annotation?_of_read? due.read]
  rest := by
    obtain ⟨spec, content⟩ := exists_content_of_sameDeploymentAndResources rfl due.same
    have wholeSpec : spec.inSeconds = spec := by
      have storedContent : stored.content = some spec := by
        rw [← Stored.content_of_read? due.read, content]
      have wholeContent : stored.content.map DeploymentSpec.inSeconds = stored.content := whole
      rw [storedContent] at wholeContent
      exact Option.some.inj wholeContent
    have wholeTemplate : spec.template.inSeconds = spec.template :=
      congrArg DeploymentSpec.template wholeSpec
    have written : (stampedAt (scannerKey aim.owner) version
        (succeed stored (restarted live now (revision aim.owner)))).content =
          some { spec with
            template := ((spec.template.annotate restartedAtKey now.toOffsetText).annotate
              revisionKey (revision aim.owner)).inSeconds } := by
      change (restarted live now (revision aim.owner)).content.map DeploymentSpec.inSeconds = _
      rw [restarted, annotate, annotate, content]
      rfl
    rw [written, ← Stored.content_of_read? due.read, content, PodTemplate.inSeconds_annotate,
      PodTemplate.inSeconds_annotate, wholeTemplate]
    rfl

/-! ## Deployments that are brought to what is wanted -/

theorem podRevision?_wanted : annotation? (wanted aim) revisionKey = some (revision aim.owner) :=
  rfl

theorem restartedAt_wanted : annotation? (wanted aim) restartedAtKey = none :=
  rfl

theorem annotation?_merged_revisionKey :
    annotation? (merged live (wanted aim)) revisionKey = some (revision aim.owner) := by
  rw [merged]
  cases annotation? live restartedAtKey with
  | none => rfl
  | some time =>
      exact (annotation?_annotate_of_ne revisionKey_ne_restartedAtKey).trans podRevision?_wanted

theorem annotation?_merged_restartedAtKey :
    annotation? (merged live (wanted aim)) restartedAtKey = annotation? live restartedAtKey := by
  rw [merged]
  cases annotation? live restartedAtKey with
  | none => exact restartedAt_wanted
  | some time => exact annotation?_annotate_self

/-! ## Runs -/

/-- The log entry of a new version of the scanner's deployment. -/
def replacement (owner : Owner) : LogEntry where
  verb := .replace
  kind := .deployment
  key := scannerKey owner

/-- How a part of a pass may leave the scanner's deployment: as it was, brought to what is wanted,
or with pods that have to restart. -/
inductive Leaves (aim : Aim) (now : Instant) (stored : Stored .deployment) (after : Store)
    (entries : List LogEntry) : Prop
  | untouched :
      after.find? .deployment (scannerKey aim.owner) = some stored →
      replacement aim.owner ∉ entries → Leaves aim now stored after entries
  | merged (live : Deployment) (version : Nat) :
      IsScanner aim.owner stored live → sameDeploymentAndResources live (wanted aim) = false →
      replacement aim.owner ∈ entries →
      after.find? .deployment (scannerKey aim.owner) =
        some (stampedAt (scannerKey aim.owner) version
          (succeed stored (merged live (wanted aim)))) →
      Leaves aim now stored after entries
  | restarted (live : Deployment) (version : Nat) :
      IsDue aim stored live → replacement aim.owner ∈ entries →
      after.find? .deployment (scannerKey aim.owner) =
        some (stampedAt (scannerKey aim.owner) version
          (succeed stored (restarted live now (revision aim.owner)))) →
      Leaves aim now stored after entries

variable {context : PassContext} {images : ImageSource} {store after : Store} {now : Instant}
  {entries : List LogEntry}

/-- What the log does not name has been left. -/
theorem Leaves.of_logs (found : store.find? .deployment (scannerKey aim.owner) = some stored)
    (logs : Logs store after entries)
    (elsewhere : ∀ entry ∈ entries,
      ¬ (entry.kind = .deployment ∧ entry.key = scannerKey aim.owner)) :
    Leaves aim now stored after entries :=
  .untouched ((logs.elsewhere _ _ elsewhere).trans found)
    fun member => elsewhere _ member ⟨rfl, rfl⟩

/-- What follows may change other objects. -/
theorem Leaves.append {middle : Store} {following : List LogEntry}
    (leaves : Leaves aim now stored middle entries) (logs : Logs middle after following)
    (elsewhere : ∀ entry ∈ following,
      ¬ (entry.kind = .deployment ∧ entry.key = scannerKey aim.owner)) :
    Leaves aim now stored after (entries ++ following) := by
  have same := logs.elsewhere .deployment (scannerKey aim.owner) elsewhere
  cases leaves with
  | untouched here notReplaced =>
      refine .untouched (same.trans here) ?_
      intro member
      rcases List.mem_append.mp member with earlier | later
      · exact notReplaced earlier
      · exact elsewhere _ later ⟨rfl, rfl⟩
  | merged live version scanner differs replaced here =>
      exact .merged live version scanner differs (List.mem_append_left _ replaced)
        (same.trans here)
  | restarted live version due replaced here =>
      exact .restarted live version due (List.mem_append_left _ replaced) (same.trans here)

theorem displayName_merged (live desired : Deployment) :
    (merged live desired).displayName = live.displayName := by
  rw [merged]
  split <;> rfl

theorem isMadeFrom_restarted (live : Deployment) (now : Instant) (revision : String) :
    (restarted live now revision).IsMadeFrom live where
  version := rfl
  status := rfl

/-- What the scanner's part of a pass does once the inventory is in place. -/
def deploy (context : PassContext) : Pass Outcome := do
  let image ← resolve (.scanner context.spec.workloads.image.name
    context.spec.workloads.image.tag context.policy.skipContainerResolution)
  let desired :=
    Template.Workloads.deployment context.spec context.owner image (inventory context.owner)
  match ← createIfAbsent context.namespaceName desired with
  | .created _ => return .changed
  | .existing live => converge context live desired (inventory context.owner)

theorem reconcile_eq_deploy (context : PassContext) :
    reconcile context =
      (ensure context.namespaceName (configMap context.owner (inventory context.owner))
        sameConfigMap mergeConfigMap >>= fun change =>
          if change.isMutation = true then pure .changed else deploy context) :=
  rfl

section

variable (versioned : store.IsVersioned)
  (found : store.find? .deployment (scannerKey context.owner) = some stored)

section

variable (read : stored.read? = some live)

include versioned found read

/-- An object that was made from the scanner's deployment takes its place, or is refused. One that
has another name is always refused. -/
theorem exists_logs_update {object : Deployment} (isMadeFrom : object.IsMadeFrom live)
    (sameName : object.displayName = live.displayName) :
    ∃ entries, Logs store ((update context.namespaceName object).runOn images store).2 entries ∧
      (entries = [] ∨
        live.displayName = Naming.workloadDeployment context.owner.name ∧
        entries = [replacement context.owner] ∧
        ∃ version, ((update context.namespaceName object).runOn images store).2.find? .deployment
          (scannerKey context.owner) =
            some (stampedAt (scannerKey context.owner) version (succeed stored object))) := by
  rw [update, replace, runOn_ask_snd, sameName]
  by_cases named : live.displayName = Naming.workloadDeployment context.owner.name
  · rw [named]
    rcases store.replace_cases .deployment (scannerKey context.owner) object with
      refused | ⟨current, there, enacts⟩
    · refine ⟨[], ?_, Or.inl rfl⟩
      exact refused.1.symm ▸ .refl
    · cases found.symm.trans there
      exact ⟨_, enacts.logs, Or.inr ⟨rfl, rfl, _, enacts.here⟩⟩
  · have present : store.stored? .deployment (scannerKey context.owner) = some live := by
      rw [stored?, found, Option.bind_some, read]
    have elsewhere : ({ namespaceName := context.namespaceName, name := live.displayName } : Key) ≠
        scannerKey context.owner := fun same => named (congrArg Key.name same)
    have refused := versioned.refuses_of_elsewhere present isMadeFrom elsewhere
    refine ⟨[], ?_, Or.inl rfl⟩
    exact refused.1.symm ▸ .refl

theorem exists_leaves_converge :
    ∃ entries,
      Logs store ((converge context live (wanted (context.aim images))
        (inventory context.owner)).runOn images store).2 entries ∧
      Leaves (context.aim images) context.now stored
        ((converge context live (wanted (context.aim images))
          (inventory context.owner)).runOn images store).2 entries := by
  cases agree : sameDeploymentAndResources live (wanted (context.aim images)) with
  | false =>
      simp only [converge, agree, Bool.not_false, if_true]
      rw [runOn_bind, resume_pure_snd]
      obtain ⟨entries, logs, rfl | ⟨named, rfl, version, here⟩⟩ :=
        exists_logs_update versioned found read
          (isMadeFrom_merged live (wanted (context.aim images))) (displayName_merged _ _)
      · exact ⟨[], logs, .of_logs found logs (List.forall_mem_nil _)⟩
      · exact ⟨_, logs, .merged live version { read, named } agree List.mem_cons_self here⟩
  | true =>
      simp only [converge, agree, Bool.not_true, Bool.false_eq_true, if_false]
      by_cases current : podRevision? live = some (Inventory.revision (inventory context.owner))
      · simp only [current, bne_self_eq_false, Bool.false_eq_true, if_false]
        obtain ⟨entries, logs, elsewhere⟩ := exists_logs_settle context live versioned
        exact ⟨entries, logs, .of_logs found logs elsewhere⟩
      · simp only [bne_iff_ne.mpr current, if_true]
        rw [runOn_bind, resume_pure_snd]
        obtain ⟨entries, logs, rfl | ⟨named, rfl, version, here⟩⟩ :=
          exists_logs_update versioned found read (isMadeFrom_restarted live context.now _) rfl
        · exact ⟨[], logs, .of_logs found logs (List.forall_mem_nil _)⟩
        · exact ⟨_, logs, .restarted live version
            { read, named, same := agree, outdated := current } List.mem_cons_self here⟩

end

variable (quiet : store.faults = [])

include found quiet

/-- Once the image is known, the deployment that is there is compared with what is wanted. -/
theorem runOn_deploy_of_read
    (resolves : ∃ image, (context.aim images).images (request (context.aim images)) = .ok image)
    (read : stored.read? = some live) :
    (deploy context).runOn images store =
      (converge context live (wanted (context.aim images)) (inventory context.owner)).runOn images
        store := by
  have answered : images (request (context.aim images)) =
      .ok ((context.aim images).image (request (context.aim images))) := Aim.image_eq resolves
  have ended := runOn_resolve_eq_done_iff.mpr ⟨answered, Eq.refl store⟩
  have present : store.stored? .deployment (scannerKey context.owner) = some live := by
    rw [stored?, found, Option.bind_some, read]
  have looked : (createIfAbsent context.namespaceName (wanted (context.aim images))).runOn
      images store = (.done (.existing live), store) :=
    (runOn_createIfAbsent_eq_existing_iff quiet).mpr ⟨present, rfl⟩
  rw [deploy]
  exact (runOn_bind_of_done ended).trans (runOn_bind_of_done looked)

include versioned in
theorem exists_leaves_deploy :
    ∃ entries, Logs store ((deploy context).runOn images store).2 entries ∧
      Leaves (context.aim images) context.now stored ((deploy context).runOn images store).2
        entries := by
  have kept : Leaves (context.aim images) context.now stored store [] :=
    .of_logs found .refl (List.forall_mem_nil _)
  cases resolved : images (request (context.aim images)) with
  | error error =>
      have failed : (resolve (request (context.aim images))).runOn images store =
          (.failed (.image error), store) := by
        simp only [resolve, runOn, resolved]
      rw [deploy, runOn_bind]
      exact failed.symm ▸ ⟨[], .refl, kept⟩
  | ok image =>
      have resolves : ∃ image, (context.aim images).images (request (context.aim images)) =
          .ok image := ⟨image, resolved⟩
      cases read : stored.read? with
      | none =>
          have answered : images (request (context.aim images)) =
              .ok ((context.aim images).image (request (context.aim images))) :=
            Aim.image_eq resolves
          have ended := runOn_resolve_eq_done_iff.mpr ⟨answered, Eq.refl store⟩
          rw [deploy]
          refine (runOn_bind_of_done ended).symm ▸ ?_
          rw [runOn_bind_of_failed (runOn_createIfAbsent_of_unreadable quiet found read)]
          exact ⟨[], .refl, kept⟩
      | some live =>
          rw [runOn_deploy_of_read found quiet resolves read]
          exact exists_leaves_converge versioned found read

/-- A deployment that is due is replaced. -/
theorem logs_deploy_of_due
    (resolves : ∃ image, (context.aim images).images (request (context.aim images)) = .ok image)
    (due : IsDue (context.aim images) stored live) :
    Logs store ((deploy context).runOn images store).2 [replacement context.owner] := by
  have outdated : (podRevision? live != some (Inventory.revision (inventory context.owner))) =
      true := bne_iff_ne.mpr due.outdated
  have converges : converge context live (wanted (context.aim images))
      (inventory context.owner) =
        (update context.namespaceName (restarted live context.now (revision context.owner)) >>=
          fun _ => pure .changed) := by
    simp only [converge, due.same, Bool.not_true, Bool.false_eq_true, if_false, outdated, if_true]
    rfl
  have named : (restarted live context.now (revision context.owner)).displayName =
      Naming.workloadDeployment context.owner.name := due.named
  have revises : Revises (restarted live context.now (revision context.owner)) stored live := {
    read := due.read
    version := by
      rw [← Stored.metadata_of_read? due.read]
      rfl
    status := rfl }
  rw [runOn_deploy_of_read found quiet resolves due.read, converges, runOn_bind, resume_pure_snd,
    update, replace, runOn_ask_snd, named]
  exact (enacts_of_revises quiet found revises).logs

end

/-! ## Features -/

/-- What a part of a pass has done about the scanner. While its inventory is not in place, no
deployment is touched; after that, a deployment that is due is replaced, if its image is known. A
deployment is replaced only where the configurations stay as they are, but for their statuses. -/
structure Tends (aim : Aim) (now : Instant) (stored : Stored .deployment) (store after : Store)
    (entries : List LogEntry) : Prop where
  logs : Logs store after entries
  leaves : Leaves aim now stored after entries
  unlisted : isListed aim store = false → ∀ entry ∈ entries, entry.kind ≠ .deployment
  due : isListed aim store = true → (∃ image, aim.images (request aim) = .ok image) →
    ∀ live, IsDue aim stored live → replacement aim.owner ∈ entries
  configs : replacement aim.owner ∈ entries → ∀ place config,
    store.find? .auditConfig place = some config →
    ∃ later, after.find? .auditConfig place = some later ∧ later.Continues config

/-- The call changes objects of one kind only. -/
def changesOnly (kind : Kind) (call : Call) : Prop :=
  ∀ entry, call.entry? = some entry → entry.kind = kind

theorem changesOnly_of_unlogged {kind : Kind} {call : Call} (unlogged : call.entry? = none) :
    changesOnly kind call := by
  intro entry isEntry
  rw [unlogged] at isEntry
  cases isEntry

theorem allowsKind_changesOnly (kind : Kind) : AllowsKind (changesOnly kind) kind where
  get _ := changesOnly_of_unlogged rfl
  list _ _ := changesOnly_of_unlogged rfl
  create := by
    rintro _ _ _ ⟨⟩
    rfl
  replace := by
    rintro _ _ _ ⟨⟩
    rfl
  delete := by
    rintro _ _ ⟨⟩
    rfl

theorem exists_logs_changesOnly {Result : Type} {pass : Pass Result} {kind : Kind}
    (calls : pass.CallsOnly (changesOnly kind)) (images : ImageSource) (store : Store) :
    ∃ entries, Logs store (pass.runOn images store).2 entries ∧
      ∀ entry ∈ entries, entry.kind = kind := by
  have runs : pass.RunsOnly images (changesOnly kind) store := calls.runsOnly store
  obtain ⟨entries, logs, written⟩ := runs.exists_logs
  refine ⟨entries, logs, ?_⟩
  intro entry member
  obtain ⟨request, allowed, isEntry⟩ := written entry member
  exact allowed entry isEntry

theorem callsOnly_deploy (context : PassContext) :
    (deploy context).CallsOnly (changesOnly .deployment) := by
  have deployments := allowsKind_changesOnly .deployment
  apply callsOnly_bind (callsOnly_resolve _)
  intro image
  apply callsOnly_bind (callsOnly_createIfAbsent (deployments.toAllowsUpkeep.ensuring _ _))
  intro applied
  cases applied with
  | created object => trivial
  | existing live =>
      exact callsOnly_workloads_converge context deployments.toAllowsUpkeep
        (deployments.delete _) _ _ _

section

variable (quiet : store.faults = [])

include quiet

/-- While the inventory is not in place, the scanner's part of a pass does nothing else. -/
theorem exists_logs_reconcile_of_unlisted
    (unlisted : isListed (context.aim images) store = false) :
    ∃ entries, Logs store ((reconcile context).runOn images store).2 entries ∧
      ∀ entry ∈ entries, entry.kind = .configMap := by
  have configMaps := allowsKind_changesOnly .configMap
  have calls : (ensure context.namespaceName (configMap context.owner (inventory context.owner))
      sameConfigMap mergeConfigMap).CallsOnly (changesOnly .configMap) :=
    callsOnly_ensure (configMaps.toAllowsUpkeep.ensuring _ _)
  have logs := exists_logs_changesOnly calls images store
  rw [reconcile_eq_deploy, runOn_bind]
  cases ensured : (ensure context.namespaceName
      (configMap context.owner (inventory context.owner)) sameConfigMap mergeConfigMap).runOn
        images store with
  | mk ending middle =>
      rw [ensured] at logs
      cases ending with
      | failed error => exact logs
      | crashed => exact logs
      | done change =>
          cases mutated : change.isMutation with
          | true =>
              simp only [resume, mutated, if_true]
              exact logs
          | false =>
              obtain rfl := Change.isMutation_eq_false_iff.mp mutated
              have listed : isListed (context.aim images) store = true :=
                ((runOn_ensure_eq_unchanged_iff quiet).mp ensured).1
              rw [unlisted] at listed
              cases listed

theorem runOn_reconcile_of_listed (listed : isListed (context.aim images) store = true) :
    (reconcile context).runOn images store = (deploy context).runOn images store := by
  have ensured : (ensure context.namespaceName
      (configMap context.owner (inventory context.owner)) sameConfigMap mergeConfigMap).runOn
        images store = (.done .unchanged, store) :=
    (runOn_ensure_eq_unchanged_iff quiet).mpr ⟨listed, rfl⟩
  rw [reconcile_eq_deploy, runOn_bind_of_done ensured]
  rfl

theorem exists_tends_reconcile (versioned : store.IsVersioned)
    (found : store.find? .deployment (scannerKey context.owner) = some stored) :
    ∃ entries, Tends (context.aim images) context.now stored store
      ((reconcile context).runOn images store).2 entries := by
  cases listed : isListed (context.aim images) store with
  | false =>
      obtain ⟨entries, logs, configMaps⟩ := exists_logs_reconcile_of_unlisted quiet listed
      have others : ∀ entry ∈ entries, entry.kind ≠ .deployment := by
        intro entry member isDeployment
        cases (configMaps entry member).symm.trans isDeployment
      have elsewhere : ∀ entry ∈ entries,
          ¬ (entry.kind = .deployment ∧ entry.key = scannerKey context.owner) :=
        fun entry member here => others entry member here.1
      exact ⟨entries, {
        logs
        leaves := .of_logs found logs elsewhere
        unlisted := fun _ => others
        due := fun isListed => absurd (listed.symm.trans isListed) Bool.false_ne_true
        configs := fun replaced => absurd rfl (others _ replaced) }⟩
  | true =>
      rw [runOn_reconcile_of_listed quiet listed]
      have treated : ∃ entries, Logs store ((deploy context).runOn images store).2 entries ∧
          Leaves (context.aim images) context.now stored
            ((deploy context).runOn images store).2 entries :=
        exists_leaves_deploy versioned found quiet
      obtain ⟨entries, logs, leaves⟩ := treated
      obtain ⟨others, logsOthers, deployments⟩ :=
        exists_logs_changesOnly (callsOnly_deploy context) images store
      obtain rfl := logs.unique logsOthers
      refine ⟨entries, {
        logs
        leaves
        unlisted := fun unlisted => absurd (listed.symm.trans unlisted) (by decide)
        due := ?_
        configs := ?_ }⟩
      · intro _ resolves live due
        rw [logs.unique (logs_deploy_of_due found quiet resolves due)]
        exact List.mem_cons_self
      · intro _ place config foundConfig
        refine ⟨config, ?_, .refl⟩
        rw [logs.elsewhere, foundConfig]
        rintro entry member ⟨isConfig, _⟩
        cases (deployments entry member).symm.trans isConfig

end

end Pass.Workloads

end ClusterAudit
