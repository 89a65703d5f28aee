import ClusterAudit.Proofs.Departure
import ClusterAudit.Proofs.Discipline
import ClusterAudit.Proofs.Legacy
import ClusterAudit.Proofs.Work.Restart

/-!
When a pass makes the pods of the workload scanner restart: if their deployment is as it is wanted
and they were started with another inventory, and never otherwise. So a change of the inventory
restarts them once, and what others do to the inventory or to the deployment does not.
-/

namespace ClusterAudit

open Store
open Template.Workloads (restartedAtKey revisionKey)

/-! ## Reports -/

/-- The call reads a list, or writes a status. -/
def Call.IsReport : Call → Prop
  | .list _ _ _ => True
  | .patchStatus _ _ _ => True
  | _ => False

namespace Store

variable {store : Store} {kind : Kind} {key : Key} {stored : Stored kind}

theorem exists_continues_answer {request : Call} (reports : request.IsReport)
    (found : store.find? kind key = some stored) :
    ∃ later, (store.answer request).2.find? kind key = some later ∧ later.Continues stored := by
  cases request with
  | get other place => cases reports
  | create other namespaceName object => cases reports
  | replace other place object => cases reports
  | delete other place => cases reports
  | list other namespaceName selector => exact ⟨stored, found, .refl⟩
  | patchStatus other place patch =>
      rcases store.patchStatus_cases other place patch with refused | ⟨current, there, enacts⟩
      · rw [refused.1]
        exact ⟨stored, found, .refl⟩
      · by_cases here : kind = other ∧ key = place
        · obtain ⟨rfl, rfl⟩ := here
          cases found.symm.trans there
          exact ⟨_, enacts.here, { metadata := rfl, content := rfl, status := nofun }⟩
        · exact ⟨stored, (enacts.elsewhere kind key here).trans found, .refl⟩

end Store

namespace Pass

variable {context : PassContext} {images : ImageSource} {store after : Store}

theorem exists_continues_runOn {Result : Type} {pass : Pass Result} {kind : Kind} {key : Key}
    {stored : Stored kind} (reports : pass.CallsOnly Call.IsReport)
    (found : store.find? kind key = some stored) :
    ∃ later, (pass.runOn images store).2.find? kind key = some later ∧
      later.Continues stored := by
  induction pass generalizing store stored with
  | done result => exact ⟨stored, found, .refl⟩
  | fail error => exact ⟨stored, found, .refl⟩
  | crash => exact ⟨stored, found, .refl⟩
  | call request next inductionHypothesis =>
      obtain ⟨middle, foundMiddle, continues⟩ := exists_continues_answer reports.1 found
      obtain ⟨later, foundLater, continuesLater⟩ :=
        inductionHypothesis _ (reports.2 _) foundMiddle
      exact ⟨later, foundLater, continuesLater.trans continues⟩
  | image request next inductionHypothesis =>
      exact inductionHypothesis (images request) (reports _) found
  | note feature next inductionHypothesis => exact inductionHypothesis reports found

theorem callsOnly_report {allowed : Call → Prop} (updates : List ConditionUpdate)
    (outcome : Outcome)
    (lists : ∀ namespaceName selector, allowed (.list .pod namespaceName selector))
    (patches : ∀ key status, allowed (.patchStatus .auditConfig key status)) :
    (report context updates outcome).CallsOnly allowed :=
  callsOnly_bind (callsOnly_persistStatus context _ lists patches) fun _ => trivial

namespace Workloads

variable {aim : Aim} {now : Instant} {stored : Stored .deployment} {entries : List LogEntry}

/-- A report after a feature has nothing to do with the scanner. -/
theorem Tends.report {ran : Ending Outcome × Store}
    (tends : Tends aim now stored store ran.2 entries) (updates : List ConditionUpdate) :
    ∃ entries, Tends aim now stored store (resume images (report context updates) ran).2
      entries := by
  obtain ⟨ending, middle⟩ := ran
  cases ending with
  | failed error => exact ⟨entries, tends⟩
  | crashed => exact ⟨entries, tends⟩
  | done outcome =>
      rw [resume]
      have calls : (Pass.report context updates outcome).CallsOnly
          (changesOnly .auditConfig) :=
        callsOnly_report updates outcome (fun _ _ => changesOnly_of_unlogged rfl) (by
          rintro _ _ _ ⟨⟩
          rfl)
      obtain ⟨reports, logs, configs⟩ := exists_logs_changesOnly calls images middle
      have others : ∀ entry ∈ reports, entry.kind ≠ .deployment := by
        intro entry member isDeployment
        cases (configs entry member).symm.trans isDeployment
      refine ⟨entries ++ reports, {
        logs := tends.logs.trans logs
        leaves := tends.leaves.append logs fun entry member here => others entry member here.1
        unlisted := ?_
        due := fun listed resolves live due =>
          List.mem_append_left _ (tends.due listed resolves live due)
        configs := ?_ }⟩
      · intro unlisted entry member
        rcases List.mem_append.mp member with earlier | later
        · exact tends.unlisted unlisted entry earlier
        · exact others entry later
      · intro replaced place config found
        have replacedEarlier : replacement aim.owner ∈ entries := by
          rcases List.mem_append.mp replaced with earlier | later
          · exact earlier
          · exact absurd rfl (others _ later)
        obtain ⟨between, foundBetween, continues⟩ :=
          tends.configs replacedEarlier place config found
        have reportsOnly : (Pass.report context updates outcome).CallsOnly Call.IsReport :=
          callsOnly_report updates outcome (fun _ _ => trivial) fun _ _ => trivial
        have reported : ∃ later,
            ((Pass.report context updates outcome).runOn images middle).2.find? .auditConfig
              place = some later ∧ later.Continues between :=
          exists_continues_runOn reportsOnly foundBetween
        obtain ⟨later, foundLater, continuesLater⟩ := reported
        exact ⟨later, foundLater, continuesLater.trans continues⟩

/-! ## Features -/

/-- The scanner's part of a pass is the last one that runs, or has been passed before. -/
theorem eq_or_mem_of_runsUpTo {passed left : List Feature} {last : Feature}
    (upTo : RunsUpTo context images store Feature.all passed last left) :
    last = .workloads ∨ last ≠ .workloads ∧ .workloads ∈ passed := by
  have order : Feature.workloads :: [.nodes, .admission, .scanApi] = passed ++ last :: left :=
    upTo.order
  cases passed with
  | nil => exact Or.inl (List.cons.inj order).1.symm
  | cons first rest =>
      obtain ⟨rfl, later⟩ := List.cons.inj order
      refine Or.inr ⟨?_, List.mem_cons_self⟩
      rintro rfl
      have member : Feature.workloads ∈ [Feature.nodes, .admission, .scanApi] :=
        later ▸ List.mem_append_right rest List.mem_cons_self
      exact absurd member (by decide)

section

variable (quiet : store.faults = []) (versioned : store.IsVersioned)
  (enabled : Feature.workloads.isEnabled context.spec = true)
  (found : store.find? .deployment (scannerKey context.owner) = some stored)

include quiet versioned enabled found

/-- Whichever feature runs last, the scanner has been tended. -/
theorem exists_tends_last {passed left : List Feature} {last : Feature}
    (upTo : RunsUpTo context images store Feature.all passed last left) :
    ∃ entries, Tends (context.aim images) context.now stored store
      ((last.run context).runOn images store).2 entries := by
  have runs : Feature.workloads.run context = Workloads.reconcile context := by
    rw [Feature.run, enabled, if_pos rfl, Feature.reconcile]
  rcases eq_or_mem_of_runsUpTo upTo with rfl | ⟨different, before⟩
  · rw [runs]
    exact exists_tends_reconcile quiet versioned found
  · obtain ⟨outcome, ended, isDone⟩ := upTo.passed .workloads before
    rw [runs] at ended
    obtain ⟨⟨_, settled, _⟩, _⟩ := (runOn_reconcile_eq_done_iff quiet).mp ⟨ended, isDone⟩
    have listed : isListed (context.aim images) store = true := settled.configMap
    have logged : ∃ entries, Logs store ((last.run context).runOn images store).2 entries ∧
        ∀ entry ∈ entries,
          ¬ (entry.kind = .deployment ∧ entry.key = scannerKey context.owner) :=
      exists_logs_run context different versioned
    obtain ⟨entries, logs, elsewhere⟩ := logged
    refine ⟨entries, {
      logs
      leaves := .of_logs found logs elsewhere
      unlisted := fun unlisted => absurd (listed.symm.trans unlisted) (by decide)
      due := ?_
      configs := fun replaced => absurd ⟨rfl, rfl⟩ (elsewhere _ replaced) }⟩
    intro _ _ live due
    obtain ⟨_, running, _, present, _, started, _⟩ := settled.deployment
    have here : store.stored? .deployment (scannerKey context.owner) = some live := by
      rw [stored?, found, Option.bind_some, due.read]
    cases present.symm.trans here
    exact absurd started due.outdated

/-- The features of a pass, and its report, have tended the scanner. -/
theorem exists_tends_features :
    ∃ entries, Tends (context.aim images) context.now stored store
      ((runFeatures context Feature.all >>= fun result => do
        persistStatus context result.2
        return result.1 : Pass Progress).runOn images store).2 entries := by
  obtain ⟨passed, last, left, updates, upTo, ran⟩ := exists_runsUpTo_all context images store
  have last : ∃ entries, Tends (context.aim images) context.now stored store
      ((last.run context).runOn images store).2 entries :=
    exists_tends_last quiet versioned enabled found upTo
  obtain ⟨entries, tends⟩ := last
  rw [ran]
  exact tends.report updates

end

end Workloads

end Pass

/-! ## Passes -/

namespace Store.IsReachable

variable {store : Store}

theorem drawn (reachable : store.IsReachable) : store.drawn.IsReachable :=
  reachable.tail (.maintain store store.drawn rfl rfl)

theorem runOn {Result : Type} (reachable : store.IsReachable) (images : ImageSource)
    (pass : Pass Result) : (pass.runOn images store).2.IsReachable := by
  induction pass generalizing store with
  | done result => exact reachable
  | fail error => exact reachable
  | crash => exact reachable
  | call request next inductionHypothesis =>
      exact inductionHypothesis _ (reachable.tail (.call store request))
  | image request next inductionHypothesis => exact inductionHypothesis (images request) reachable
  | note feature next inductionHypothesis => exact inductionHypothesis reachable

theorem reconcile (reachable : store.IsReachable) (images : ImageSource) (policyName : String)
    (key : Key) (now : Instant) :
    (store.reconcile images policyName key now).2.IsReachable :=
  reachable.drawn.runOn images _

end Store.IsReachable

namespace Pass.Workloads

variable {aim : Aim} {images : ImageSource} {now : Instant} {store after : Store}
  {stored later : Stored .deployment} {entries : List LogEntry} {policyName : String} {key : Key}
  {config : AuditConfig} {owner : Owner}

theorem exists_tends_pass (quiet : store.faults = []) (reachable : store.IsReachable)
    (current : store.stored? .auditConfig key = some config)
    (stays : config.metadata.deletionTimestamp = none) (owned : Owner.of config = .ok owner)
    (enabled : config.content.workloads.enable = true)
    (found : store.find? .deployment (scannerKey owner) = some stored) :
    ∃ entries, Tends (store.aim policyName config owner images) now stored store
      (store.reconcile images policyName key now).2 entries := by
  have quietDrawn : store.drawn.faults = [] := quiet
  have asked : Feature.workloads.isEnabled (store.context policyName config owner now).spec =
      true := enabled
  have identified : (configured (Owner.of config)).runOn images store.drawn =
      (.done owner, store.drawn) :=
    runOn_configured_eq_done_iff.mpr ⟨owned, rfl⟩
  have features : ∃ entries, Tends (store.aim policyName config owner images) now stored
      store.drawn ((runFeatures (store.context policyName config owner now) Feature.all >>=
        fun result => do
          persistStatus (store.context policyName config owner now) result.2
          return result.1 : Pass Progress).runOn images store.drawn).2 entries :=
    exists_tends_features quietDrawn reachable.drawn.isVersioned asked found
  obtain ⟨entries, tends⟩ := features
  rw [reconcile_of_stays quiet current stays, runOn_bind_of_done identified]
  exact ⟨entries, {
    logs := store.logs_drawn.trans tends.logs
    leaves := tends.leaves
    unlisted := tends.unlisted
    due := tends.due
    configs := tends.configs }⟩

/-! ## The law of restarts -/

/-- What may become of the deployment that is stored for the scanner. It is replaced or stays; one
that is not under its own name always stays. A new version has the current inventory. The pods
restart if the deployment was due, and otherwise keep the time of their last restart. -/
structure Treatment (aim : Aim) (now : Instant) (stored later : Stored .deployment)
    (entries : List LogEntry) : Prop where
  untouched : replacement aim.owner ∉ entries → later = stored
  foreign : (∀ live, ¬ IsScanner aim.owner stored live) → later = stored
  started : replacement aim.owner ∈ entries →
    later.podAnnotation? revisionKey = some (revision aim.owner)
  due : ∀ live, IsDue aim stored live → replacement aim.owner ∈ entries →
    Restarts stored later now.toOffsetText (revision aim.owner)
  kept : (∀ live, ¬ IsDue aim stored live) →
    later.podAnnotation? restartedAtKey = stored.podAnnotation? restartedAtKey

theorem Leaves.exists_treatment (leaves : Leaves aim now stored after entries)
    (whole : IsInSeconds .deployment (scannerKey aim.owner) stored) :
    ∃ later, after.find? .deployment (scannerKey aim.owner) = some later ∧
      Treatment aim now stored later entries := by
  cases leaves with
  | untouched here notReplaced =>
      exact ⟨stored, here, {
        untouched := fun _ => rfl
        foreign := fun _ => rfl
        started := fun replaced => absurd replaced notReplaced
        due := fun _ _ replaced => absurd replaced notReplaced
        kept := fun _ => rfl }⟩
  | merged live version scanner differs replaced here =>
      refine ⟨_, here, {
        untouched := fun notReplaced => absurd replaced notReplaced
        foreign := fun notScanner => absurd scanner (notScanner live)
        started := fun _ => ?_
        due := ?_
        kept := fun _ => ?_ }⟩
      · rw [Stored.podAnnotation?_succeed, annotation?_merged_revisionKey]
      · intro other due _
        cases scanner.read.symm.trans due.read
        rw [due.same] at differs
        cases differs
      · rw [Stored.podAnnotation?_succeed, annotation?_merged_restartedAtKey,
          Stored.annotation?_of_read? scanner.read]
  | restarted live version due replaced here =>
      have restarts := due.restarts whole version now
      exact ⟨_, here, {
        untouched := fun notReplaced => absurd replaced notReplaced
        foreign := fun notScanner => absurd due.toIsScanner (notScanner live)
        started := fun _ => restarts.revision
        due := fun _ _ _ => restarts
        kept := fun notDue => absurd due (notDue live) }⟩

/-- Pods that were started with the current inventory are not due. -/
theorem not_isDue_of_started
    (started : stored.podAnnotation? revisionKey = some (revision aim.owner))
    (live : Deployment) : ¬ IsDue aim stored live := by
  intro due
  apply due.outdated
  rw [Template.Workloads.podRevision?, Stored.annotation?_of_read? due.read, started]

/-- A pass over pods that were started with the current inventory does not make them restart. -/
theorem exists_restartedAt_of_started (quiet : store.faults = []) (reachable : store.IsReachable)
    {configStored : Stored .auditConfig}
    (configured : store.find? .auditConfig key = some configStored)
    (stays : configStored.metadata.deletionTimestamp = none)
    (owned : ∀ live, configStored.read? = some live → Owner.of live = .ok owner)
    (enabled : configStored.content.workloads.enable = true)
    (found : store.find? .deployment (scannerKey owner) = some stored)
    (started : stored.podAnnotation? revisionKey = some (revision owner)) :
    ∃ later, (store.reconcile images policyName key now).2.find? .deployment (scannerKey owner) =
        some later ∧
      later.podAnnotation? restartedAtKey = stored.podAnnotation? restartedAtKey := by
  have staysAll : ∀ other, store.find? .auditConfig key = some other →
      other.metadata.deletionTimestamp = none := by
    intro other foundOther
    cases configured.symm.trans foundOther
    exact stays
  rcases reconcile_cases images policyName now staysAll with
    ⟨ending, early⟩ | ⟨live, other, current, ownedOther, _⟩
  · rw [early]
    exact ⟨stored, found, rfl⟩
  · obtain ⟨again, foundAgain, read⟩ := exists_find?_of_stored? current
    cases configured.symm.trans foundAgain
    cases (owned live read).symm.trans ownedOther
    have liveStays : live.metadata.deletionTimestamp = none := by
      rw [Stored.metadata_of_read? read]
      exact stays
    have liveEnabled : live.content.workloads.enable = true := by
      rw [Stored.content_of_read? read]
      exact enabled
    have tended : ∃ entries, Tends (store.aim policyName live owner images) now stored store
        (store.reconcile images policyName key now).2 entries :=
      exists_tends_pass quiet reachable current liveStays ownedOther liveEnabled found
    obtain ⟨entries, tends⟩ := tended
    obtain ⟨later, here, treatment⟩ := tends.leaves.exists_treatment (reachable.isInSeconds found)
    exact ⟨later, here, treatment.kept (not_isDue_of_started started)⟩

end Pass.Workloads

open Pass.Workloads

/-- A pass over a configuration that wants the scanner, with a deployment stored for it. The pods
are made to restart exactly if the deployment is due, once its inventory is in place and its image
is known; nothing else changes then, and the next pass does not do it again. While the inventory is
not in place no deployment is touched. -/
theorem restarts_iff_due {store after : Store} {images : ImageSource} {policyName : String}
    {key : Key} {now : Instant} {config : AuditConfig} {owner : Owner}
    {stored : Stored .deployment} (reachable : store.IsReachable) (quiet : store.faults = [])
    (current : store.stored? .auditConfig key = some config)
    (stays : config.metadata.deletionTimestamp = none) (owned : Owner.of config = .ok owner)
    (enabled : config.content.workloads.enable = true)
    (found : store.find? .deployment (scannerKey owner) = some stored)
    (ran : (store.reconcile images policyName key now).2 = after) :
    ∃ entries later, after.log = store.log ++ entries ∧
      after.find? .deployment (scannerKey owner) = some later ∧
      Treatment (store.aim policyName config owner images) now stored later entries ∧
      (isListed (store.aim policyName config owner images) store = true →
        (∃ image, images (request (store.aim policyName config owner images)) = .ok image) →
        ∀ live, IsDue (store.aim policyName config owner images) stored live →
          replacement owner ∈ entries) ∧
      (isListed (store.aim policyName config owner images) store = false →
        later = stored ∧ ∀ entry ∈ entries, entry.kind ≠ .deployment) ∧
      (replacement owner ∈ entries →
        ∀ (nextImages : ImageSource) (nextPolicy : String) (nextNow : Instant), ∃ latest,
          (after.reconcile nextImages nextPolicy key nextNow).2.find? .deployment
            (scannerKey owner) = some latest ∧
          latest.podAnnotation? restartedAtKey = later.podAnnotation? restartedAtKey) := by
  have tended : ∃ entries, Tends (store.aim policyName config owner images) now stored store
      (store.reconcile images policyName key now).2 entries :=
    exists_tends_pass quiet reachable current stays owned enabled found
  obtain ⟨entries, tends⟩ := tended
  have reachableAfter := reachable.reconcile images policyName key now
  rw [ran] at tends reachableAfter
  obtain ⟨later, here, treatment⟩ := tends.leaves.exists_treatment (reachable.isInSeconds found)
  refine ⟨entries, later, tends.logs.log, here, treatment, tends.due, ?_, ?_⟩
  · intro unlisted
    have others := tends.unlisted unlisted
    exact ⟨treatment.untouched fun replaced => others _ replaced rfl, others⟩
  · intro replaced nextImages nextPolicy nextNow
    obtain ⟨configStored, foundConfig, read⟩ := exists_find?_of_stored? current
    obtain ⟨configLater, foundLater, continues⟩ :=
      tends.configs replaced key configStored foundConfig
    have sameMetadata : configLater.metadata = config.metadata :=
      continues.metadata.trans (Stored.metadata_of_read? read).symm
    apply exists_restartedAt_of_started (tends.logs.faults.trans quiet) reachableAfter foundLater
      (sameMetadata.symm ▸ stays) ?_ ?_ here (treatment.started replaced)
    · intro live readLater
      have same : live.metadata = config.metadata :=
        (Stored.metadata_of_read? readLater).trans sameMetadata
      exact (Owner.of_congr (congrArg _ same) (congrArg _ same) (congrArg _ same)
        (congrArg _ same)).trans owned
    · rw [continues.content, ← Stored.content_of_read? read]
      exact enabled

/-! ## A scanner that nobody has annotated -/

/-- The scanner's deployment without annotations on its pods. -/
def unmarkedScanner (name : String) : Deployment :=
  let made := Template.Workloads.deployment scannerConfig.content bareOwner "image"
    (inventory bareOwner)
  { made with
    metadata := { made.metadata with name := some name }
    content := made.content.map fun spec =>
      { spec with template := { spec.template with metadata := none } } }

/-- A cluster in which the scanner's inventory is in place, and a deployment that is as it is wanted
but for the annotations of its pods. -/
def unmarkedStore : Store :=
  let configured := Store.empty.insert .auditConfig "security" scannerConfig
  let listed := configured.insert .configMap "security"
    (Template.Workloads.configMap bareOwner (inventory bareOwner))
  listed.insert .deployment "security" (unmarkedScanner "audit-workload")

theorem isReachable_unmarkedStore : unmarkedStore.IsReachable :=
  .tail (.tail (.single (.insert Store.empty .auditConfig "security" scannerConfig))
    (.insert _ _ _ _)) (.insert _ _ _ _)

/-- A pass over the cluster of an image source that knows the image. -/
def scannerPass (store : Store) : Ending Progress × Store :=
  store.reconcile (fun _ => .ok "image") "default" bareOwner.configKey { seconds := 0, nanos := 0 }

/-- The cluster after somebody has given the deployment another name where it is stored. -/
def renamedStore : Store :=
  unmarkedStore.putStamped .deployment (scannerKey bareOwner)
    (.ofObject (unmarkedScanner "renamed"))

theorem isReachable_renamedStore : renamedStore.IsReachable :=
  .tail isReachable_unmarkedStore (.edit _ _ _ _ rfl)

def unmarkedAim (store : Store) : Aim :=
  store.aim "default" scannerConfig bareOwner fun _ => .ok "image"

theorem isListed_of_configMap {store : Store} {found : Object .configMap}
    (present : store.stored? .configMap
      (bareOwner.key (Naming.workloadConfigMap bareOwner.name)) = some found)
    (isStored : Managed.IsStoredAs
      (Template.Workloads.configMap bareOwner (inventory bareOwner)) found) :
    isListed (unmarkedAim store) store = true :=
  Store.holds_iff.mpr ⟨found, present, (Managed.settles_configMap _).created _ isStored⟩

theorem same_unmarkedScanner {store : Store} {live : Deployment} {name : String}
    (content : live.content = (unmarkedScanner name).content)
    (owners : live.metadata.owners = (unmarkedScanner name).metadata.owners) :
    Managed.sameDeploymentAndResources live (wanted (unmarkedAim store)) = true :=
  Managed.sameDeploymentAndResources_of_eq content rfl rfl rfl rfl owners

theorem annotation?_unmarkedScanner {live : Deployment} {name : String}
    (content : live.content = (unmarkedScanner name).content) (key : String) :
    Template.Workloads.annotation? live key = none := by
  rw [Template.Workloads.annotation?, content]
  rfl

/-- The pass over this cluster makes the pods restart. -/
theorem restarts_unmarkedStore :
    unmarkedStore.IsReachable ∧ Owner.of scannerConfig = .ok bareOwner ∧
      ∃ stored later,
        unmarkedStore.find? .deployment (scannerKey bareOwner) = some stored ∧
        stored.podAnnotation? restartedAtKey = none ∧
        (scannerPass unmarkedStore).2.find? .deployment (scannerKey bareOwner) = some later ∧
        Restarts stored later (Instant.toOffsetText { seconds := 0, nanos := 0 })
          (revision bareOwner) := by
  have current : unmarkedStore.stored? .auditConfig bareOwner.configKey = some scannerConfig := by
    with_unfolding_all rfl
  have listed : isListed (unmarkedAim unmarkedStore) unmarkedStore = true :=
    isListed_of_configMap rfl { owners := rfl, labels := rfl, content := rfl }
  obtain ⟨stored, found, live, read, content, owners, named⟩ : ∃ stored,
      unmarkedStore.find? .deployment (scannerKey bareOwner) = some stored ∧
      ∃ live, stored.read? = some live ∧
        live.content = (unmarkedScanner "audit-workload").content ∧
        live.metadata.owners = (unmarkedScanner "audit-workload").metadata.owners ∧
        live.displayName = "audit-workload" := ⟨_, rfl, _, rfl, rfl, rfl, rfl⟩
  have unmarked : ∀ key, Template.Workloads.annotation? live key = none :=
    annotation?_unmarkedScanner content
  have due : IsDue (unmarkedAim unmarkedStore) stored live := {
    read
    named
    same := same_unmarkedScanner content owners
    outdated := by
      rw [Template.Workloads.podRevision?, unmarked]
      exact (Option.some_ne_none _).symm }
  have owned : Owner.of scannerConfig = .ok bareOwner := rfl
  have ran : (scannerPass unmarkedStore).2 = (scannerPass unmarkedStore).2 := rfl
  obtain ⟨entries, later, _, here, treatment, replaces, _, _⟩ :=
    restarts_iff_due isReachable_unmarkedStore rfl current rfl owned rfl found ran
  have restarts := treatment.due live due (replaces listed ⟨"image", rfl⟩ live due)
  refine ⟨isReachable_unmarkedStore, rfl, stored, later, found, ?_, here, restarts⟩
  rw [← Stored.annotation?_of_read? read, unmarked]

/-- The deployment of the other cluster is read from its place, but is written under the name that
it shows, where there is none. It is left as it is, although it is as it is wanted and its pods were
not started with the current inventory. -/
theorem exists_due_left :
    renamedStore.IsReachable ∧ renamedStore.faults = [] ∧
      renamedStore.stored? .auditConfig bareOwner.configKey = some scannerConfig ∧
      Owner.of scannerConfig = .ok bareOwner ∧ scannerConfig.content.workloads.enable = true ∧
      isListed (unmarkedAim renamedStore) renamedStore = true ∧
      ∃ stored live,
        renamedStore.find? .deployment (scannerKey bareOwner) = some stored ∧
        stored.read? = some live ∧
        Managed.sameDeploymentAndResources live (wanted (unmarkedAim renamedStore)) = true ∧
        Template.Workloads.podRevision? live = none ∧
        (scannerPass renamedStore).2.find? .deployment (scannerKey bareOwner) = some stored ∧
        stored.podAnnotation? restartedAtKey = none := by
  have current : renamedStore.stored? .auditConfig bareOwner.configKey = some scannerConfig := by
    with_unfolding_all rfl
  have listed : isListed (unmarkedAim renamedStore) renamedStore = true :=
    isListed_of_configMap rfl { owners := rfl, labels := rfl, content := rfl }
  obtain ⟨stored, found, live, read, content, owners, named⟩ : ∃ stored,
      renamedStore.find? .deployment (scannerKey bareOwner) = some stored ∧
      ∃ live, stored.read? = some live ∧
        live.content = (unmarkedScanner "renamed").content ∧
        live.metadata.owners = (unmarkedScanner "renamed").metadata.owners ∧
        live.displayName = "renamed" := ⟨_, rfl, _, rfl, rfl, rfl, rfl⟩
  have notScanner : ∀ other, ¬ IsScanner bareOwner stored other := by
    intro other scanner
    cases read.symm.trans scanner.read
    have same : "renamed" = Naming.workloadDeployment bareOwner.name :=
      named.symm.trans scanner.named
    exact absurd same (by decide +kernel)
  have tended : ∃ entries, Tends (unmarkedAim renamedStore) { seconds := 0, nanos := 0 } stored
      renamedStore (scannerPass renamedStore).2 entries :=
    exists_tends_pass rfl isReachable_renamedStore current rfl rfl rfl found
  obtain ⟨entries, tends⟩ := tended
  obtain ⟨later, here, treatment⟩ := tends.leaves.exists_treatment
    (isReachable_renamedStore.isInSeconds found)
  obtain rfl := treatment.foreign notScanner
  refine ⟨isReachable_renamedStore, rfl, current, rfl, rfl, listed, later, live, found, read,
    same_unmarkedScanner content owners, annotation?_unmarkedScanner content _, here, ?_⟩
  rw [← Stored.annotation?_of_read? read, annotation?_unmarkedScanner content]

end ClusterAudit
