import ClusterAudit.Proofs.Bounded
import ClusterAudit.Proofs.Log

/-!
Why a pass wants another one to follow. Every step that says that it changed the cluster has created,
replaced or deleted an object, with two exceptions: a node scan that is missing among those that the
pass lists is not created if one of its name is there without the labels, and one that no node has is
not deleted if it does not stand under its own name. In both cases the pass says that it changed the
cluster, and so does every pass after it.
-/

namespace ClusterAudit

open Store

/-- The call created, replaced or deleted an object. Reports are left out. -/
def LogEntry.IsChange (entry : LogEntry) : Prop :=
  entry.verb = .create ∨ entry.verb = .replace ∨ entry.verb = .delete

/-- The log has grown, and tells of a change. -/
def Store.Changes (before after : Store) : Prop :=
  ∃ entries, after.log = before.log ++ entries ∧ ∃ entry ∈ entries, entry.IsChange

namespace Store.Changes

variable {before middle after : Store} {entries : List LogEntry}

theorem of_logs {entry : LogEntry} (logs : Logs before after [entry]) (change : entry.IsChange) :
    Changes before after :=
  ⟨[entry], logs.log, entry, List.mem_singleton_self entry, change⟩

theorem before_log (changes : Changes middle after)
    (grown : middle.log = before.log ++ entries) : Changes before after := by
  obtain ⟨later, log, entry, member, change⟩ := changes
  refine ⟨entries ++ later, ?_, entry, List.mem_append_right entries member, change⟩
  rw [log, grown, List.append_assoc]

theorem then_log (changes : Changes before middle)
    (grown : after.log = middle.log ++ entries) : Changes before after := by
  obtain ⟨earlier, log, entry, member, change⟩ := changes
  refine ⟨earlier ++ entries, ?_, entry, List.mem_append_left entries member, change⟩
  rw [grown, log, List.append_assoc]

end Store.Changes

namespace Pass

variable {First Second Result : Type} {images : ImageSource} {store after : Store}

/-- If a part of a pass ends with a result that says so, it has changed the cluster. -/
def Accounts (images : ImageSource) (claims : Result → Prop) (pass : Pass Result) (store : Store) :
    Prop :=
  ∀ result after, pass.runOn images store = (.done result, after) → claims result →
    Changes store after

theorem accounts_pure {claims : Result → Prop} {result : Result} (silent : ¬ claims result) :
    (pure result : Pass Result).Accounts images claims store := by
  intro other after ended said
  cases ended
  exact absurd said silent

/-- A sequence accounts for its result if its first part has changed the cluster, or its second
part accounts for it. -/
theorem accounts_bind {first : Pass First} {second : First → Pass Second} {claims : Second → Prop}
    (either : ∀ value middle, first.runOn images store = (.done value, middle) →
      Changes store middle ∨ (second value).Accounts images claims middle) :
    (first >>= second).Accounts images claims store := by
  intro result after ended said
  obtain ⟨value, middle, endedFirst, endedSecond⟩ := runOn_bind_eq_done_iff.mp ended
  obtain ⟨earlier, grownFirst⟩ := exists_log_runOn images first store
  obtain ⟨later, grownSecond⟩ := exists_log_runOn images (second value) middle
  rw [endedFirst] at grownFirst
  rw [endedSecond] at grownSecond
  rcases either value middle endedFirst with changed | accounts
  · exact changed.then_log grownSecond
  · exact (accounts result after endedSecond said).before_log grownFirst

/-- What follows a step that only looks accounts for the change. -/
theorem accounts_bind_right {first : Pass First} {second : First → Pass Second}
    {claims : Second → Prop}
    (rest : ∀ value middle, first.runOn images store = (.done value, middle) →
      (second value).Accounts images claims middle) :
    (first >>= second).Accounts images claims store :=
  accounts_bind fun value middle ended => Or.inr (rest value middle ended)

/-- A call that goes through and changes the cluster accounts for anything. -/
theorem changes_of_ask {request : Call} {entry : LogEntry} {reply : request.Reply}
    (written : request.entry? = some entry) (change : entry.IsChange)
    (ended : (ask request).runOn images store = (.done reply, after)) : Changes store after :=
  .of_logs (logs_of_answer_ok written (runOn_ask_eq_done_iff.mp ended)) change

/-! ## Steps -/

section Steps

variable {kind : Kind} {namespaceName : String} {desired object : Object kind} {key : Key}
  {same : Object kind → Object kind → Bool} {merge : Object kind → Object kind → Object kind}

theorem accounts_create {rest : Object kind → Pass Result} {claims : Result → Prop} :
    (create kind namespaceName desired >>= rest).Accounts images claims store :=
  accounts_bind fun _ _ created => Or.inl (changes_of_ask rfl (Or.inl rfl) created)

theorem accounts_replace {rest : Object kind → Pass Result} {claims : Result → Prop} :
    (replace kind key object >>= rest).Accounts images claims store :=
  accounts_bind fun _ _ replaced => Or.inl (changes_of_ask rfl (Or.inr (Or.inl rfl)) replaced)

theorem accounts_createIfAbsent :
    (createIfAbsent namespaceName desired).Accounts images (∃ object, · = .created object)
      store := by
  apply accounts_bind_right
  intro found middle looked
  cases found with
  | some live =>
      apply accounts_pure
      rintro ⟨object, differs⟩
      cases differs
  | none => exact accounts_create

theorem accounts_ensure :
    (ensure namespaceName desired same merge).Accounts images (·.isMutation = true) store := by
  apply accounts_bind
  intro applied middle looked
  cases applied with
  | created object => exact Or.inl (accounts_createIfAbsent _ _ looked ⟨object, rfl⟩)
  | existing live =>
      right
      change (ite _ _ _ : Pass Change).Accounts images _ middle
      split
      · exact accounts_pure (by decide)
      · exact accounts_replace

theorem accounts_ensureCluster :
    (ensureCluster desired same merge).Accounts images (·.isMutation = true) store := by
  apply accounts_bind_right
  intro found middle looked
  cases found with
  | none => exact accounts_create
  | some live =>
      change (ite _ _ _ : Pass Change).Accounts images _ middle
      split
      · exact accounts_pure (by decide)
      · exact accounts_replace

/-- A call that is made without regard to a certain failure accounts for its success. -/
theorem accounts_attempt {request : Call} {entry : LogEntry}
    {next : Except ClusterError request.Reply → Pass Bool}
    (written : request.entry? = some entry) (change : entry.IsChange)
    (fails : ∀ error middle, (next (.error error)).Accounts images (· = true) middle) :
    (attempt request >>= next).Accounts images (· = true) store := by
  apply accounts_bind
  intro reply middle ended
  have answered := runOn_attempt_eq_done_iff.mp ended
  cases reply with
  | ok value => exact Or.inl (.of_logs (logs_of_answer_ok written answered) change)
  | error error => exact Or.inr (fails error middle)

theorem accounts_createTolerant :
    (createTolerant namespaceName object).Accounts images (· = true) store := by
  apply accounts_attempt rfl (Or.inl rfl)
  intro error middle
  dsimp only
  split
  · exact accounts_pure Bool.false_ne_true
  · nofun

theorem accounts_deleteIfPresent :
    (deleteIfPresent kind key).Accounts images (· = true) store := by
  apply accounts_attempt rfl (Or.inr (Or.inr rfl))
  intro error middle
  dsimp only
  split
  · exact accounts_pure Bool.false_ne_true
  · nofun

/-- Steps that are put together account for a change if each accounts for its own. -/
theorem accounts_bind_or {first : Pass Bool} {second : Bool → Pass Result}
    {claims : Result → Prop}
    (firstAccounts : first.Accounts images (· = true) store)
    (rest : ∀ middle, first.runOn images store = (.done false, middle) →
      (second false).Accounts images claims middle) :
    (first >>= second).Accounts images claims store := by
  apply accounts_bind
  intro value middle ended
  cases value with
  | true => exact Or.inl (firstAccounts _ _ ended rfl)
  | false => exact Or.inr (rest middle ended)

end Steps

/-! ## Features -/

variable {context : PassContext}

/-- A feature that stops at a change of its first step accounts for it. -/
theorem accounts_guard {step : Pass Change} {rest : Pass Outcome}
    (stepAccounts : step.Accounts images (·.isMutation = true) store)
    (restAccounts : ∀ middle, step.runOn images store = (.done .unchanged, middle) →
      rest.Accounts images (·.progress = .requeue) middle) :
    (step >>= fun change => if change.isMutation = true then pure .changed else rest).Accounts
      images (·.progress = .requeue) store := by
  apply accounts_bind
  intro change middle ended
  cases mutated : change.isMutation with
  | true => exact Or.inl (stepAccounts _ _ ended mutated)
  | false =>
      obtain rfl := Change.isMutation_eq_false_iff.mp mutated
      exact Or.inr (restAccounts middle ended)

theorem accounts_settled (condition : ConditionUpdate) :
    (pure (.settled condition) : Pass Outcome).Accounts images (·.progress = .requeue) store :=
  accounts_pure nofun

theorem accounts_ofChange_false (condition : Option ConditionUpdate) :
    (pure (.ofChange false condition) : Pass Outcome).Accounts images (·.progress = .requeue)
      store :=
  accounts_pure nofun

namespace Workloads

theorem accounts_removeLegacy :
    (removeLegacy context).Accounts images (· = true) store := by
  apply accounts_bind_right
  intro found middle looked
  cases found with
  | none => exact accounts_pure Bool.false_ne_true
  | some legacy =>
      change (ite _ _ _ : Pass Bool).Accounts images _ middle
      split
      · exact accounts_deleteIfPresent
      · exact accounts_pure Bool.false_ne_true

theorem accounts_converge (live desired : Deployment) (inventory : String) :
    (converge context live desired inventory).Accounts images (·.progress = .requeue) store := by
  rw [converge]
  split
  · exact accounts_replace
  · dsimp only
    split
    · exact accounts_replace
    · rw [settle]
      split
      · exact accounts_ofChange_false _
      · exact accounts_bind_or accounts_removeLegacy fun _ _ => accounts_ofChange_false _

theorem accounts_reconcile :
    (reconcile context).Accounts images (·.progress = .requeue) store := by
  apply accounts_guard accounts_ensure
  intro middle _
  apply accounts_bind_right
  intro image resolved _
  apply accounts_bind
  intro applied after ended
  cases applied with
  | created object => exact Or.inl (accounts_createIfAbsent _ _ ended ⟨object, rfl⟩)
  | existing live => exact Or.inr (accounts_converge _ _ _)

theorem accounts_tearDown :
    (tearDown context).Accounts images (·.progress = .requeue) store := by
  apply accounts_bind_or accounts_deleteIfPresent
  intro middle _
  exact accounts_bind_or accounts_deleteIfPresent fun _ _ => accounts_ofChange_false _

end Workloads

namespace Admission

variable {config : AuditConfig}

theorem accounts_addFinalizer :
    (addFinalizer config).Accounts images (fun _ => True) store := by
  apply accounts_bind_right
  intro namespaceName middle _
  exact accounts_replace

theorem accounts_removeFinalizer :
    (removeFinalizer config).Accounts images (fun _ => True) store := by
  apply accounts_bind_right
  intro namespaceName middle _
  exact accounts_replace

theorem accounts_reconcile :
    (reconcile context).Accounts images (·.progress = .requeue) store := by
  rw [reconcile]
  split
  · apply accounts_bind
    intro added middle ended
    exact Or.inl (accounts_addFinalizer _ _ ended trivial)
  · apply accounts_bind_right
    intro image first _
    apply accounts_guard accounts_ensure
    intro second _
    apply accounts_guard accounts_ensure
    intro third _
    apply accounts_guard accounts_ensureCluster
    intro fourth _
    exact accounts_bind_right fun _ _ _ => accounts_settled _

theorem accounts_tearDown :
    (tearDown context).Accounts images (·.progress = .requeue) store := by
  apply accounts_bind_or accounts_deleteIfPresent
  intro first _
  apply accounts_bind_or accounts_deleteIfPresent
  intro second _
  apply accounts_bind_or accounts_deleteIfPresent
  intro third _
  cases standing : hasFinalizer context.config with
  | true =>
      simp only [if_true]
      apply accounts_bind
      intro removed after ended
      exact Or.inl (accounts_removeFinalizer _ _ ended trivial)
  | false =>
      simp only [Bool.false_eq_true, if_false]
      exact accounts_ofChange_false _

end Admission

namespace ScanApi

theorem accounts_deploy {owner : Owner} {token : String} {desired : Deployment} :
    (deploy owner token desired).Accounts images (· = true) store := by
  apply accounts_bind_or accounts_createTolerant
  intro first _
  apply accounts_bind
  intro deployment second ended
  cases mutated : deployment.isMutation with
  | true => exact Or.inl (accounts_ensure _ _ ended mutated)
  | false =>
      right
      apply accounts_bind
      intro service third endedNext
      cases mutatedNext : service.isMutation with
      | true => exact Or.inl (accounts_ensure _ _ endedNext mutatedNext)
      | false =>
          right
          exact accounts_pure Bool.false_ne_true

theorem accounts_cleanup {owner : Owner} :
    (cleanup owner).Accounts images (· = true) store := by
  apply accounts_bind_or accounts_deleteIfPresent
  intro first _
  apply accounts_bind_or accounts_deleteIfPresent
  intro second _
  apply accounts_bind_or accounts_deleteIfPresent
  intro third _
  exact accounts_pure Bool.false_ne_true

theorem accounts_reconcile :
    (reconcile context).Accounts images (·.progress = .requeue) store := by
  apply accounts_bind_right
  intro image first _
  apply accounts_bind_or accounts_deploy
  intro second _
  exact accounts_bind_right fun _ _ _ => accounts_settled _

theorem accounts_tearDown :
    (tearDown context).Accounts images (·.progress = .requeue) store :=
  accounts_bind_or accounts_cleanup fun _ _ => accounts_ofChange_false _

end ScanApi

/-! ## Node scans -/

namespace Nodes

/-- A node has no scan among those that carry the labels, but a cron job of the name of its scan is
there. -/
def IsBlocked (owner : Owner) (store : Store) : Prop :=
  ∃ node ∈ store.among .node "", ∃ name stored,
    Naming.nodeCronJob? owner.name node.metadata.displayName = some name ∧
    store.find? .cronJob (owner.key name) = some stored ∧
    ∀ listed ∈ store.selected .cronJob owner.namespaceName (owner.selector .nodes),
      listed.metadata.displayName ≠ name

/-- A scan that carries the labels and that no node has does not stand under its own name. -/
def IsStray (owner : Owner) (store : Store) : Prop :=
  ∃ listed ∈ store.selected .cronJob owner.namespaceName (owner.selector .nodes),
    (∀ node ∈ store.among .node "",
      Naming.nodeCronJob? owner.name node.metadata.displayName ≠
        some listed.metadata.displayName) ∧
    store.find? .cronJob (owner.key listed.metadata.displayName) = none

theorem accounts_deleteAll {live : List CronJob} :
    (deleteAll context live).Accounts images (· = true) store := by
  induction live generalizing store with
  | nil => exact accounts_pure Bool.false_ne_true
  | cons cronJob rest inductionHypothesis =>
      apply accounts_bind_or accounts_deleteIfPresent
      intro middle _
      apply accounts_bind_or inductionHypothesis
      intro after _
      exact accounts_pure Bool.false_ne_true

theorem accounts_tearDown :
    (tearDown context).Accounts images (·.progress = .requeue) store := by
  apply accounts_bind_right
  intro live first _
  apply accounts_bind_or accounts_deleteAll
  intro second _
  exact accounts_bind_or accounts_deleteIfPresent fun _ _ => accounts_ofChange_false _

section

variable (quiet : store.faults = [])

include quiet

theorem accounts_converge {desired live : List CronJob}
    (free : ∀ missing, firstOutside (namesOf live) desired = some missing →
      store.find? .cronJob (context.key missing.displayName) = none)
    (taken : ∀ orphan, firstOutside (namesOf desired) live = some orphan →
      store.find? .cronJob (context.key orphan.displayName) ≠ none) :
    (converge context desired live).Accounts images (·.progress = .requeue) store := by
  rw [converge]
  cases absent : firstOutside (namesOf live) desired with
  | some missing =>
      apply accounts_bind
      intro applied middle ended
      cases applied with
      | created object => exact Or.inl (accounts_createIfAbsent _ _ ended ⟨object, rfl⟩)
      | existing found =>
          obtain ⟨present, _⟩ := (runOn_createIfAbsent_eq_existing_iff quiet).mp ended
          obtain ⟨stored, there, _⟩ := exists_find?_of_stored? present
          cases there.symm.trans (free missing absent)
  | none =>
      dsimp only
      split
      · exact accounts_replace
      · cases left : firstOutside (namesOf desired) live with
        | some orphan =>
            apply accounts_bind_or accounts_deleteIfPresent
            intro middle ended
            obtain ⟨gone, _⟩ := (runOn_deleteIfPresent_eq_false_iff quiet).mp ended
            exact absurd gone (taken orphan left)
        | none => exact accounts_settled _

theorem accounts_reconcile (unblocked : ¬ IsBlocked context.owner store)
    (unstrayed : ¬ IsStray context.owner store) :
    (reconcile context).Accounts images (·.progress = .requeue) store := by
  apply accounts_guard accounts_ensure
  intro middle ensured
  obtain ⟨_, rfl⟩ := (runOn_ensure_eq_unchanged_iff quiet).mp ensured
  apply accounts_bind_right
  intro image first resolved
  obtain ⟨_, rfl⟩ := runOn_resolve_eq_done_iff.mp resolved
  apply accounts_bind_right
  intro nodes second lookedNodes
  obtain ⟨listsNodes, rfl⟩ := (runOn_list_eq_done_iff quiet).mp lookedNodes
  apply accounts_bind_right
  intro desired third named
  obtain ⟨made, rfl⟩ := runOn_desiredCronJobs_eq_done_iff.mp named
  apply accounts_bind_right
  intro live fourth looked
  obtain ⟨lists, rfl⟩ := (runOn_list_eq_done_iff quiet).mp looked
  apply accounts_converge quiet
  · intro missing absent
    have unlisted : missing.displayName ∉ namesOf live := by simpa using List.find?_some absent
    have wanted : missing.displayName ∈ namesOf desired :=
      mem_namesOf_iff.mpr ⟨missing, List.mem_of_find?_eq_some absent, rfl⟩
    obtain ⟨node, among, named⟩ := (mem_namesOf_desired_iff listsNodes made).mp wanted
    by_contra occupied
    obtain ⟨there, found⟩ := Option.ne_none_iff_exists'.mp occupied
    refine unblocked ⟨node, among, _, there, named, found, ?_⟩
    intro listed selected same
    obtain ⟨scan, member, read⟩ := exists_of_mem_of_mapM lists selected
    apply unlisted
    refine mem_namesOf_iff.mpr ⟨scan, member, ?_⟩
    rw [Object.displayName, Stored.metadata_of_read? read, same]
  · intro orphan left gone
    have unwanted : orphan.displayName ∉ namesOf desired := by simpa using List.find?_some left
    obtain ⟨listed, selected, read⟩ :=
      exists_of_mem_values_of_mapM lists (List.mem_of_find?_eq_some left)
    rw [Object.displayName, Stored.metadata_of_read? read] at unwanted gone
    refine unstrayed ⟨listed, selected, ?_, gone⟩
    intro node among named
    exact unwanted ((mem_namesOf_desired_iff listsNodes made).mpr ⟨node, among, named⟩)

end

end Nodes

/-! ## Whole passes -/

theorem accounts_run {feature : Feature} (notNodes : feature ≠ .nodes) :
    (feature.run context).Accounts images (·.progress = .requeue) store := by
  rw [Feature.run]
  cases feature with
  | workloads =>
      split
      · exact Workloads.accounts_reconcile
      · exact Workloads.accounts_tearDown
  | nodes => exact absurd rfl notNodes
  | admission =>
      split
      · exact Admission.accounts_reconcile
      · exact Admission.accounts_tearDown
  | scanApi =>
      split
      · exact ScanApi.accounts_reconcile
      · exact ScanApi.accounts_tearDown

/-- The node scans account for what they say if no scan keeps them from changing the cluster. -/
theorem accounts_run_nodes (quiet : store.faults = [])
    (free : Feature.nodes.isEnabled context.spec = true →
      ¬ Nodes.IsBlocked context.owner store ∧ ¬ Nodes.IsStray context.owner store) :
    (Feature.nodes.run context).Accounts images (·.progress = .requeue) store := by
  rw [Feature.run]
  split
  · rename_i enabled
    exact Nodes.accounts_reconcile quiet (free enabled).1 (free enabled).2
  · exact Nodes.accounts_tearDown

theorem accounts_runFeatures_cons {feature : Feature} {rest : List Feature}
    (first : (feature.run context).Accounts images (·.progress = .requeue) store)
    (later : ∀ outcome middle,
      (feature.run context).runOn images store = (.done outcome, middle) →
      outcome.progress = .done →
      (runFeatures context rest).Accounts images (·.1 = .requeue) middle) :
    (runFeatures context (feature :: rest)).Accounts images (·.1 = .requeue) store := by
  apply accounts_bind
  intro outcome middle ended
  cases progressed : outcome.progress with
  | requeue => exact Or.inl (first _ _ ended progressed)
  | done =>
      right
      intro result after endedRest said
      obtain ⟨⟨progress, updates⟩, last, finished, same⟩ := runOn_bind_eq_done_iff.mp endedRest
      cases same
      exact later outcome middle ended progressed _ _ finished said

theorem accounts_runFeatures (quiet : store.faults = [])
    (free : Feature.nodes.isEnabled context.spec = true →
      ¬ Nodes.IsBlocked context.owner store ∧ ¬ Nodes.IsStray context.owner store) :
    (runFeatures context Feature.all).Accounts images (·.1 = .requeue) store := by
  apply accounts_runFeatures_cons (accounts_run (by decide))
  intro outcome middle ended isDone
  obtain rfl := Feature.eq_of_runOn_run_eq_done quiet ended isDone
  apply accounts_runFeatures_cons (accounts_run_nodes quiet free)
  intro _ first _ _
  apply accounts_runFeatures_cons (accounts_run (by decide))
  intro _ second _ _
  apply accounts_runFeatures_cons (accounts_run (by decide))
  intro _ third _ _
  exact accounts_pure nofun

end Pass

/-- A pass over a configuration that stays wants another one to follow only if it has created,
replaced or deleted an object, unless a node scan keeps it from doing what it says. -/
theorem changes_of_reconcile_requeue {store after : Store} {images : ImageSource}
    {policyName : String} {key : Key} {config : AuditConfig} {now : Instant}
    (quiet : store.faults = []) (current : store.stored? .auditConfig key = some config)
    (stays : config.metadata.deletionTimestamp = none)
    (free : Feature.nodes.isEnabled config.content = true → ∀ owner, Owner.of config = .ok owner →
      ¬ Pass.Nodes.IsBlocked owner store ∧ ¬ Pass.Nodes.IsStray owner store)
    (requeued : store.reconcile images policyName key now = (.done .requeue, after)) :
    store.Changes after := by
  rw [Pass.reconcile_of_stays quiet current stays] at requeued
  obtain ⟨owner, _, identified, reported⟩ := Pass.runOn_bind_eq_done_iff.mp requeued
  obtain ⟨owned, rfl⟩ := Pass.runOn_configured_eq_done_iff.mp identified
  have quietDrawn : store.drawn.faults = [] := quiet
  have features : (Pass.runFeatures (store.context policyName config owner now)
      Feature.all).Accounts images (·.1 = .requeue) store.drawn :=
    Pass.accounts_runFeatures quietDrawn fun enabled => free enabled owner owned
  obtain ⟨⟨progress, updates⟩, middle, ended, finished⟩ :=
    Pass.runOn_bind_eq_done_iff.mp reported
  obtain ⟨_, last, persisted, same⟩ := Pass.runOn_bind_eq_done_iff.mp finished
  cases same
  obtain ⟨entries, grown⟩ := Pass.exists_log_runOn images
    (Pass.persistStatus (store.context policyName config owner now) updates) middle
  rw [persisted] at grown
  exact (features _ _ ended rfl).then_log grown

/-- The first pass over a fresh cluster makes an inventory and wants another one to follow. -/
theorem changes_freshCluster :
    freshCluster.Changes (freshCluster.reconcile (fun _ => .ok "image") "default"
      bareOwner.configKey { seconds := 0, nanos := 0 }).2 := by
  have noScan : ∀ stored : Stored .cronJob,
      stored ∉ freshCluster.selected .cronJob bareOwner.namespaceName (bareOwner.selector .nodes) := by
    intro stored member
    obtain ⟨⟨key, _, found⟩, _⟩ := mem_selected_iff.mp member
    cases (freshCluster_free (by decide) (by decide) key).symm.trans found
  have current : freshCluster.stored? .auditConfig bareOwner.configKey = some fullConfig := rfl
  have isBare : Owner.of fullConfig = .ok bareOwner := rfl
  have free : Feature.nodes.isEnabled fullConfig.content = true → ∀ owner,
      Owner.of fullConfig = .ok owner →
        ¬ Pass.Nodes.IsBlocked owner freshCluster ∧ ¬ Pass.Nodes.IsStray owner freshCluster := by
    intro _ owner owned
    cases isBare.symm.trans owned
    constructor
    · rintro ⟨node, _, name, stored, _, found, _⟩
      cases (freshCluster_free (by decide) (by decide) _).symm.trans found
    · rintro ⟨listed, member, _⟩
      exact noScan listed member
  have requeued : (freshCluster.reconcile (fun _ => .ok "image") "default" bareOwner.configKey
      { seconds := 0, nanos := 0 }).1 = .done .requeue := by decide +kernel
  exact changes_of_reconcile_requeue rfl current rfl free (Prod.ext requeued rfl)

/-! ## A node scan in the way -/

/-- A cron job without labels, under the name of a node's scan. -/
def unlabelledScan : Stored .cronJob where
  metadata := {
    name := some "audit-node-worker"
    namespaceName := some bareOwner.namespaceName
    uid := some "uid-scan"
    resourceVersion := some "3" }
  content := none
  status := none

/-- A cluster with a configuration that asks for node scans, their inventory, a node, and a cron job
in the way of the node's scan. -/
def blockedCluster : Store where
  tables
    | .auditConfig => .ofList [(bareOwner.configKey, Stored.ofObject nodesConfig)]
    | .configMap =>
        .ofList [(bareOwner.key (Naming.nodeConfigMap bareOwner.name),
          Stored.ofObject
            (Template.Nodes.configMap bareOwner (Pass.Nodes.inventory bareOwner)))]
    | .node =>
        .ofList [(Key.ofCluster "worker",
          { metadata := { name := some "worker" }, content := none, status := none })]
    | .cronJob => .ofList [(bareOwner.key "audit-node-worker", unlabelledScan)]
    | _ => Dictionary.empty
  version := 4

/-- If the scans make a pass stop without a change, it draws a token, does nothing else, and wants
another one to follow. -/
theorem reconcile_of_idle_nodes {store : Store} {images : ImageSource} {now : Instant}
    (quiet : store.faults = [])
    (current : store.stored? .auditConfig bareOwner.configKey = some nodesConfig)
    (gone : Pass.Workloads.Gone bareOwner store.drawn)
    (unscanned : store.selected .pod bareOwner.namespaceName (bareOwner.selector .workloads) = [])
    (idle : (Pass.Nodes.reconcile (store.context "default" nodesConfig bareOwner now)).runOn images
      store.drawn = (.done .changed, store.drawn)) :
    store.reconcile images "default" bareOwner.configKey now = (.done .requeue, store.drawn) := by
  have quietDrawn : store.drawn.faults = [] := quiet
  have identified : (Pass.configured (Owner.of nodesConfig)).runOn images store.drawn =
      (.done bareOwner, store.drawn) :=
    Pass.runOn_configured_eq_done_iff.mpr ⟨rfl, rfl⟩
  have workloads : (Feature.workloads.run
      (store.context "default" nodesConfig bareOwner now)).runOn images store.drawn =
        (.done (.ofChange false none), store.drawn) :=
    ((Pass.Workloads.runOn_tearDown_eq_done_iff quietDrawn).mpr ⟨gone, rfl, rfl⟩).1
  have nodes : (Feature.nodes.run
      (store.context "default" nodesConfig bareOwner now)).runOn images store.drawn =
        (.done .changed, store.drawn) := idle
  have laterFeatures : (Pass.runFeatures (store.context "default" nodesConfig bareOwner now)
      [.nodes, .admission, .scanApi]).runOn images store.drawn =
        (.done (.requeue, []), store.drawn) :=
    Pass.runOn_bind_of_done nodes
  have features : (Pass.runFeatures (store.context "default" nodesConfig bareOwner now)
      Feature.all).runOn images store.drawn = (.done (.requeue, []), store.drawn) :=
    (Pass.runOn_bind_of_done workloads).trans (Pass.runOn_bind_of_done laterFeatures)
  have pods : store.drawn.Lists .pod bareOwner.namespaceName (bareOwner.selector .workloads) [] := by
    have unscannedDrawn : store.drawn.selected .pod bareOwner.namespaceName
        (bareOwner.selector .workloads) = [] := unscanned
    rw [Store.Lists, unscannedDrawn]
    rfl
  have persisted : (Pass.persistStatus (store.context "default" nodesConfig bareOwner now)
      []).runOn images store.drawn = (.done (), store.drawn) :=
    (Pass.runOn_persistStatus_eq_done_iff quietDrawn).mpr
      ⟨[], pods, Or.inl ⟨nextStatus_of_bare rfl, rfl⟩⟩
  rw [Pass.reconcile_of_stays quiet current rfl, Pass.runOn_bind_of_done identified]
  exact (Pass.runOn_bind_of_done features).trans (Pass.runOn_bind_of_done persisted)

section

variable {store : Store} (blocked : blockedCluster.IsLike store) {images : ImageSource}

include blocked

/-- A pass misses the scan of the node, finds the cron job in its place, and wants another one to
follow. -/
theorem runOn_nodes_of_blocked {context : PassContext} (owned : context.owner = bareOwner)
    (resolves : ∃ image, images (Pass.Nodes.request (context.aim images)) = .ok image) :
    (Pass.Nodes.reconcile context).runOn images store = (.done .changed, store) := by
  obtain ⟨config, owner, policy, now, token⟩ := context
  cases owned
  obtain ⟨image, answered⟩ := resolves
  have inventory : store.holds Managed.sameConfigMap
      (bareOwner.key (Naming.nodeConfigMap bareOwner.name))
      (Template.Nodes.configMap bareOwner (Pass.Nodes.inventory bareOwner)) = true :=
    holds_configMap_of_made (blocked.find?_eq .configMap _)
  have listsNodes : store.Lists .node "" "" [workerNode] := by
    have worker : blockedCluster.among .node "" =
      [{ metadata := workerNode.metadata, content := none, status := none }] := rfl
    rw [Store.Lists, Pass.Nodes.selected_empty_selector, among_congr (blocked.find?_eq .node),
      worker]
    rfl
  have plain : Selector.isPlain bareOwner.name = true := by decide
  have listsScans : store.Lists .cronJob bareOwner.namespaceName (bareOwner.selector .nodes)
      [] := by
    have unlabelled : blockedCluster.selected .cronJob bareOwner.namespaceName
        (bareOwner.selector .nodes) = [] := by
      rw [selected, Owner.selector, Labels.parse_ofComponent plain]
      rfl
    rw [Store.Lists, selected_congr (blocked.find?_eq .cronJob), unlabelled]
    rfl
  have named : Naming.nodeCronJob? bareOwner.name "worker" = some "audit-node-worker" := by decide
  obtain ⟨wanted, made⟩ : ∃ wanted, Template.Nodes.cronJob? config.content bareOwner image
      "worker" = some wanted := by
    rw [Template.Nodes.cronJob?, named]
    exact ⟨_, rfl⟩
  have wantedName : wanted.displayName = "audit-node-worker" := by
    have nodeName := Pass.Nodes.displayName_of_cronJob? made
    rw [named] at nodeName
    exact (Option.some.inj nodeName).symm
  have desired : [workerNode].mapM (fun node =>
      Template.Nodes.cronJob? config.content bareOwner image node.displayName) = some [wanted] := by
    have madeHere : Template.Nodes.cronJob? config.content bareOwner image
        workerNode.displayName = some wanted := made
    rw [List.mapM_cons, List.mapM_nil, madeHere]
    rfl
  have scheduled : (Pass.Nodes.desiredCronJobs { config, owner := bareOwner, policy, now, token }
      image [workerNode]).runOn images store = (.done [wanted], store) :=
    Pass.Nodes.runOn_desiredCronJobs_eq_done_iff.mpr ⟨desired, rfl⟩
  have present : store.stored? .cronJob (bareOwner.key wanted.displayName) =
      some { metadata := unlabelledScan.metadata, content := none } := by
    rw [stored?_congr (blocked.find?_eq .cronJob _), wantedName]
    rfl
  refine (Pass.runOn_bind_of_done ((Pass.runOn_ensure_eq_unchanged_iff blocked.quiet).mpr
    ⟨inventory, rfl⟩)).trans ?_
  refine (Pass.runOn_bind_of_done
    (Pass.runOn_resolve_eq_done_iff.mpr ⟨answered, rfl⟩)).trans ?_
  refine (Pass.runOn_bind_of_done ((Pass.runOn_list_eq_done_iff blocked.quiet).mpr
    ⟨listsNodes, rfl⟩)).trans ?_
  refine (Pass.runOn_bind_of_done scheduled).trans ?_
  refine (Pass.runOn_bind_of_done ((Pass.runOn_list_eq_done_iff blocked.quiet).mpr
    ⟨listsScans, rfl⟩)).trans ?_
  have missing : Pass.Nodes.firstOutside (Pass.Nodes.namesOf []) [wanted] = some wanted := rfl
  rw [Pass.Nodes.converge, missing]
  exact Pass.runOn_bind_of_done
    ((Pass.runOn_createIfAbsent_eq_existing_iff blocked.quiet).mpr ⟨present, rfl⟩)

theorem reconcile_of_blocked (resolves : ∀ request, ∃ image, images request = .ok image)
    (now : Instant) :
    store.reconcile images "default" bareOwner.configKey now = (.done .requeue, store.drawn) := by
  have current : store.stored? .auditConfig bareOwner.configKey = some nodesConfig := by
    rw [stored?_congr (blocked.find?_eq .auditConfig _)]
    rfl
  have gone : Pass.Workloads.Gone bareOwner store.drawn := {
    deployment := blocked.drawn.find?_eq .deployment _
    configMap := blocked.drawn.find?_eq .configMap _ }
  have unscanned : store.selected .pod bareOwner.namespaceName (bareOwner.selector .workloads) =
      [] := by
    rw [selected_congr (blocked.find?_eq .pod)]
    rfl
  exact reconcile_of_idle_nodes blocked.quiet current gone unscanned
    (runOn_nodes_of_blocked blocked.drawn rfl (resolves _))

end

/-- A cron job without labels, in the way of a node's scan, makes every pass want another one to
follow, and none of them does anything. -/
theorem exists_requeue_without_change :
    blockedCluster.faults = [] ∧
      blockedCluster.stored? .auditConfig bareOwner.configKey = some nodesConfig ∧
      nodesConfig.metadata.deletionTimestamp = none ∧ Owner.of nodesConfig = .ok bareOwner ∧
      Naming.isValid bareOwner.name = true ∧ Naming.isValid bareOwner.namespaceName = true ∧
      ∀ passes,
        blockedCluster.passEnding (fun _ => .ok "image") "default" bareOwner.configKey
          (fun _ => { seconds := 0, nanos := 0 }) passes = .done .requeue ∧
        (blockedCluster.afterPasses (fun _ => .ok "image") "default" bareOwner.configKey
          (fun _ => { seconds := 0, nanos := 0 }) passes).log = [] := by
  have resolves : ∀ request : ImageRequest, ∃ image,
      (fun _ => .ok "image" : ImageSource) request = .ok image := fun _ => ⟨"image", rfl⟩
  refine ⟨rfl, rfl, rfl, rfl, by decide, by decide, ?_⟩
  intro passes
  have blocked := isLike_afterPasses rfl
    (fun _ now blocked => congrArg Prod.snd (reconcile_of_blocked blocked resolves now))
    (fun _ => { seconds := 0, nanos := 0 }) passes
  refine ⟨?_, blocked.log⟩
  rw [passEnding, reconcile_of_blocked blocked resolves]

end ClusterAudit
