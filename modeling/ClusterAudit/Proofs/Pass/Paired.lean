import ClusterAudit.Proofs.Pass.Lockstep
import ClusterAudit.Proofs.Pass.Status
import ClusterAudit.Proofs.Work.Admission
import ClusterAudit.Proofs.Work.Nodes

/-!
Passes at two times and with two tokens keep step. The time goes into a restart and into the
conditions of the status, and the token into its secret; nothing that a pass does depends on them.
-/

namespace ClusterAudit

open Store

/-- The same pass at another time and with another token. -/
def PassContext.again (context : PassContext) (now : Instant) (token : String) : PassContext :=
  { context with now, token }

/-- Two runs of a feature end in the same way. If it is done, nothing was written. -/
structure Feature.Ends (feature : Feature) (later : List Kind) (outcome other : Outcome) :
    Prop where
  same : other = outcome
  unwritten : outcome.progress = .done → later = []
  type : ∀ update ∈ outcome.condition, update.type = feature.conditionType

theorem Feature.Ends.changed {feature : Feature} {later : List Kind} :
    feature.Ends later .changed .changed where
  same := rfl
  unwritten := nofun
  type := nofun

/-- A feature that is switched off changes nothing if nothing was written. -/
theorem Feature.Ends.ofChange {feature : Feature} {later : List Kind} {changed : Bool}
    {context : PassContext} (unwritten : changed = false → later = []) :
    feature.Ends later (.ofChange changed (feature.reportDisabled context))
      (.ofChange changed (feature.reportDisabled context)) where
  same := rfl
  unwritten isDone := unwritten (Outcome.progress_ofChange_eq_done_iff.mp isDone)
  type _ reported := Feature.type_of_reportDisabled reported

namespace Pass

variable {images : ImageSource} {before : Store} {context : PassContext} (now : Instant)
  (token : String) (quiet : before.faults = [])

/-- A step that changes something ends the feature; what follows it finds nothing written. -/
theorem inStep_guard {owner : Owner} {kind : Kind} {feature : Feature} {step : Pass Change}
    {rest again : Pass Outcome}
    (stepped : InStep images owner before
      (fun later change other =>
        other = change ∧ later = if change.isMutation then [kind] else []) [] step step)
    (followed : InStep images owner before feature.Ends [] rest again) :
    InStep images owner before feature.Ends []
      (step >>= fun change => if change.isMutation = true then pure .changed else rest)
      (step >>= fun change => if change.isMutation = true then pure .changed else again) := by
  apply stepped.bind
  rintro later _ change ⟨rfl, rfl⟩
  cases mutated : change.isMutation with
  | true => exact .done .changed
  | false => simpa using followed

/-! ## The workload scanner -/

section Workloads

include quiet

theorem inStep_removeLegacy :
    InStep images context.owner before
      (fun later removed other => other = removed ∧ later = if removed then [.deployment] else [])
      [] (Workloads.removeLegacy context) (Workloads.removeLegacy context) := by
  have reached : context.owner.Reaches before .deployment
      (context.key (Naming.legacyWorkloadDeployment context.name)) := .named _ .legacy
  apply (inStep_get quiet (Or.inr ⟨reached, List.not_mem_nil⟩)).bind
  rintro later _ found ⟨rfl, rfl, finds⟩
  cases found with
  | none => exact .done ⟨rfl, rfl⟩
  | some legacy =>
      change InStep images context.owner before _ [] (ite _ _ _ : Pass Bool)
        (ite _ _ _ : Pass Bool)
      split
      · exact inStep_deleteIfPresent reached
      · exact .done ⟨rfl, rfl⟩

theorem inStep_workloads_settle (live : Deployment) :
    InStep images context.owner before Feature.workloads.Ends []
      (Workloads.settle context live) (Workloads.settle context live) := by
  have type : ∀ update ∈ some (Workloads.condition live),
      update.type = Feature.workloads.conditionType := by
    rintro update ⟨rfl⟩
    rw [Workloads.condition]
    split <;> rfl
  rw [Workloads.settle]
  split
  · exact .done { same := rfl, unwritten := fun _ => rfl, type }
  · apply (inStep_removeLegacy quiet).bind
    rintro later _ removed ⟨rfl, rfl⟩
    refine .done { same := rfl, unwritten := ?_, type }
    intro isDone
    rw [Outcome.progress_ofChange_eq_done_iff] at isDone
    simp [isDone]

theorem inStep_workloads_converge {live desired : Deployment} (inventory : String)
    (present : before.stored? .deployment
      (context.owner.key (Naming.workloadDeployment context.owner.name)) = some live) :
    InStep images context.owner before Feature.workloads.Ends []
      (Workloads.converge context live desired inventory)
      (Workloads.converge (context.again now token) live desired inventory) := by
  have reached : context.owner.Reaches before .deployment
      (context.owner.key live.displayName) :=
    .of_displayed rfl (.part .workloads _ _ List.mem_cons_self) present
  have updates : ∀ {object offered : Deployment}, object.displayName = live.displayName →
      object.Alike offered →
      InStep images context.owner before Feature.workloads.Ends []
        (update context.namespaceName object >>= fun _ => (pure .changed : Pass Outcome))
        (update context.namespaceName offered >>= fun _ => (pure .changed : Pass Outcome)) := by
    intro object offered named alike
    have namedToo : offered.displayName = live.displayName := by
      rw [← named, Object.displayName, Object.displayName, alike.metadata]
    rw [update, update, named, namedToo]
    apply (inStep_replace reached List.not_mem_nil alike fun isScan => by cases isScan).bind
    rintro later one two rfl
    exact .done .changed
  rw [Workloads.converge, Workloads.converge]
  split
  · have named : (Workloads.merged live desired).displayName = live.displayName := by
      rw [Workloads.merged]
      split <;> rfl
    exact updates named .refl
  · dsimp only
    split
    · exact updates rfl (alike_restarted live context.now now _)
    · exact inStep_workloads_settle quiet live

theorem inStep_workloads_reconcile :
    InStep images context.owner before Feature.workloads.Ends [] (Workloads.reconcile context)
      (Workloads.reconcile (context.again now token)) := by
  apply inStep_guard
  · exact inStep_ensure quiet List.not_mem_nil rfl nofun rfl
      (.part .workloads _ _ (List.mem_cons_of_mem _ List.mem_cons_self)) fun _ => rfl
  · apply (inStep_resolve _).bind
    rintro later _ image ⟨rfl, rfl⟩
    have reached : context.owner.Reaches before .deployment
        (context.owner.key (Naming.workloadDeployment context.owner.name)) :=
      .of_part .workloads List.mem_cons_self
    dsimp only
    apply (inStep_createIfAbsent quiet List.not_mem_nil rfl reached (by nofun)).bind
    rintro later (one | live) (two | other) applied
    · exact .done .changed
    · cases applied
    · cases applied
    · obtain ⟨rfl, rfl, present⟩ := applied
      exact inStep_workloads_converge now token quiet _ present

omit quiet in
theorem inStep_workloads_tearDown :
    InStep images context.owner before Feature.workloads.Ends [] (Workloads.tearDown context)
      (Workloads.tearDown context) := by
  apply (inStep_deleteIfPresent (.of_part .workloads List.mem_cons_self)).bind
  rintro later _ deployment ⟨rfl, rfl⟩
  apply (inStep_deleteIfPresent
    (.of_part .workloads (List.mem_cons_of_mem _ List.mem_cons_self))).bind
  rintro last _ configMap ⟨rfl, rfl⟩
  refine .done (.ofChange ?_)
  intro unchanged
  obtain ⟨rfl, rfl⟩ := Bool.or_eq_false_iff.mp unchanged
  rfl

end Workloads

/-! ## The node scanners -/

section Nodes

variable (plain : Selector.isPlain context.owner.name = true) {desired live : List CronJob}

/-- What the pass may want and what it has found of the node scanners. -/
structure Nodes.Plans (context : PassContext) (before : Store) (desired live : List CronJob) :
    Prop where
  wanted : ∀ scan ∈ desired,
    context.owner.Reaches before .cronJob (context.owner.key scan.displayName) ∧
      scan.metadata.name = some scan.displayName ∧
      context.owner.marks .nodes scan.metadata = true
  found : ∀ scan ∈ live,
    context.owner.Reaches before .cronJob (context.owner.key scan.displayName)

include plain in
theorem Nodes.reaches_of_lists
    (lists : before.Lists .cronJob context.owner.namespaceName (context.owner.selector .nodes) live)
    {scan : CronJob} (member : scan ∈ live) :
    context.owner.Reaches before .cronJob (context.owner.key scan.displayName) := by
  obtain ⟨stored, selected, read⟩ := exists_of_mem_values_of_mapM lists member
  obtain ⟨⟨key, inNamespace, found⟩, marked⟩ := (Nodes.mem_selected_iff_marks plain).mp selected
  rw [Object.displayName, Stored.metadata_of_read? read]
  exact .displayed key stored rfl (.scan key stored inNamespace found marked) found

include plain in
theorem Nodes.plans_of_lists {image : String} {nodes : List (Object .node)}
    (listsNodes : before.Lists .node "" "" nodes)
    (made : (nodes.mapM fun node =>
      Template.Nodes.cronJob? context.spec context.owner image node.displayName) = some desired)
    (lists : before.Lists .cronJob context.owner.namespaceName (context.owner.selector .nodes)
      live) : Nodes.Plans context before desired live where
  wanted := by
    intro scan member
    obtain ⟨node, among, named⟩ := (Nodes.mem_namesOf_desired_iff listsNodes made).mp
      (Nodes.mem_namesOf_iff.mpr ⟨scan, member, rfl⟩)
    obtain ⟨_, _, nodeMade⟩ := exists_of_mem_values_of_mapM made member
    obtain ⟨name, _, rfl⟩ := Option.map_eq_some_iff.mp nodeMade
    exact ⟨.named _ (.node node _ among named), rfl, Labels.isMatch_entries _⟩
  found _ member := Nodes.reaches_of_lists plain lists member

theorem inStep_nodes_converge (quiet : before.faults = [])
    (plans : Nodes.Plans context before desired live) :
    InStep images context.owner before Feature.nodes.Ends [] (Nodes.converge context desired live)
      (Nodes.converge context desired live) := by
  rw [Nodes.converge]
  split
  · rename_i missing first
    obtain ⟨reached, named, marked⟩ := plans.wanted missing (List.mem_of_find?_eq_some first)
    apply (inStep_createIfAbsent quiet List.not_mem_nil named reached fun _ => marked).bind
    rintro later one two _
    exact .done .changed
  · split
    · rename_i found wanted drifted
      obtain ⟨member, _, sameName, _⟩ := Nodes.exists_of_firstDrifted?_eq_some drifted
      obtain ⟨reached, _, marked⟩ := plans.wanted wanted member
      have merged : (Managed.mergeCronJob found wanted).displayName = wanted.displayName := sameName
      have mergedMarked :
          context.owner.marks .nodes (Managed.mergeCronJob found wanted).metadata = true := marked
      rw [update, merged]
      apply (inStep_replace reached List.not_mem_nil .refl fun _ => mergedMarked).bind
      rintro later one two rfl
      exact .done .changed
    · split
      · rename_i orphan first
        apply (inStep_deleteIfPresent
          (plans.found orphan (List.mem_of_find?_eq_some first))).bind
        rintro later _ deleted ⟨rfl, rfl⟩
        exact .done .changed
      · refine .done { same := rfl, unwritten := fun _ => rfl, type := ?_ }
        rintro update ⟨rfl⟩
        rw [Nodes.condition]
        split <;> rfl

include plain quiet in
theorem inStep_nodes_reconcile :
    InStep images context.owner before Feature.nodes.Ends [] (Nodes.reconcile context)
      (Nodes.reconcile context) := by
  apply inStep_guard
  · exact inStep_ensure quiet List.not_mem_nil rfl nofun rfl
      (.part .nodes _ _ List.mem_cons_self) fun _ => rfl
  · apply (inStep_resolve _).bind
    rintro later _ image ⟨rfl, rfl⟩
    apply (inStep_list quiet (Or.inl rfl)).bind
    rintro later _ nodes ⟨rfl, rfl, listsNodes⟩
    rw [Nodes.desiredCronJobs]
    split
    · rename_i desired made
      apply (inStep_list quiet (Or.inr ⟨rfl, rfl, rfl, List.not_mem_nil⟩)).bind
      rintro later _ live ⟨rfl, rfl, lists⟩
      exact inStep_nodes_converge quiet (Nodes.plans_of_lists plain listsNodes made lists)
    · exact .crash

theorem inStep_deleteAll {written : List Kind}
    (reached : ∀ scan ∈ live,
      context.owner.Reaches before .cronJob (context.owner.key scan.displayName)) :
    InStep images context.owner before
      (fun later deleted other => other = deleted ∧ (deleted = false → later = written)) written
      (Nodes.deleteAll context live) (Nodes.deleteAll (context.again now token) live) := by
  induction live generalizing written with
  | nil => exact .done ⟨rfl, fun _ => rfl⟩
  | cons scan rest inductionHypothesis =>
      obtain ⟨first, others⟩ := List.forall_mem_cons.mp reached
      apply (inStep_deleteIfPresent first).bind
      rintro later _ deleted ⟨rfl, rfl⟩
      apply (inductionHypothesis others).bind
      rintro last _ deletedRest ⟨rfl, unchanged⟩
      refine .done ⟨rfl, ?_⟩
      intro neither
      obtain ⟨restKept, firstKept⟩ := Bool.or_eq_false_iff.mp neither
      rw [unchanged restKept, firstKept]
      rfl

include plain quiet in
theorem inStep_nodes_tearDown :
    InStep images context.owner before Feature.nodes.Ends [] (Nodes.tearDown context)
      (Nodes.tearDown (context.again now token)) := by
  apply (inStep_list quiet (Or.inr ⟨rfl, rfl, rfl, List.not_mem_nil⟩)).bind
  rintro later _ live ⟨rfl, rfl, lists⟩
  apply (inStep_deleteAll now token fun scan member =>
    Nodes.reaches_of_lists plain lists member).bind
  rintro later _ scans ⟨rfl, unchanged⟩
  apply (inStep_deleteIfPresent (.of_part .nodes List.mem_cons_self)).bind
  rintro last _ configMap ⟨rfl, rfl⟩
  refine .done (.ofChange ?_)
  intro neither
  obtain ⟨scansKept, rfl⟩ := Bool.or_eq_false_iff.mp neither
  exact unchanged scansKept

end Nodes

/-! ## The webhook -/

section Admission

variable {owner : Owner} {config : AuditConfig}

/-- A pass writes the finalizers of its configuration back to where it has read them. -/
theorem inStep_withFinalizers {written : List Kind} (owned : Owner.of config = .ok owner)
    (finalizers : List String) (clear : .auditConfig ∉ written) :
    InStep images owner before (fun _ _ _ => True) written
      (configured (Admission.namespaceOf config) >>= fun namespaceName =>
        update namespaceName (Admission.withFinalizers config finalizers) >>= fun _ =>
          (pure () : Pass Unit))
      (configured (Admission.namespaceOf config) >>= fun namespaceName =>
        update namespaceName (Admission.withFinalizers config finalizers) >>= fun _ =>
          (pure () : Pass Unit)) := by
  have displayed : (Admission.withFinalizers config finalizers).displayName = owner.name :=
    Owner.displayName_of_eq_ok owned
  have reached : owner.Reaches before .auditConfig owner.configKey := .named _ .config
  apply (inStep_configured _).bind
  rintro later _ namespaceName ⟨rfl, rfl, placed⟩
  rw [Admission.namespaceOf, Owner.namespaceName_of_eq_ok owned] at placed
  cases placed
  rw [update, displayed]
  apply (inStep_replace reached clear .refl fun isScan => by cases isScan).bind
  rintro last one two rfl
  exact .done trivial

theorem inStep_removeFinalizer {written : List Kind} (owned : Owner.of config = .ok owner)
    (clear : .auditConfig ∉ written) :
    InStep images owner before (fun _ _ _ => True) written (Admission.removeFinalizer config)
      (Admission.removeFinalizer config) :=
  inStep_withFinalizers owned _ clear

theorem inStep_finalize (owned : Owner.of config = .ok owner) :
    InStep images owner before (fun _ _ _ => True) [] (Admission.finalize config)
      (Admission.finalize config) := by
  rw [Admission.finalize]
  split
  · apply (inStep_configured _).bind
    rintro later _ namespaceName ⟨rfl, rfl, placed⟩
    rw [Admission.namespaceOf, Owner.namespaceName_of_eq_ok owned] at placed
    cases placed
    rw [Owner.displayName_of_eq_ok owned]
    apply (inStep_deleteIfPresent (.named _ .registration)).bind
    rintro last _ deleted ⟨rfl, rfl⟩
    have clear : Kind.auditConfig ∉ if deleted then [Kind.webhookConfiguration] else [] := by
      cases deleted <;> decide
    exact inStep_removeFinalizer owned clear
  · exact .done trivial

section

variable (owned : Owner.of context.config = .ok context.owner)

include quiet

theorem inStep_admission_converge (desired : Deployment)
    (named : desired.metadata.name = some (Naming.webhookDeployment context.owner.name)) :
    InStep images context.owner before Feature.admission.Ends []
      (Admission.converge context desired) (Admission.converge context desired) := by
  have displayed : desired.displayName = Naming.webhookDeployment context.owner.name := by
    rw [Object.displayName, Metadata.displayName, named]
    rfl
  have belongs : context.owner.Names before .deployment
      (context.owner.key desired.displayName) := by
    rw [displayed]
    exact .part .admission _ _ List.mem_cons_self
  apply inStep_guard
  · exact inStep_ensure quiet List.not_mem_nil (displayed ▸ named) (by decide) rfl belongs fun _ => rfl
  · apply inStep_guard
    · exact inStep_ensure quiet List.not_mem_nil rfl (by decide) rfl
        (.part .admission _ _ (List.mem_cons_of_mem _ List.mem_cons_self)) fun _ => rfl
    · apply inStep_guard
      · exact inStep_ensureCluster quiet List.not_mem_nil rfl (by decide) (.named _ .registration)
      · apply (inStep_get quiet (Or.inr ⟨.named _ belongs, List.not_mem_nil⟩)).bind
        rintro later _ live ⟨rfl, rfl, _⟩
        refine .done { same := rfl, unwritten := fun _ => rfl, type := ?_ }
        rintro update ⟨rfl⟩
        rw [Admission.condition]
        split <;> rfl

include owned

theorem inStep_admission_reconcile :
    InStep images context.owner before Feature.admission.Ends [] (Admission.reconcile context)
      (Admission.reconcile context) := by
  rw [Admission.reconcile]
  split
  · rw [Admission.addFinalizer]
    apply (inStep_withFinalizers owned _ List.not_mem_nil).bind
    intro later one two _
    exact .done .changed
  · apply (inStep_resolve _).bind
    rintro later _ image ⟨rfl, rfl⟩
    exact inStep_admission_converge quiet _ rfl

omit quiet in
theorem inStep_admission_tearDown :
    InStep images context.owner before Feature.admission.Ends [] (Admission.tearDown context)
      (Admission.tearDown context) := by
  apply (inStep_deleteIfPresent (.named _ .registration)).bind
  rintro first _ registration ⟨rfl, rfl⟩
  apply (inStep_deleteIfPresent (.of_part .admission List.mem_cons_self)).bind
  rintro second _ deployment ⟨rfl, rfl⟩
  apply (inStep_deleteIfPresent
    (.of_part .admission (List.mem_cons_of_mem _ List.mem_cons_self))).bind
  rintro third _ service ⟨rfl, rfl⟩
  cases guarded : Admission.hasFinalizer context.config with
  | true =>
      simp only [if_true]
      refine (inStep_removeFinalizer owned ?_).bind ?_
      · cases registration <;> cases deployment <;> cases service <;> decide
      · intro last one two _
        exact .done (.ofChange fun unchanged => by simp at unchanged)
  | false =>
      simp only [Bool.false_eq_true, if_false]
      refine .done (.ofChange ?_)
      intro unchanged
      simp only [Bool.or_eq_false_iff] at unchanged
      obtain ⟨⟨⟨rfl, rfl⟩, rfl⟩, _⟩ := unchanged
      rfl

end

end Admission

/-! ## The scan API -/

section ScanApi

include quiet

/-- A secret, a deployment and a service are brought into place one after the other, even if an
earlier one was changed; each is of a kind of its own. -/
theorem inStep_scanApi_deploy {owner : Owner} (offered other : String) (desired : Deployment)
    (named : desired.metadata.name = some (Naming.scanApi owner.name)) :
    InStep images owner before
      (fun later changed same => same = changed ∧ (changed = false → later = [])) []
      (ScanApi.deploy owner offered desired) (ScanApi.deploy owner other desired) := by
  have displayed : desired.displayName = Naming.scanApi owner.name := by
    rw [Object.displayName, Metadata.displayName, named]
    rfl
  have belongs : owner.Names before .deployment (owner.key desired.displayName) := by
    rw [displayed]
    exact .part .scanApi _ _ (List.mem_cons_of_mem _ List.mem_cons_self)
  apply (inStep_createTolerant (.of_part .scanApi List.mem_cons_self) List.not_mem_nil
    (alike_tokenSecret owner offered other) fun isScan => by cases isScan).bind
  rintro first _ secret ⟨rfl, rfl⟩
  have clear : Kind.deployment ∉ if secret then [Kind.secret] else [] := by
    cases secret <;> decide
  apply (inStep_ensure quiet clear (displayed ▸ named) (by decide) rfl belongs fun _ => rfl).bind
  rintro second _ deployment ⟨rfl, rfl⟩
  have clearToo : Kind.service ∉ if deployment.isMutation then
      Kind.deployment :: (if secret then [Kind.secret] else [])
      else if secret then [Kind.secret] else [] := by
    cases secret <;> cases deployment.isMutation <;> decide
  apply (inStep_ensure quiet clearToo rfl (by decide) rfl (.part .scanApi _ _
    (List.mem_cons_of_mem _ (List.mem_cons_of_mem _ List.mem_cons_self))) fun _ => rfl).bind
  rintro third _ service ⟨rfl, rfl⟩
  refine .done ⟨rfl, ?_⟩
  intro unchanged
  simp only [Bool.or_eq_false_iff] at unchanged
  obtain ⟨⟨rfl, deploymentKept⟩, serviceKept⟩ := unchanged
  simp [deploymentKept, serviceKept]

theorem inStep_scanApi_reconcile :
    InStep images context.owner before Feature.scanApi.Ends [] (ScanApi.reconcile context)
      (ScanApi.reconcile (context.again now token)) := by
  apply (inStep_resolve _).bind
  rintro later _ image ⟨rfl, rfl⟩
  apply (inStep_scanApi_deploy quiet context.token token _ rfl).bind
  rintro last _ changed ⟨rfl, unchanged⟩
  cases changed with
  | true => exact .done .changed
  | false =>
      rw [unchanged rfl]
      have reached : context.owner.Reaches before .deployment
          (context.owner.key (Naming.scanApi context.owner.name)) :=
        .of_part .scanApi (List.mem_cons_of_mem _ List.mem_cons_self)
      apply (inStep_get quiet (Or.inr ⟨reached, List.not_mem_nil⟩)).bind
      rintro later _ live ⟨rfl, rfl, _⟩
      refine .done { same := rfl, unwritten := fun _ => rfl, type := ?_ }
      rintro update ⟨rfl⟩
      rw [ScanApi.condition]
      split <;> rfl

omit quiet in
theorem inStep_scanApi_tearDown :
    InStep images context.owner before Feature.scanApi.Ends [] (ScanApi.tearDown context)
      (ScanApi.tearDown context) := by
  have removed : InStep images context.owner before
      (fun later deleted other => other = deleted ∧ (deleted = false → later = [])) []
      (ScanApi.cleanup context.owner) (ScanApi.cleanup context.owner) := by
    apply (inStep_deleteIfPresent (.of_part .scanApi List.mem_cons_self)).bind
    rintro first _ secret ⟨rfl, rfl⟩
    apply (inStep_deleteIfPresent
      (.of_part .scanApi (List.mem_cons_of_mem _ List.mem_cons_self))).bind
    rintro second _ deployment ⟨rfl, rfl⟩
    apply (inStep_deleteIfPresent (.of_part .scanApi
      (List.mem_cons_of_mem _ (List.mem_cons_of_mem _ List.mem_cons_self)))).bind
    rintro third _ service ⟨rfl, rfl⟩
    refine .done ⟨rfl, ?_⟩
    intro unchanged
    simp only [Bool.or_eq_false_iff] at unchanged
    obtain ⟨⟨rfl, rfl⟩, rfl⟩ := unchanged
    rfl
  apply removed.bind
  rintro later _ deleted ⟨rfl, unchanged⟩
  exact .done (.ofChange unchanged)

end ScanApi

/-! ## Whole passes -/

section

variable (plain : Selector.isPlain context.owner.name = true)
  (owned : Owner.of context.config = .ok context.owner)

include quiet plain owned in
theorem inStep_run (feature : Feature) :
    InStep images context.owner before feature.Ends [] (feature.run context)
      (feature.run (context.again now token)) := by
  rw [Feature.run, Feature.run]
  change InStep images context.owner before feature.Ends []
    (if feature.isEnabled context.spec = true then feature.reconcile context
      else feature.tearDown context)
    (if feature.isEnabled context.spec = true then feature.reconcile (context.again now token)
      else feature.tearDown (context.again now token))
  split
  · cases feature with
    | workloads => exact inStep_workloads_reconcile now token quiet
    | nodes => exact inStep_nodes_reconcile quiet plain
    | admission => exact inStep_admission_reconcile quiet owned
    | scanApi => exact inStep_scanApi_reconcile now token quiet
  · cases feature with
    | workloads => exact inStep_workloads_tearDown
    | nodes => exact inStep_nodes_tearDown now token quiet plain
    | admission => exact inStep_admission_tearDown owned
    | scanApi => exact inStep_scanApi_tearDown

include quiet plain owned in
/-- The features report the same, each of them at most once. -/
theorem inStep_runFeatures (features : List Feature) :
    InStep images context.owner before
      (fun _ result other => other = result ∧
        (result.2.map ConditionUpdate.type).Sublist (features.map Feature.conditionType)) []
      (runFeatures context features) (runFeatures (context.again now token) features) := by
  induction features with
  | nil => exact .done ⟨rfl, .slnil⟩
  | cons feature rest inductionHypothesis =>
      apply (inStep_run now token quiet plain owned feature).bind
      rintro later _ outcome ⟨rfl, unwritten, type⟩
      have reported : (outcome.condition.toList.map ConditionUpdate.type).Sublist
          [feature.conditionType] := by
        cases condition : outcome.condition with
        | none => exact List.nil_sublist _
        | some update =>
            rw [Option.toList_some, List.map_singleton, type update condition]
      cases progress : outcome.progress with
      | requeue =>
          exact .note (.done ⟨rfl, reported.trans (List.sublist_append_left _ _)⟩)
      | done =>
          rw [unwritten progress]
          apply inductionHypothesis.bind
          rintro last ⟨_, updates⟩ _ ⟨rfl, types⟩
          refine .done ⟨rfl, ?_⟩
          rw [List.map_append]
          exact reported.append types

/-- A report is written at all or not whatever the time is, as what it would say is known. -/
theorem nextStatus_eq_iff (context : PassContext) {updates : List ConditionUpdate}
    (different : (updates.map ConditionUpdate.type).Nodup) (pods : List (Object .pod)) :
    nextStatus context updates pods = context.config.status.getD {} ↔
      (∀ update ∈ updates, ∃ condition,
        Condition.find? context.conditions update.type = some condition ∧
          condition.carries update) ∧
      (pods.map Object.displayName).mergeSort = (context.config.status.getD {}).pods := by
  have kept : Condition.applyUpdates context.conditions updates context.now =
      context.conditions ↔ _ := Condition.applyUpdates_eq_self_iff different
  rw [← kept, nextStatus, PassContext.conditions]
  cases context.config.status.getD {}
  simp only [AuditConfigStatus.mk.injEq]

include quiet in
theorem inStep_persistStatus {updates : List ConditionUpdate} {written : List Kind}
    (different : (updates.map ConditionUpdate.type).Nodup) :
    InStep images context.owner before (fun _ _ _ => True) written
      (persistStatus context updates) (persistStatus (context.again now token) updates) := by
  apply (inStep_list quiet (Or.inl rfl)).bind
  rintro later _ pods ⟨rfl, rfl, _⟩
  have same : nextStatus (context.again now token) updates pods =
        (context.again now token).config.status.getD {} ↔
      nextStatus context updates pods = context.config.status.getD {} :=
    (nextStatus_eq_iff (context.again now token) different pods).trans
      (nextStatus_eq_iff context different pods).symm
  by_cases kept : nextStatus context updates pods = context.config.status.getD {}
  · simp only [kept, same.mpr kept, if_true]
    exact .done trivial
  · simp only [kept, mt same.mp kept, if_false]
    have alike : (nextStatus context updates pods).Alike
        (nextStatus (context.again now token) updates pods) :=
      { conditions := Condition.map_report_applyUpdates rfl updates context.now now
        pods := rfl }
    exact .patchStatus (.named _ .config) alike (fun _ => .fail) (.done trivial)

end

variable {policyName : String} {owner : Owner}

theorem inStep_operatorPolicy (quiet : before.faults = []) :
    InStep images owner before (fun later policy other => later = [] ∧ other = policy) []
      (operatorPolicy policyName) (operatorPolicy policyName) := by
  apply (inStep_get quiet (Or.inl rfl)).bind
  rintro _ _ (_ | policy) ⟨rfl, rfl, _⟩
  · exact .done ⟨rfl, rfl⟩
  · exact .done ⟨rfl, rfl⟩

/-- A pass at any time and with any token does the same as at another time and with another one. -/
theorem inStep_reconcile (quiet : before.faults = []) (plain : Selector.isPlain owner.name = true)
    (owned : ∀ config, before.stored? .auditConfig owner.configKey = some config →
      Owner.of config = .ok owner) (now later : Instant) (token other : String) :
    InStep images owner before (fun _ progress same => same = progress) []
      (reconcile policyName owner.configKey now token)
      (reconcile policyName owner.configKey later other) := by
  apply (inStep_get quiet (Or.inr ⟨.named _ .config, List.not_mem_nil⟩)).bind
  rintro _ _ found ⟨rfl, rfl, finds⟩
  cases found with
  | none => exact .done rfl
  | some config =>
      have belongs : Owner.of config = .ok owner := owned config finds
      cases deleted : config.metadata.deletionTimestamp.isSome with
      | true =>
          simp only [deleted, if_true]
          apply (inStep_finalize belongs).bind
          intro _ _ _ _
          exact .done rfl
      | false =>
          simp only [deleted, Bool.false_eq_true, if_false]
          apply (inStep_operatorPolicy quiet).bind
          rintro _ _ policy ⟨rfl, rfl⟩
          apply (inStep_configured _).bind
          rintro _ _ maker ⟨rfl, rfl, made⟩
          rw [belongs] at made
          cases made
          let context : PassContext := { config, owner, policy, now, token }
          change InStep images context.owner before _ []
            (runFeatures context Feature.all >>= _)
            (runFeatures (context.again later other) Feature.all >>= _)
          apply (inStep_runFeatures later other quiet plain belongs Feature.all).bind
          rintro written _ ⟨progress, updates⟩ ⟨rfl, types⟩
          have different : (updates.map ConditionUpdate.type).Nodup := types.nodup (by decide)
          apply (inStep_persistStatus later other quiet different).bind
          intro _ _ _ _
          exact .done rfl

end Pass

end ClusterAudit
