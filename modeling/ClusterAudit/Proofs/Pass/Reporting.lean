import ClusterAudit.Proofs.Chronicle
import ClusterAudit.Proofs.Discipline

/-!
What passes report. A pass writes its report with its last call. The types of the conditions in it
are those that the pass has loaded, and after them those of features that the configuration asks
for.
-/

namespace ClusterAudit

namespace Pass

variable {First Second Result : Type} {quiet reports : Call → Prop}

/-! ## Ends -/

/-- However its calls are answered, a pass that is done ends in a given way. -/
def EndsIn (ended : Result → Prop) : Pass Result → Prop
  | .done result => ended result
  | .fail _ => True
  | .crash => True
  | .call _ next => ∀ reply, EndsIn ended (next reply)
  | .image _ next => ∀ reply, EndsIn ended (next reply)
  | .note _ next => EndsIn ended next

section

variable {ended : Second → Prop} {first : Pass First} {second : First → Pass Second}

theorem endsIn_bind {middle : First → Prop} (firstEnds : first.EndsIn middle)
    (secondEnds : ∀ value, middle value → (second value).EndsIn ended) :
    (first >>= second).EndsIn ended := by
  change (first.andThen second).EndsIn ended
  induction first with
  | done value => exact secondEnds value firstEnds
  | fail error => trivial
  | crash => trivial
  | call request next inductionHypothesis =>
      exact fun reply => inductionHypothesis reply (firstEnds reply)
  | image request next inductionHypothesis =>
      exact fun reply => inductionHypothesis reply (firstEnds reply)
  | note feature next inductionHypothesis => exact inductionHypothesis firstEnds

theorem endsIn_of_forall {ended : Result → Prop} (each : ∀ result, ended result)
    (pass : Pass Result) : pass.EndsIn ended := by
  induction pass with
  | done result => exact each result
  | fail error => trivial
  | crash => trivial
  | call request next inductionHypothesis => exact inductionHypothesis
  | image request next inductionHypothesis => exact inductionHypothesis
  | note feature next inductionHypothesis => exact inductionHypothesis

theorem EndsIn.mono {weaker stronger : Result → Prop} {pass : Pass Result}
    (ends : pass.EndsIn stronger) (implies : ∀ result, stronger result → weaker result) :
    pass.EndsIn weaker := by
  induction pass with
  | done result => exact implies result ends
  | fail error => trivial
  | crash => trivial
  | call request next inductionHypothesis =>
      exact fun reply => inductionHypothesis reply (ends reply)
  | image request next inductionHypothesis =>
      exact fun reply => inductionHypothesis reply (ends reply)
  | note feature next inductionHypothesis => exact inductionHypothesis ends

theorem endsIn_bind_right (secondEnds : ∀ value, (second value).EndsIn ended) :
    (first >>= second).EndsIn ended :=
  endsIn_bind (endsIn_of_forall (fun _ => trivial) first) fun value (_ : True) => secondEnds value

end

/-! ## One report -/

/-- A pass makes only quiet calls, but for one report, and none after that. -/
def ReportsLast (quiet reports : Call → Prop) : Pass Result → Prop
  | .done _ => True
  | .fail _ => True
  | .crash => True
  | .call request next =>
      (quiet request ∧ ∀ reply, ReportsLast quiet reports (next reply)) ∨
        (reports request ∧ ∀ reply, (next reply).CallsOnly fun _ => False)
  | .image _ next => ∀ reply, ReportsLast quiet reports (next reply)
  | .note _ next => ReportsLast quiet reports next

theorem CallsOnly.reportsLast {pass : Pass Result} (only : pass.CallsOnly quiet) :
    pass.ReportsLast quiet reports := by
  induction pass with
  | done result => trivial
  | fail error => trivial
  | crash => trivial
  | call request next inductionHypothesis =>
      exact Or.inl ⟨only.1, fun reply => inductionHypothesis reply (only.2 reply)⟩
  | image request next inductionHypothesis =>
      exact fun reply => inductionHypothesis reply (only reply)
  | note feature next inductionHypothesis => exact inductionHypothesis only

section

variable {first : Pass First} {second : First → Pass Second}

theorem reportsLast_bind {middle : First → Prop} (only : first.CallsOnly quiet)
    (firstEnds : first.EndsIn middle)
    (secondReports : ∀ value, middle value → (second value).ReportsLast quiet reports) :
    (first >>= second).ReportsLast quiet reports := by
  change (first.andThen second).ReportsLast quiet reports
  induction first with
  | done value => exact secondReports value firstEnds
  | fail error => trivial
  | crash => trivial
  | call request next inductionHypothesis =>
      exact Or.inl ⟨only.1,
        fun reply => inductionHypothesis reply (only.2 reply) (firstEnds reply)⟩
  | image request next inductionHypothesis =>
      exact fun reply => inductionHypothesis reply (only reply) (firstEnds reply)
  | note feature next inductionHypothesis => exact inductionHypothesis only firstEnds

theorem reportsLast_bind_right (only : first.CallsOnly quiet)
    (secondReports : ∀ value, (second value).ReportsLast quiet reports) :
    (first >>= second).ReportsLast quiet reports :=
  reportsLast_bind only (endsIn_of_forall (fun _ => trivial) first)
    fun value (_ : True) => secondReports value

end

end Pass

/-! ## Conditions that a report adds -/

/-- The types of the conditions that a configuration was loaded with. -/
def AuditConfig.reported (config : AuditConfig) : List ConditionType :=
  Condition.types (config.status.getD {}).conditions

/-- The configuration stays, and asks for a feature. -/
def AuditConfig.AsksFor (config : AuditConfig) (feature : Feature) : Prop :=
  config.metadata.deletionTimestamp = none ∧ feature.isEnabled config.content = true

/-- The types of conditions before and after a pass over a configuration: those there were stay as
they are, and what joins them is of features that the configuration asks for. -/
structure AuditConfig.Extends (config : AuditConfig) (earlier later : List ConditionType) :
    Prop where
  grown : earlier <+: later
  nodup : earlier.Nodup → later.Nodup
  asked : ∀ feature : Feature, feature.conditionType ∈ later →
    feature.conditionType ∈ earlier ∨ config.AsksFor feature

theorem AuditConfig.Extends.refl {config : AuditConfig} {types : List ConditionType} :
    config.Extends types types where
  grown := List.prefix_refl _
  nodup := id
  asked _ := Or.inl

/-- The call writes a status that extends the conditions of a configuration. -/
def Call.Reports (config : AuditConfig) : Call → Prop
  | .patchStatus .auditConfig _ patch => ∃ next : AuditConfigStatus, patch = next.toJson ∧
      config.Extends config.reported (Condition.types next.conditions)
  | _ => False

/-! ## Reports of features -/

/-- What an outcome reports, if anything, is of one type. -/
def Outcome.IsOf (type : ConditionType) (outcome : Outcome) : Prop :=
  ∀ update ∈ outcome.condition, update.type = type

theorem Outcome.isOf_changed {type : ConditionType} : changed.IsOf type :=
  nofun

theorem Outcome.isOf_of_condition_eq {type : ConditionType} {outcome : Outcome}
    {report : ConditionUpdate} (reported : outcome.condition = some report)
    (sameType : report.type = type) : outcome.IsOf type := by
  intro update member
  rw [reported, Option.mem_some_iff] at member
  rw [← member, sameType]

namespace Pass

variable {context : PassContext}

open Outcome

theorem endsIn_workloads_converge (live desired : Deployment) (inventory : String) :
    (Workloads.converge context live desired inventory).EndsIn
      (IsOf .workloadScanningDegraded) := by
  have type := Workloads.type_condition live
  rw [Workloads.converge]
  split
  · exact endsIn_bind_right fun _ => isOf_changed
  · dsimp only
    split
    · exact endsIn_bind_right fun _ => isOf_changed
    · rw [Workloads.settle]
      split
      · exact isOf_of_condition_eq rfl type
      · exact endsIn_bind_right fun _ => isOf_of_condition_eq rfl type

theorem endsIn_nodes_converge (desired live : List CronJob) :
    (Nodes.converge context desired live).EndsIn (IsOf .nodeScanningDegraded) := by
  rw [Nodes.converge]
  split
  · exact endsIn_bind_right fun _ => isOf_changed
  · split
    · exact endsIn_bind_right fun _ => isOf_changed
    · split
      · exact endsIn_bind_right fun _ => isOf_changed
      · exact isOf_of_condition_eq rfl (Nodes.type_condition desired live)

theorem endsIn_admission_converge (desired : Deployment) :
    (Admission.converge context desired).EndsIn (IsOf .admissionDegraded) := by
  apply endsIn_bind_right
  intro deployment
  split
  · exact isOf_changed
  · apply endsIn_bind_right
    intro service
    split
    · exact isOf_changed
    · apply endsIn_bind_right
      intro registration
      split
      · exact isOf_changed
      · exact endsIn_bind_right fun _ => isOf_of_condition_eq rfl (Admission.type_condition _)

/-- A feature that is brought into place reports under its own type. -/
theorem endsIn_reconcile (feature : Feature) :
    (feature.reconcile context).EndsIn (IsOf feature.conditionType) := by
  cases feature with
  | workloads =>
      apply endsIn_bind_right
      intro change
      split
      · exact isOf_changed
      · apply endsIn_bind_right
        intro image
        apply endsIn_bind_right
        intro applied
        cases applied with
        | created object => exact isOf_changed
        | existing live => exact endsIn_workloads_converge live _ _
  | nodes =>
      apply endsIn_bind_right
      intro change
      split
      · exact isOf_changed
      · iterate 4
          apply endsIn_bind_right
          intro _
        exact endsIn_nodes_converge _ _
  | admission =>
      change (Admission.reconcile context).EndsIn (IsOf .admissionDegraded)
      rw [Admission.reconcile]
      split
      · exact endsIn_bind_right fun _ => isOf_changed
      · exact endsIn_bind_right fun image => endsIn_admission_converge _
  | scanApi =>
      apply endsIn_bind_right
      intro image
      apply endsIn_bind_right
      intro changed
      split
      · exact isOf_changed
      · exact endsIn_bind_right fun _ => isOf_of_condition_eq rfl (ScanApi.type_condition _)

/-- A feature that is removed reports only if it has reported before. -/
theorem endsIn_tearDown (feature : Feature) :
    (feature.tearDown context).EndsIn
      fun outcome => outcome.condition = feature.reportDisabled context := by
  cases feature with
  | workloads => exact endsIn_bind_right fun _ => endsIn_bind_right fun _ => rfl
  | nodes => exact endsIn_bind_right fun _ => endsIn_bind_right fun _ =>
      endsIn_bind_right fun _ => rfl
  | admission =>
      iterate 3
        apply endsIn_bind_right
        intro _
      dsimp only
      split
      · exact endsIn_bind_right fun _ => rfl
      · rfl
  | scanApi => exact endsIn_bind_right fun _ => rfl

/-! ## Reports of passes -/

/-- An update is of a feature's type, and the feature is asked for or has reported before. -/
def IsDue (context : PassContext) (update : ConditionUpdate) : Prop :=
  ∃ feature : Feature, update.type = feature.conditionType ∧
    (feature.isEnabled context.spec = true ∨
      feature.conditionType ∈ context.config.reported)

theorem endsIn_run (feature : Feature) :
    (feature.run context).EndsIn fun outcome => ∀ update ∈ outcome.condition,
      IsDue context update := by
  rw [Feature.run]
  split
  · rename_i enabled
    exact (endsIn_reconcile feature).mono fun outcome ofType update member =>
      ⟨feature, ofType update member, Or.inl enabled⟩
  · refine (endsIn_tearDown feature).mono ?_
    intro outcome same update member
    rw [same] at member
    have reported : (feature.reportDisabled context).isSome = true :=
      Option.isSome_of_mem member
    exact ⟨feature, Feature.type_of_reportDisabled member, Or.inr
      (Condition.isSome_find?_iff.mp (Feature.reportDisabled_isSome_iff.mp reported))⟩

theorem endsIn_runFeatures (features : List Feature) :
    (runFeatures context features).EndsIn fun result => ∀ update ∈ result.2,
      IsDue context update := by
  induction features with
  | nil => exact nofun
  | cons feature rest inductionHypothesis =>
      apply endsIn_bind (endsIn_run feature)
      intro outcome due
      have dueFirst : ∀ update ∈ outcome.condition.toList, IsDue context update :=
        fun update member => due update (Option.mem_toList.mp member)
      cases outcome.progress with
      | requeue => exact dueFirst
      | done =>
          apply endsIn_bind inductionHypothesis
          intro result dueLater update member
          exact (List.mem_append.mp member).elim (dueFirst update) (dueLater update)

/-- The types of the conditions that a pass writes. -/
theorem extends_nextStatus {updates : List ConditionUpdate} (pods : List (Object .pod))
    (stays : context.config.metadata.deletionTimestamp = none)
    (due : ∀ update ∈ updates, IsDue context update) :
    context.config.Extends context.config.reported
      (Condition.types (nextStatus context updates pods).conditions) where
  grown := Condition.types_prefix_applyUpdates _ _ _
  nodup := Condition.nodup_types_applyUpdates _ _
  asked := by
    intro feature member
    rcases Condition.mem_types_applyUpdates_iff.mp member with before | updated
    · exact Or.inl before
    · obtain ⟨update, updateMember, sameType⟩ := List.mem_map.mp updated
      obtain ⟨other, otherType, known⟩ := due update updateMember
      obtain rfl : other = feature :=
        Feature.conditionType_injective (otherType.symm.trans sameType)
      exact known.symm.imp id fun enabled => ⟨stays, enabled⟩

theorem reportsLast_persistStatus {updates : List ConditionUpdate} (progress : Progress)
    (stays : context.config.metadata.deletionTimestamp = none)
    (due : ∀ update ∈ updates, IsDue context update) :
    (persistStatus context updates >>= fun _ => (pure progress : Pass Progress)).ReportsLast
      (Call.KeepsStatus context.config.status) (Call.Reports context.config) := by
  refine Or.inl ⟨trivial, ?_⟩
  intro reply
  cases reply with
  | error error => trivial
  | ok pods =>
      change ((ite _ _ _ : Pass Unit).andThen _).ReportsLast _ _
      split
      · trivial
      · refine Or.inr ⟨⟨_, rfl, extends_nextStatus pods stays due⟩, ?_⟩
        intro reply
        cases reply <;> trivial

theorem reportsLast_proceed (policyName : String) (now : Instant) (token : String)
    (config : AuditConfig) :
    (proceed policyName now token config).ReportsLast (Call.KeepsStatus config.status)
      (Call.Reports config) := by
  rw [proceed]
  split
  · apply CallsOnly.reportsLast
    have finalizes : (Admission.finalize config).CallsOnly (Call.KeepsStatus config.status) :=
      callsOnly_finalize (fun _ _ => rfl) fun _ _ => nofun
    exact callsOnly_bind finalizes fun _ => trivial
  · rename_i departing
    have stays : config.metadata.deletionTimestamp = none :=
      Option.not_isSome_iff_eq_none.mp departing
    apply reportsLast_bind_right (callsOnly_operatorPolicy policyName fun _ => trivial)
    intro policy
    apply reportsLast_bind_right (callsOnly_configured _)
    intro owner
    let context : PassContext := { config, owner, policy, now, token }
    have featuresQuiet : (runFeatures context Feature.all).CallsOnly
        (Call.KeepsStatus context.config.status) :=
      callsOnly_runFeatures _ fun feature _ => keepsStatus_run feature
    exact reportsLast_bind featuresQuiet (endsIn_runFeatures Feature.all) fun result due =>
      reportsLast_persistStatus result.1 stays due

end Pass

end ClusterAudit
