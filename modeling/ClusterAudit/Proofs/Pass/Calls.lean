import ClusterAudit.Pass.Reconcile

/-!
Which calls a pass may make, whatever it is answered. Each feature keeps to a few kinds of objects.
-/

namespace ClusterAudit.Pass

variable {First Second Result : Type} {allowed : Call → Prop} {kind : Kind}

/-- However its calls are answered, a pass makes only calls that are allowed. -/
def CallsOnly (allowed : Call → Prop) : Pass Result → Prop
  | .done _ => True
  | .fail _ => True
  | .crash => True
  | .call request next => allowed request ∧ ∀ reply, CallsOnly allowed (next reply)
  | .image _ next => ∀ reply, CallsOnly allowed (next reply)
  | .note _ next => CallsOnly allowed next

/-- All calls that are about one kind are allowed, but for deletions. -/
structure AllowsUpkeep (allowed : Call → Prop) (kind : Kind) : Prop where
  get : ∀ key, allowed (.get kind key)
  list : ∀ namespaceName selector, allowed (.list kind namespaceName selector)
  create : ∀ namespaceName object, allowed (.create kind namespaceName object)
  replace : ∀ key object, allowed (.replace kind key object)

/-- All calls that are about one kind are allowed. -/
structure AllowsKind (allowed : Call → Prop) (kind : Kind) : Prop
    extends AllowsUpkeep allowed kind where
  delete : ∀ key, allowed (.delete kind key)

/-- All calls that bring an object of a namespace to what is wanted are allowed. -/
structure AllowsEnsuring (allowed : Call → Prop) (namespaceName : String) (desired : Object kind) :
    Prop where
  get : allowed (.get kind { namespaceName, name := desired.displayName })
  create : allowed (.create kind namespaceName desired)
  replace : ∀ key object, allowed (.replace kind key object)

theorem AllowsUpkeep.ensuring (allows : AllowsUpkeep allowed kind) (namespaceName : String)
    (desired : Object kind) : AllowsEnsuring allowed namespaceName desired where
  get := allows.get _
  create := allows.create _ _
  replace := allows.replace

/-! ## Sequences -/

theorem callsOnly_bind {first : Pass First} {second : First → Pass Second}
    (firstOnly : first.CallsOnly allowed) (secondOnly : ∀ value, (second value).CallsOnly allowed) :
    (first >>= second).CallsOnly allowed := by
  change (first.andThen second).CallsOnly allowed
  induction first with
  | done value => exact secondOnly value
  | fail error => trivial
  | crash => trivial
  | call request next inductionHypothesis =>
      exact ⟨firstOnly.1, fun reply => inductionHypothesis reply (firstOnly.2 reply)⟩
  | image request next inductionHypothesis =>
      exact fun reply => inductionHypothesis reply (firstOnly reply)
  | note feature next inductionHypothesis => exact inductionHypothesis firstOnly

theorem callsOnly_attempt {request : Call} (permitted : allowed request) :
    (attempt request).CallsOnly allowed :=
  ⟨permitted, fun _ => trivial⟩

theorem callsOnly_ask {request : Call} (permitted : allowed request) :
    (ask request).CallsOnly allowed := by
  refine ⟨permitted, ?_⟩
  intro reply
  cases reply <;> trivial

theorem callsOnly_resolve (request : ImageRequest) : (resolve request).CallsOnly allowed := by
  intro reply
  cases reply <;> trivial

theorem callsOnly_configured {Value : Type} (read : Except Misconfiguration Value) :
    (configured read).CallsOnly allowed := by
  cases read <;> trivial

/-- What follows a reading of the configuration has to keep to the allowed calls only for what may
have been read. -/
theorem callsOnly_configured_bind {Value : Type} {read : Except Misconfiguration Value}
    {second : Value → Pass Second}
    (secondOnly : ∀ value, read = .ok value → (second value).CallsOnly allowed) :
    (configured read >>= second).CallsOnly allowed := by
  cases read with
  | error cause => trivial
  | ok value => exact secondOnly value rfl

/-! ## Convergence -/

theorem callsOnly_deleteIfPresent {key : Key} (permitted : allowed (.delete kind key)) :
    (deleteIfPresent kind key).CallsOnly allowed := by
  apply callsOnly_bind (callsOnly_attempt permitted)
  intro reply
  cases reply with
  | ok deleted => trivial
  | error error =>
      change (ite _ _ _ : Pass Bool).CallsOnly allowed
      split <;> trivial

theorem callsOnly_createTolerant {namespaceName : String} {object : Object kind}
    (permitted : allowed (.create kind namespaceName object)) :
    (createTolerant namespaceName object).CallsOnly allowed := by
  apply callsOnly_bind (callsOnly_attempt permitted)
  intro reply
  cases reply with
  | ok created => trivial
  | error error =>
      change (ite _ _ _ : Pass Bool).CallsOnly allowed
      split <;> trivial

theorem callsOnly_update (allows : AllowsUpkeep allowed kind) (namespaceName : String)
    (object : Object kind) : (update namespaceName object).CallsOnly allowed :=
  callsOnly_ask (allows.replace _ _)

section Convergence

variable {namespaceName : String} {desired : Object kind}
  (allows : AllowsEnsuring allowed namespaceName desired)

include allows

theorem callsOnly_createIfAbsent : (createIfAbsent namespaceName desired).CallsOnly allowed := by
  apply callsOnly_bind (callsOnly_ask allows.get)
  intro found
  cases found with
  | some live => trivial
  | none => exact callsOnly_bind (callsOnly_ask allows.create) fun _ => trivial

theorem callsOnly_ensure {same : Object kind → Object kind → Bool}
    {merge : Object kind → Object kind → Object kind} :
    (ensure namespaceName desired same merge).CallsOnly allowed := by
  apply callsOnly_bind (callsOnly_createIfAbsent allows)
  intro applied
  cases applied with
  | created object => trivial
  | existing live =>
      change (ite _ _ _ : Pass Change).CallsOnly allowed
      split
      · trivial
      · exact callsOnly_bind (callsOnly_ask (allows.replace _ _)) fun _ => trivial

end Convergence

/-- Only one object of the whole cluster is looked at, created or replaced. -/
theorem callsOnly_ensureCluster {desired : Object kind}
    {same : Object kind → Object kind → Bool} {merge : Object kind → Object kind → Object kind}
    (gets : allowed (.get kind (Key.ofCluster desired.displayName)))
    (creates : allowed (.create kind "" desired))
    (replaces : ∀ object, allowed (.replace kind (Key.ofCluster desired.displayName) object)) :
    (ensureCluster desired same merge).CallsOnly allowed := by
  apply callsOnly_bind (callsOnly_ask gets)
  intro found
  cases found with
  | none => exact callsOnly_bind (callsOnly_ask creates) fun _ => trivial
  | some live =>
      change (ite _ _ _ : Pass Change).CallsOnly allowed
      split
      · trivial
      · exact callsOnly_bind (callsOnly_ask (replaces _)) fun _ => trivial

/-! ## Features -/

variable (context : PassContext)

section Workloads

variable (configMaps : AllowsUpkeep allowed .configMap)
  (deployments : AllowsUpkeep allowed .deployment)
  (legacy : allowed (.delete .deployment
    (context.key (Naming.legacyWorkloadDeployment context.name))))

section Reconcile

include legacy

theorem callsOnly_removeLegacy
    (looks : allowed (.get .deployment
      (context.key (Naming.legacyWorkloadDeployment context.name)))) :
    (Workloads.removeLegacy context).CallsOnly allowed := by
  apply callsOnly_bind (callsOnly_ask looks)
  intro found
  cases found with
  | none => trivial
  | some found =>
      change (ite _ _ _ : Pass Bool).CallsOnly allowed
      split
      · exact callsOnly_deleteIfPresent legacy
      · trivial

theorem callsOnly_workloads_settle
    (looks : allowed (.get .deployment
      (context.key (Naming.legacyWorkloadDeployment context.name)))) (live : Deployment) :
    (Workloads.settle context live).CallsOnly allowed := by
  rw [Workloads.settle]
  split
  · trivial
  · exact callsOnly_bind (callsOnly_removeLegacy context legacy looks) fun _ => trivial

include deployments

theorem callsOnly_workloads_converge (live desired : Deployment) (inventory : String) :
    (Workloads.converge context live desired inventory).CallsOnly allowed := by
  rw [Workloads.converge]
  split
  · exact callsOnly_bind (callsOnly_update deployments _ _) fun _ => trivial
  · dsimp only
    split
    · exact callsOnly_bind (callsOnly_update deployments _ _) fun _ => trivial
    · exact callsOnly_workloads_settle context legacy (deployments.get _) live

include configMaps

theorem callsOnly_workloads_reconcile : (Workloads.reconcile context).CallsOnly allowed := by
  apply callsOnly_bind (callsOnly_ensure (configMaps.ensuring _ _))
  intro change
  split
  · trivial
  · apply callsOnly_bind (callsOnly_resolve _)
    intro image
    apply callsOnly_bind (callsOnly_createIfAbsent (deployments.ensuring _ _))
    intro applied
    cases applied with
    | created object => trivial
    | existing live => exact callsOnly_workloads_converge context deployments legacy _ _ _

end Reconcile

theorem callsOnly_workloads_tearDown
    (deployment : allowed (.delete .deployment
      (context.key (Naming.workloadDeployment context.name))))
    (configMap : allowed (.delete .configMap
      (context.key (Naming.workloadConfigMap context.name)))) :
    (Workloads.tearDown context).CallsOnly allowed := by
  apply callsOnly_bind (callsOnly_deleteIfPresent deployment)
  intro deleted
  exact callsOnly_bind (callsOnly_deleteIfPresent configMap) fun _ => trivial

end Workloads

section Nodes

variable (configMaps : AllowsUpkeep allowed .configMap) (cronJobs : AllowsUpkeep allowed .cronJob)
  (nodes : AllowsUpkeep allowed .node)
  {live : List CronJob}
  (scans : ∀ cronJob ∈ live, allowed (.delete .cronJob (context.key cronJob.displayName)))

include scans in
theorem callsOnly_deleteAll : (Nodes.deleteAll context live).CallsOnly allowed := by
  induction live with
  | nil => trivial
  | cons cronJob rest inductionHypothesis =>
      obtain ⟨first, later⟩ := List.forall_mem_cons.mp scans
      apply callsOnly_bind (callsOnly_deleteIfPresent first)
      intro deleted
      exact callsOnly_bind (inductionHypothesis later) fun _ => trivial

include cronJobs in
theorem callsOnly_nodes_converge (desired : List CronJob)
    (orphans : ∀ cronJob ∈ live, cronJob.displayName ∉ Nodes.namesOf desired →
      allowed (.delete .cronJob (context.key cronJob.displayName))) :
    (Nodes.converge context desired live).CallsOnly allowed := by
  rw [Nodes.converge]
  split
  · exact callsOnly_bind (callsOnly_createIfAbsent (cronJobs.ensuring _ _)) fun _ => trivial
  · split
    · exact callsOnly_bind (callsOnly_update cronJobs _ _) fun _ => trivial
    · split
      · rename_i orphan left
        have member : orphan ∈ live := List.mem_of_find?_eq_some left
        have unwanted : orphan.displayName ∉ Nodes.namesOf desired := by
          simpa using List.find?_some left
        exact callsOnly_bind (callsOnly_deleteIfPresent (orphans orphan member unwanted))
          fun _ => trivial
      · trivial

theorem callsOnly_nodes_tearDown (lists : ∀ selector,
      allowed (.list .cronJob context.namespaceName selector))
    (scans : ∀ key, allowed (.delete .cronJob key))
    (configMap : allowed (.delete .configMap
      (context.key (Naming.nodeConfigMap context.name)))) :
    (Nodes.tearDown context).CallsOnly allowed := by
  apply callsOnly_bind (callsOnly_ask (lists _))
  intro live
  apply callsOnly_bind (callsOnly_deleteAll context fun _ _ => scans _)
  intro deleted
  exact callsOnly_bind (callsOnly_deleteIfPresent configMap) fun _ => trivial

theorem callsOnly_desiredCronJobs (image : String) (found : List (Object .node)) :
    (Nodes.desiredCronJobs context image found).CallsOnly allowed := by
  rw [Nodes.desiredCronJobs]
  split <;> trivial

include configMaps cronJobs nodes in
theorem callsOnly_nodes_reconcile (scans : ∀ key, allowed (.delete .cronJob key)) :
    (Nodes.reconcile context).CallsOnly allowed := by
  apply callsOnly_bind (callsOnly_ensure (configMaps.ensuring _ _))
  intro change
  split
  · trivial
  · apply callsOnly_bind (callsOnly_resolve _)
    intro image
    apply callsOnly_bind (callsOnly_ask (nodes.list _ _))
    intro found
    apply callsOnly_bind (callsOnly_desiredCronJobs context image found)
    intro desired
    apply callsOnly_bind (callsOnly_ask (cronJobs.list _ _))
    intro live
    exact callsOnly_nodes_converge context cronJobs desired fun _ _ _ => scans _

end Nodes

section ScanApi

variable (tokens : ∀ namespaceName object, allowed (.create .secret namespaceName object))
  (deployments : ∀ image, AllowsEnsuring allowed context.namespaceName
    (Template.ScanApi.deployment context.spec context.owner image))
  (services : AllowsUpkeep allowed .service)

include tokens deployments services in
theorem callsOnly_scanApi_reconcile : (ScanApi.reconcile context).CallsOnly allowed := by
  apply callsOnly_bind (callsOnly_resolve _)
  intro image
  apply callsOnly_bind
  · apply callsOnly_bind (callsOnly_createTolerant (tokens _ _))
    intro secret
    apply callsOnly_bind (callsOnly_ensure (deployments image))
    intro deployment
    exact callsOnly_bind (callsOnly_ensure (services.ensuring _ _)) fun _ => trivial
  · intro changed
    split
    · trivial
    · exact callsOnly_bind (callsOnly_ask (deployments image).get) fun _ => trivial

theorem callsOnly_scanApi_tearDown
    (secret : allowed (.delete .secret (context.key (Naming.scanApiSecret context.name))))
    (deployment : allowed (.delete .deployment (context.key (Naming.scanApi context.name))))
    (service : allowed (.delete .service (context.key (Naming.scanApi context.name)))) :
    (ScanApi.tearDown context).CallsOnly allowed := by
  apply callsOnly_bind
  · apply callsOnly_bind (callsOnly_deleteIfPresent secret)
    intro secretGone
    apply callsOnly_bind (callsOnly_deleteIfPresent deployment)
    intro deploymentGone
    exact callsOnly_bind (callsOnly_deleteIfPresent service) fun _ => trivial
  · intro deleted
    trivial

end ScanApi

section Admission

variable {config : AuditConfig} (services : AllowsUpkeep allowed .service)
  (registers : (ensureCluster (Template.Admission.registration context.spec context.owner)
    Managed.sameRegistration Managed.mergeRegistration).CallsOnly allowed)
  (configs : ∀ key finalizers,
    allowed (.replace .auditConfig key (Admission.withFinalizers config finalizers)))

include services registers in
theorem callsOnly_admission_converge {desired : Deployment}
    (deployments : AllowsEnsuring allowed context.namespaceName desired) :
    (Admission.converge context desired).CallsOnly allowed := by
  apply callsOnly_bind (callsOnly_ensure deployments)
  intro deployment
  split
  · trivial
  · apply callsOnly_bind (callsOnly_ensure (services.ensuring _ _))
    intro service
    split
    · trivial
    · apply callsOnly_bind registers
      intro registration
      split
      · trivial
      · exact callsOnly_bind (callsOnly_ask deployments.get) fun _ => trivial

include configs in
theorem callsOnly_addFinalizer : (Admission.addFinalizer config).CallsOnly allowed := by
  apply callsOnly_bind (callsOnly_configured _)
  intro namespaceName
  exact callsOnly_bind (callsOnly_ask (configs _ _)) fun _ => trivial

include configs in
theorem callsOnly_removeFinalizer : (Admission.removeFinalizer config).CallsOnly allowed := by
  apply callsOnly_bind (callsOnly_configured _)
  intro namespaceName
  exact callsOnly_bind (callsOnly_ask (configs _ _)) fun _ => trivial

include services registers in
theorem callsOnly_admission_reconcile
    (deployments : ∀ image, AllowsEnsuring allowed context.namespaceName
      (Template.Admission.deployment context.spec context.owner image))
    (configs : ∀ key finalizers,
      allowed (.replace .auditConfig key (Admission.withFinalizers context.config finalizers))) :
    (Admission.reconcile context).CallsOnly allowed := by
  rw [Admission.reconcile]
  split
  · exact callsOnly_bind (callsOnly_addFinalizer configs) fun _ => trivial
  · apply callsOnly_bind (callsOnly_resolve _)
    intro image
    exact callsOnly_admission_converge context services registers (deployments image)

theorem callsOnly_admission_tearDown
    (configs : ∀ key finalizers,
      allowed (.replace .auditConfig key (Admission.withFinalizers context.config finalizers)))
    (registration : allowed (.delete .webhookConfiguration
      (Key.ofCluster (Naming.webhookConfiguration context.namespaceName context.name))))
    (deployment : allowed (.delete .deployment
      (context.key (Naming.webhookDeployment context.name))))
    (service : allowed (.delete .service (context.key (Naming.webhookService context.name)))) :
    (Admission.tearDown context).CallsOnly allowed := by
  apply callsOnly_bind (callsOnly_deleteIfPresent registration)
  intro registrationGone
  apply callsOnly_bind (callsOnly_deleteIfPresent deployment)
  intro deploymentGone
  apply callsOnly_bind (callsOnly_deleteIfPresent service)
  intro serviceGone
  dsimp only
  split
  · exact callsOnly_bind (callsOnly_removeFinalizer configs) fun _ => trivial
  · trivial

include configs in
theorem callsOnly_finalize
    (registration : ∀ namespaceName, Admission.namespaceOf config = .ok namespaceName →
      allowed (.delete .webhookConfiguration
        (Key.ofCluster (Naming.webhookConfiguration namespaceName config.displayName)))) :
    (Admission.finalize config).CallsOnly allowed := by
  rw [Admission.finalize]
  split
  · apply callsOnly_configured_bind
    intro namespaceName placed
    apply callsOnly_bind (callsOnly_deleteIfPresent (registration namespaceName placed))
    intro deleted
    exact callsOnly_removeFinalizer configs
  · trivial

end Admission

/-- A feature may make all calls that change objects, if it leaves to the configuration all but its
finalizers. A secret is only offered, and deleted where the scan API is switched off. -/
theorem callsOnly_run_of_tokens
    (kinds : ∀ kind, kind ≠ .auditConfig → kind ≠ .secret → AllowsKind allowed kind)
    (tokens : ∀ namespaceName object, allowed (.create .secret namespaceName object))
    (discards : context.spec.scanApiEnabled = false →
      allowed (.delete .secret (context.key (Naming.scanApiSecret context.name))))
    (configs : ∀ key finalizers,
      allowed (.replace .auditConfig key (Admission.withFinalizers context.config finalizers)))
    (feature : Feature) : (feature.run context).CallsOnly allowed := by
  have configMaps : AllowsKind allowed .configMap := kinds _ nofun nofun
  have cronJobs : AllowsKind allowed .cronJob := kinds _ nofun nofun
  have deployments : AllowsKind allowed .deployment := kinds _ nofun nofun
  have nodes : AllowsKind allowed .node := kinds _ nofun nofun
  have registrations : AllowsKind allowed .webhookConfiguration := kinds _ nofun nofun
  have services : AllowsKind allowed .service := kinds _ nofun nofun
  rw [Feature.run]
  cases feature with
  | workloads =>
      split
      · exact callsOnly_workloads_reconcile context configMaps.toAllowsUpkeep
          deployments.toAllowsUpkeep (deployments.delete _)
      · exact callsOnly_workloads_tearDown context (deployments.delete _) (configMaps.delete _)
  | nodes =>
      split
      · exact callsOnly_nodes_reconcile context configMaps.toAllowsUpkeep
          cronJobs.toAllowsUpkeep nodes.toAllowsUpkeep cronJobs.delete
      · exact callsOnly_nodes_tearDown context (cronJobs.list _) cronJobs.delete
          (configMaps.delete _)
  | admission =>
      split
      · refine callsOnly_admission_reconcile context services.toAllowsUpkeep ?_
          (fun _ => deployments.toAllowsUpkeep.ensuring _ _) configs
        exact callsOnly_ensureCluster (registrations.get _) (registrations.create _ _)
          fun _ => registrations.replace _ _
      · exact callsOnly_admission_tearDown context configs (registrations.delete _)
          (deployments.delete _) (services.delete _)
  | scanApi =>
      split
      · exact callsOnly_scanApi_reconcile context tokens
          (fun _ => deployments.toAllowsUpkeep.ensuring _ _) services.toAllowsUpkeep
      · rename_i disabled
        exact callsOnly_scanApi_tearDown context (discards (Bool.eq_false_iff.mpr disabled))
          (deployments.delete _) (services.delete _)

theorem callsOnly_run (kinds : ∀ kind, kind ≠ .auditConfig → AllowsKind allowed kind)
    (configs : ∀ key finalizers,
      allowed (.replace .auditConfig key (Admission.withFinalizers context.config finalizers)))
    (feature : Feature) : (feature.run context).CallsOnly allowed := by
  have secrets : AllowsKind allowed .secret := kinds _ nofun
  exact callsOnly_run_of_tokens context (fun kind notConfig _ => kinds kind notConfig)
    secrets.create (fun _ => secrets.delete _) configs feature

/-! ## Around the features -/

/-- The status of a configuration is written with two calls at most. -/
theorem callsOnly_persistStatus (updates : List ConditionUpdate)
    (lists : ∀ namespaceName selector, allowed (.list .pod namespaceName selector))
    (patches : ∀ key status, allowed (.patchStatus .auditConfig key status)) :
    (persistStatus context updates).CallsOnly allowed := by
  apply callsOnly_bind (callsOnly_ask (lists _ _))
  intro pods
  change (ite _ _ _ : Pass Unit).CallsOnly allowed
  split
  · trivial
  · exact callsOnly_ask (patches _ _)

theorem callsOnly_runFeatures {features : List Feature}
    (each : ∀ feature ∈ features, (feature.run context).CallsOnly allowed) :
    (runFeatures context features).CallsOnly allowed := by
  induction features with
  | nil => trivial
  | cons feature rest inductionHypothesis =>
      obtain ⟨first, later⟩ := List.forall_mem_cons.mp each
      apply callsOnly_bind first
      intro outcome
      cases outcome.progress with
      | requeue => trivial
      | done => exact callsOnly_bind (inductionHypothesis later) fun _ => trivial

theorem callsOnly_operatorPolicy (policyName : String)
    (gets : ∀ key, allowed (.get .operatorConfig key)) :
    (operatorPolicy policyName).CallsOnly allowed := by
  apply callsOnly_bind (callsOnly_ask (gets _))
  intro found
  cases found <;> trivial

/-- Features and report keep to the allowed calls if each feature does under every policy. -/
theorem callsOnly_reconcileFeatures {config : AuditConfig} {policyName : String} {now : Instant}
    {token : String} (policies : ∀ key, allowed (.get .operatorConfig key))
    (features : ∀ policy owner, Owner.of config = .ok owner → ∀ feature : Feature,
      (feature.run { config, owner, policy, now, token }).CallsOnly allowed)
    (lists : ∀ namespaceName selector, allowed (.list .pod namespaceName selector))
    (patches : ∀ key status, allowed (.patchStatus .auditConfig key status)) :
    (reconcileFeatures policyName config now token).CallsOnly allowed := by
  apply callsOnly_bind (callsOnly_operatorPolicy policyName policies)
  intro policy
  apply callsOnly_configured_bind
  intro owner owned
  apply callsOnly_bind (callsOnly_runFeatures _ fun feature _ => features policy owner owned feature)
  intro result
  exact callsOnly_bind (callsOnly_persistStatus _ _ lists patches) fun _ => trivial

end ClusterAudit.Pass
