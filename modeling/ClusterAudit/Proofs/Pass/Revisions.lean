import ClusterAudit.Proofs.Cluster.Versions
import ClusterAudit.Proofs.Naming
import ClusterAudit.Proofs.Pass.Calls

/-!
What a pass makes its calls from, whatever they are answered. It replaces only objects that it has
read, and gives their versions. If an object cannot be replaced or created, the pass fails, but for
the token of the scan API, which may be there already.
-/

namespace ClusterAudit

/-- An object was made from one that was read. It has the version of that one, and its status. -/
structure Object.IsMadeFrom {kind : Kind} (object read : Object kind) : Prop where
  version : object.metadata.resourceVersion = read.metadata.resourceVersion
  status : object.status = read.status

namespace Managed

/-! ## Merged objects -/

theorem isMadeFrom_mergeConfigMap (live desired : ConfigMap) :
    (mergeConfigMap live desired).IsMadeFrom live where
  version := rfl
  status := rfl

theorem isMadeFrom_mergeDeployment (live desired : Deployment) :
    (mergeDeployment live desired).IsMadeFrom live where
  version := rfl
  status := rfl

theorem isMadeFrom_mergeCronJob (live desired : CronJob) :
    (mergeCronJob live desired).IsMadeFrom live where
  version := rfl
  status := rfl

theorem isMadeFrom_mergeService (live desired : Service) :
    (mergeService live desired).IsMadeFrom live where
  version := rfl
  status := rfl

theorem isMadeFrom_mergeRegistration (live desired : WebhookConfiguration) :
    (mergeRegistration live desired).IsMadeFrom live where
  version := rfl
  status := rfl

end Managed

/-! ## Care -/

/-- The call neither creates nor replaces an object. -/
def Call.IsPlain : Call → Prop
  | .create _ _ _ => False
  | .replace _ _ _ => False
  | _ => True

namespace Pass

open Managed

variable {First Second Result : Type} {kind : Kind} {seen : List Sighting}

/-- The pass goes on with a call. -/
def IsCalling : Pass Result → Prop
  | .call _ _ => True
  | _ => False

/-- A call fits what has been seen before it, and its error ends the pass. Only a secret may be
there already when it is created. -/
def CallsWithCare (seen : List Sighting) :
    (request : Call) → (Except ClusterError request.Reply → Pass Result) → Prop
  | .create kind _ object, next =>
      object.metadata.name.getD "" ≠ "" ∧ ∀ error : ClusterError,
        if kind = .secret ∧ error.isAlreadyExists = true then (next (.error error)).IsCalling
        else next (.error error) = .fail (.cluster error)
  | .replace kind _ object, next =>
      (∃ read : Object kind, ⟨kind, read⟩ ∈ seen ∧ object.IsMadeFrom read) ∧
        ∀ error, next (.error error) = .fail (.cluster error)
  | _, _ => True

/-- However its calls are answered, a pass that has seen some objects makes all calls with care, and
a fact holds of what it ends with and of what it has seen by then. -/
def IsCareful (ended : Result → List Sighting → Prop) : Pass Result → List Sighting → Prop
  | .done result, seen => ended result seen
  | .fail _, _ => True
  | .crash, _ => True
  | .call request next, seen => CallsWithCare seen request next ∧
      ∀ reply, IsCareful ended (next reply) (seen ++ request.sightings reply)
  | .image _ next, seen => ∀ reply, IsCareful ended (next reply) seen
  | .note _ next, seen => IsCareful ended next seen

/-- Nothing is said of what a pass ends with. -/
def anything (_ : Result) (_ : List Sighting) : Prop :=
  True

/-! ## Sequences -/

theorem IsCalling.andThen {first : Pass First} (calling : first.IsCalling)
    (second : First → Pass Second) : (first.andThen second).IsCalling := by
  cases first with
  | call request next => trivial
  | done value => cases calling
  | fail error => cases calling
  | crash => cases calling
  | image request next => cases calling
  | note feature next => cases calling

theorem CallsWithCare.andThen {request : Call}
    {next : Except ClusterError request.Reply → Pass First}
    (care : CallsWithCare seen request next) (second : First → Pass Second) :
    CallsWithCare seen request fun reply => (next reply).andThen second := by
  cases request with
  | create kind namespaceName object =>
      refine ⟨care.1, ?_⟩
      intro error
      have ends := care.2 error
      split at ends
      · rw [if_pos (by assumption)]
        exact ends.andThen second
      · rw [if_neg (by assumption)]
        exact congrArg (Pass.andThen · second) ends
  | replace kind key object =>
      refine ⟨care.1, ?_⟩
      intro error
      exact congrArg (Pass.andThen · second) (care.2 error)
  | get kind key => trivial
  | list kind namespaceName selector => trivial
  | delete kind key => trivial
  | patchStatus kind key patch => trivial

/-- What follows a part of a pass may rely on what has been seen before it, and on what that part
has seen. -/
theorem isCareful_bind {first : Pass First} {second : First → Pass Second}
    {middle : First → List Sighting → Prop} {ended : Second → List Sighting → Prop}
    (firstCareful : first.IsCareful middle seen)
    (secondCareful : ∀ value later, seen ⊆ later → middle value later →
      (second value).IsCareful ended later) :
    (first >>= second).IsCareful ended seen := by
  change (first.andThen second).IsCareful ended seen
  induction first generalizing seen with
  | done value => exact secondCareful value seen (List.Subset.refl seen) firstCareful
  | fail error => trivial
  | crash => trivial
  | call request next inductionHypothesis =>
      refine ⟨firstCareful.1.andThen second, ?_⟩
      intro reply
      apply inductionHypothesis reply (firstCareful.2 reply)
      intro value later includes holds
      exact secondCareful value later
        (List.Subset.trans (List.subset_append_left _ _) includes) holds
  | image request next inductionHypothesis =>
      exact fun reply => inductionHypothesis reply (firstCareful reply) secondCareful
  | note feature next inductionHypothesis => exact inductionHypothesis firstCareful secondCareful

theorem isCareful_of_callsOnly {pass : Pass Result} (calls : pass.CallsOnly Call.IsPlain) :
    pass.IsCareful anything seen := by
  induction pass generalizing seen with
  | done result => trivial
  | fail error => trivial
  | crash => trivial
  | call request next inductionHypothesis =>
      refine ⟨?_, fun reply => inductionHypothesis reply (calls.2 reply)⟩
      have plain := calls.1
      cases request with
      | create kind namespaceName object => cases plain
      | replace kind key object => cases plain
      | get kind key => trivial
      | list kind namespaceName selector => trivial
      | delete kind key => trivial
      | patchStatus kind key patch => trivial
  | image request next inductionHypothesis =>
      exact fun reply => inductionHypothesis reply (calls reply)
  | note feature next inductionHypothesis => exact inductionHypothesis calls

theorem isCareful_resolve (request : ImageRequest) : (resolve request).IsCareful anything seen :=
  isCareful_of_callsOnly (callsOnly_resolve request)

theorem isCareful_configured {Value : Type} (read : Except Misconfiguration Value) :
    (configured read).IsCareful anything seen :=
  isCareful_of_callsOnly (callsOnly_configured read)

/-! ## Single calls -/

theorem isCareful_get (kind : Kind) (key : Key) :
    (get kind key).IsCareful (fun found later => ∀ object, found = some object →
      ⟨kind, object⟩ ∈ later) seen := by
  refine ⟨trivial, ?_⟩
  intro reply
  cases reply with
  | error error => trivial
  | ok found =>
      intro object isFound
      cases isFound
      exact List.mem_append_right seen List.mem_cons_self

theorem isCareful_list (kind : Kind) (namespaceName selector : String) :
    (list kind namespaceName selector).IsCareful (fun found later => ∀ object ∈ found,
      ⟨kind, object⟩ ∈ later) seen := by
  refine ⟨trivial, ?_⟩
  intro reply
  cases reply with
  | error error => trivial
  | ok found =>
      intro object member
      exact List.mem_append_right seen (List.mem_map_of_mem member)

theorem isCareful_deleteIfPresent (kind : Kind) (key : Key) :
    (deleteIfPresent kind key).IsCareful anything seen :=
  isCareful_of_callsOnly (callsOnly_deleteIfPresent trivial)

theorem isCareful_create (ordinary : kind ≠ .secret) {object : Object kind}
    (named : object.metadata.name.getD "" ≠ "") (namespaceName : String) :
    (create kind namespaceName object).IsCareful anything seen := by
  refine ⟨⟨named, ?_⟩, ?_⟩
  · intro error
    rw [if_neg fun isSecret => ordinary isSecret.1]
  · intro reply
    cases reply <;> trivial

theorem isCareful_replace {read object : Object kind} (sighted : ⟨kind, read⟩ ∈ seen)
    (isMadeFrom : object.IsMadeFrom read) (key : Key) :
    (replace kind key object).IsCareful anything seen := by
  refine ⟨⟨⟨read, sighted, isMadeFrom⟩, fun _ => rfl⟩, ?_⟩
  intro reply
  cases reply <;> trivial

/-! ## Convergence -/

section Convergence

variable (ordinary : kind ≠ .secret) {desired : Object kind}
  (named : desired.metadata.name.getD "" ≠ "")

include ordinary named

/-- An object that was there already has been seen. -/
theorem isCareful_createIfAbsent (namespaceName : String) :
    (createIfAbsent namespaceName desired).IsCareful (fun applied later => ∀ live,
      applied = .existing live → ⟨kind, live⟩ ∈ later) seen := by
  apply isCareful_bind (isCareful_get kind _)
  intro found later _ sighted
  cases found with
  | some live =>
      intro other isExisting
      cases isExisting
      exact sighted live rfl
  | none =>
      apply isCareful_bind (isCareful_create ordinary named namespaceName)
      intro created last _ _ live isExisting
      cases isExisting

variable {same : Object kind → Object kind → Bool}
  {merge : Object kind → Object kind → Object kind}
  (merges : ∀ live, (merge live desired).IsMadeFrom live)

include merges

theorem isCareful_ensure (namespaceName : String) :
    (ensure namespaceName desired same merge).IsCareful anything seen := by
  apply isCareful_bind (isCareful_createIfAbsent ordinary named namespaceName)
  intro applied later _ sighted
  cases applied with
  | created object => trivial
  | existing live =>
      change (ite _ _ _ : Pass Change).IsCareful anything later
      split
      · trivial
      · exact isCareful_bind (isCareful_replace (sighted live rfl) (merges live) _)
          fun _ _ _ _ => trivial

theorem isCareful_ensureCluster : (ensureCluster desired same merge).IsCareful anything seen := by
  apply isCareful_bind (isCareful_get kind _)
  intro found later _ sighted
  cases found with
  | none => exact isCareful_bind (isCareful_create ordinary named "") fun _ _ _ _ => trivial
  | some live =>
      change (ite _ _ _ : Pass Change).IsCareful anything later
      split
      · trivial
      · exact isCareful_bind (isCareful_replace (sighted live rfl) (merges live) _)
          fun _ _ _ _ => trivial

end Convergence

/-- A secret is created without a look. What follows goes on with a call if it is there already. -/
theorem isCareful_createTolerant_bind {secret : Secret}
    (named : secret.metadata.name.getD "" ≠ "") {second : Bool → Pass Second}
    (goesOn : (second false).IsCalling)
    (secondCareful : ∀ created later, seen ⊆ later → (second created).IsCareful anything later)
    (namespaceName : String) :
    (createTolerant namespaceName secret >>= second).IsCareful anything seen := by
  refine ⟨⟨named, ?_⟩, ?_⟩
  · intro error
    cases taken : error.isAlreadyExists with
    | true =>
        rw [if_pos ⟨rfl, rfl⟩]
        change ((ite _ _ _ : Pass Bool).andThen second).IsCalling
        rw [if_pos taken]
        exact goesOn
    | false =>
        rw [if_neg fun isTaken => nomatch isTaken.2]
        change (ite _ _ _ : Pass Bool).andThen second = _
        rw [if_neg (by rw [taken]; decide)]
        rfl
  · intro reply
    have includes : seen ⊆ seen ++ Call.sightings (.create .secret namespaceName secret) reply :=
      List.subset_append_left _ _
    cases reply with
    | ok created => exact secondCareful true _ includes
    | error error =>
        change ((ite _ _ _ : Pass Bool).andThen second).IsCareful anything _
        split
        · exact secondCareful false _ includes
        · trivial

/-! ## Features -/

variable (context : PassContext)

theorem isCareful_removeLegacy : (Workloads.removeLegacy context).IsCareful anything seen := by
  apply isCareful_bind (isCareful_get .deployment _)
  intro found later _ _
  cases found with
  | none => trivial
  | some legacy =>
      change (ite _ _ _ : Pass Bool).IsCareful anything later
      split
      · exact isCareful_deleteIfPresent .deployment _
      · trivial

theorem isCareful_workloads_settle (live : Deployment) :
    (Workloads.settle context live).IsCareful anything seen := by
  rw [Workloads.settle]
  split
  · trivial
  · exact isCareful_bind (isCareful_removeLegacy context) fun _ _ _ _ => trivial

theorem isMadeFrom_merged (live desired : Deployment) :
    (Workloads.merged live desired).IsMadeFrom live := by
  rw [Workloads.merged]
  split
  · exact { version := rfl, status := rfl }
  · exact { version := rfl, status := rfl }

theorem isCareful_workloads_converge {live : Deployment} (sighted : ⟨.deployment, live⟩ ∈ seen)
    (desired : Deployment) (inventory : String) :
    (Workloads.converge context live desired inventory).IsCareful anything seen := by
  rw [Workloads.converge]
  split
  · exact isCareful_bind (isCareful_replace sighted (isMadeFrom_merged live desired) _)
      fun _ _ _ _ => trivial
  · dsimp only
    split
    · have annotates : (Workloads.restarted live context.now
          (Inventory.revision inventory)).IsMadeFrom live := { version := rfl, status := rfl }
      exact isCareful_bind (isCareful_replace sighted annotates _) fun _ _ _ _ => trivial
    · exact isCareful_workloads_settle context live

theorem isCareful_workloads_reconcile :
    (Workloads.reconcile context).IsCareful anything seen := by
  apply isCareful_bind (isCareful_ensure (by decide) (Naming.append_ne_empty (by decide))
    (isMadeFrom_mergeConfigMap · _) _)
  intro change later _ _
  split
  · trivial
  · apply isCareful_bind (isCareful_resolve _)
    intro image later _ _
    apply isCareful_bind
      (isCareful_createIfAbsent (by decide) (Naming.append_ne_empty (by decide)) _)
    intro applied last _ sighted
    cases applied with
    | created object => trivial
    | existing live => exact isCareful_workloads_converge context (sighted live rfl) _ _

/-- Scans that are updated have been seen, and scans that are created have names. -/
theorem isCareful_nodes_converge {desired live : List CronJob}
    (named : ∀ wanted ∈ desired, wanted.metadata.name.getD "" ≠ "")
    (sighted : ∀ found ∈ live, ⟨.cronJob, found⟩ ∈ seen) :
    (Nodes.converge context desired live).IsCareful anything seen := by
  rw [Nodes.converge]
  split
  · rename_i missing left
    have filled := named missing (List.mem_of_find?_eq_some left)
    exact isCareful_bind (isCareful_createIfAbsent (by decide) filled _) fun _ _ _ _ => trivial
  · split
    · rename_i found wanted drifted
      have member : found ∈ live := by
        obtain ⟨other, _, filtered⟩ := List.exists_of_findSome?_eq_some drifted
        obtain ⟨first, isFirst, same⟩ := Option.map_eq_some_iff.mp filtered
        cases same
        exact List.mem_of_find?_eq_some (Option.filter_eq_some_iff.mp isFirst).1
      exact isCareful_bind (isCareful_replace (sighted found member)
        (isMadeFrom_mergeCronJob found wanted) _) fun _ _ _ _ => trivial
    · split
      · exact isCareful_bind (isCareful_deleteIfPresent .cronJob _) fun _ _ _ _ => trivial
      · trivial

theorem isCareful_desiredCronJobs (image : String) (nodes : List (Object .node)) :
    (Nodes.desiredCronJobs context image nodes).IsCareful (fun desired _ => ∀ wanted ∈ desired,
      wanted.metadata.name.getD "" ≠ "") seen := by
  rw [Nodes.desiredCronJobs]
  split
  · rename_i cronJobs made
    intro wanted member
    obtain ⟨node, _, named⟩ := exists_of_mem_values_of_mapM made member
    obtain ⟨name, isName, rfl⟩ := Option.map_eq_some_iff.mp named
    exact Naming.nodeCronJob?_ne_empty isName
  · trivial

theorem isCareful_nodes_reconcile : (Nodes.reconcile context).IsCareful anything seen := by
  apply isCareful_bind (isCareful_ensure (by decide) (Naming.append_ne_empty (by decide))
    (isMadeFrom_mergeConfigMap · _) _)
  intro change later _ _
  split
  · trivial
  · apply isCareful_bind (isCareful_resolve _)
    intro image later _ _
    apply isCareful_bind (isCareful_list .node _ _)
    intro nodes later _ _
    apply isCareful_bind (isCareful_desiredCronJobs context image nodes)
    intro desired later _ named
    apply isCareful_bind (isCareful_list .cronJob _ _)
    intro live last _ sighted
    exact isCareful_nodes_converge context named sighted

theorem isCareful_scanApi_deploy (owner : Owner) (token : String) {desired : Deployment}
    (named : desired.metadata.name.getD "" ≠ "") :
    (ScanApi.deploy owner token desired).IsCareful anything seen := by
  apply isCareful_createTolerant_bind (Naming.append_ne_empty (by decide))
  · trivial
  · intro secret later _
    apply isCareful_bind (isCareful_ensure (by decide) named
      (isMadeFrom_mergeDeployment · _) _)
    intro deployment later _ _
    exact isCareful_bind (isCareful_ensure (by decide) (Naming.append_ne_empty (by decide))
      (isMadeFrom_mergeService · _) _) fun _ _ _ _ => trivial

theorem isCareful_scanApi_reconcile : (ScanApi.reconcile context).IsCareful anything seen := by
  apply isCareful_bind (isCareful_resolve _)
  intro image later _ _
  apply isCareful_bind
    (isCareful_scanApi_deploy _ _ (Naming.append_ne_empty (by decide)))
  intro changed later _ _
  split
  · trivial
  · exact isCareful_bind (isCareful_get .deployment _) fun _ _ _ _ => trivial

theorem isCareful_admission_converge {desired : Deployment}
    (named : desired.metadata.name.getD "" ≠ "") :
    (Admission.converge context desired).IsCareful anything seen := by
  apply isCareful_bind (isCareful_ensure (by decide) named
    (isMadeFrom_mergeDeployment · _) _)
  intro deployment later _ _
  split
  · trivial
  · apply isCareful_bind (isCareful_ensure (by decide) (Naming.append_ne_empty (by decide))
      (isMadeFrom_mergeService · _) _)
    intro service later _ _
    split
    · trivial
    · apply isCareful_bind (isCareful_ensureCluster (by decide)
        (Naming.append_ne_empty (by decide)) (isMadeFrom_mergeRegistration · _))
      intro registration later _ _
      split
      · trivial
      · exact isCareful_bind (isCareful_get .deployment _) fun _ _ _ _ => trivial

section Finalizer

variable {config : AuditConfig} (sighted : ⟨.auditConfig, config⟩ ∈ seen)

include sighted

theorem isCareful_updateFinalizers (finalizers : List String) :
    (configured (Admission.namespaceOf config) >>= fun namespaceName =>
      update namespaceName (Admission.withFinalizers config finalizers) >>= fun _ =>
        pure ()).IsCareful anything seen := by
  apply isCareful_bind (isCareful_configured _)
  intro namespaceName later includes _
  have keeps : (Admission.withFinalizers config finalizers).IsMadeFrom config :=
    { version := rfl, status := rfl }
  exact isCareful_bind (isCareful_replace (includes sighted) keeps _) fun _ _ _ _ => trivial

theorem isCareful_addFinalizer : (Admission.addFinalizer config).IsCareful anything seen :=
  isCareful_updateFinalizers sighted _

theorem isCareful_removeFinalizer : (Admission.removeFinalizer config).IsCareful anything seen :=
  isCareful_updateFinalizers sighted _

theorem isCareful_finalize : (Admission.finalize config).IsCareful anything seen := by
  rw [Admission.finalize]
  split
  · apply isCareful_bind (isCareful_configured _)
    intro namespaceName later includes _
    apply isCareful_bind (isCareful_deleteIfPresent .webhookConfiguration _)
    intro deleted last includesLater _
    exact isCareful_removeFinalizer (includesLater (includes sighted))
  · trivial

end Finalizer

variable {context} (sighted : ⟨.auditConfig, context.config⟩ ∈ seen)

include sighted

theorem isCareful_admission_reconcile :
    (Admission.reconcile context).IsCareful anything seen := by
  rw [Admission.reconcile]
  split
  · exact isCareful_bind (isCareful_addFinalizer sighted) fun _ _ _ _ => trivial
  · apply isCareful_bind (isCareful_resolve _)
    intro image later _ _
    exact isCareful_admission_converge context (Naming.append_ne_empty (by decide))

theorem isCareful_admission_tearDown : (Admission.tearDown context).IsCareful anything seen := by
  apply isCareful_bind (isCareful_deleteIfPresent .webhookConfiguration _)
  intro registration afterFirst includesFirst _
  apply isCareful_bind (isCareful_deleteIfPresent .deployment _)
  intro deployment afterSecond includesSecond _
  apply isCareful_bind (isCareful_deleteIfPresent .service _)
  intro service afterThird includesThird _
  have stillSighted := includesThird (includesSecond (includesFirst sighted))
  dsimp only
  split
  · exact isCareful_bind (isCareful_removeFinalizer stillSighted) fun _ _ _ _ => trivial
  · trivial

theorem isCareful_run (feature : Feature) : (feature.run context).IsCareful anything seen := by
  rw [Feature.run]
  cases feature with
  | workloads =>
      split
      · exact isCareful_workloads_reconcile context
      · exact isCareful_of_callsOnly (callsOnly_workloads_tearDown context trivial trivial)
  | nodes =>
      split
      · exact isCareful_nodes_reconcile context
      · exact isCareful_of_callsOnly
          (callsOnly_nodes_tearDown context (fun _ => trivial) (fun _ => trivial) trivial)
  | admission =>
      split
      · exact isCareful_admission_reconcile sighted
      · exact isCareful_admission_tearDown sighted
  | scanApi =>
      split
      · exact isCareful_scanApi_reconcile context
      · exact isCareful_of_callsOnly
          (callsOnly_scanApi_tearDown context trivial trivial trivial)

theorem isCareful_runFeatures (features : List Feature) :
    (runFeatures context features).IsCareful anything seen := by
  induction features generalizing seen with
  | nil => trivial
  | cons feature rest inductionHypothesis =>
      apply isCareful_bind (isCareful_run sighted feature)
      intro outcome later includes _
      cases outcome.progress with
      | requeue => trivial
      | done =>
          exact isCareful_bind (inductionHypothesis (includes sighted)) fun _ _ _ _ => trivial

omit sighted

/-! ## Whole passes -/

theorem isCareful_reconcileFeatures {config : AuditConfig}
    (sighted : ⟨.auditConfig, config⟩ ∈ seen) (policyName : String) (now : Instant)
    (token : String) : (reconcileFeatures policyName config now token).IsCareful anything seen := by
  apply isCareful_bind
    (isCareful_of_callsOnly (callsOnly_operatorPolicy policyName fun _ => trivial))
  intro policy later includes _
  apply isCareful_bind (isCareful_configured _)
  intro owner last includesLater _
  apply isCareful_bind (isCareful_runFeatures (includesLater (includes sighted)) Feature.all)
  intro report _ _ _
  exact isCareful_bind (isCareful_of_callsOnly
    (callsOnly_persistStatus _ _ (fun _ _ => trivial) fun _ _ => trivial)) fun _ _ _ _ => trivial

theorem isCareful_reconcile (policyName : String) (key : Key) (now : Instant) (token : String) :
    (reconcile policyName key now token).IsCareful anything seen := by
  apply isCareful_bind (isCareful_get .auditConfig key)
  intro found later _ sighted
  cases found with
  | none => trivial
  | some config =>
      change (ite _ _ _ : Pass Progress).IsCareful anything later
      split
      · exact isCareful_bind (isCareful_finalize (sighted config rfl)) fun _ _ _ _ => trivial
      · exact isCareful_reconcileFeatures (sighted config rfl) policyName now token

end Pass

end ClusterAudit
