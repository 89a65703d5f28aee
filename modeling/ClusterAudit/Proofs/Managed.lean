import ClusterAudit.Proofs.Managed.Merging
import ClusterAudit.Proofs.Schema
import ClusterAudit.Template.Admission
import ClusterAudit.Template.Nodes
import ClusterAudit.Template.Workloads

/-!
Objects that were created or updated as they are wanted count as such when they are looked at again.
If they did not, passes would change them forever.
-/

namespace ClusterAudit

namespace Managed

variable {kind : Kind}

/-- One object is what becomes of another one that is stored, for all that is compared: owners,
labels and content. -/
structure IsStoredAs (object stored : Object kind) : Prop where
  owners : stored.metadata.owners = object.metadata.owners
  labels : stored.metadata.labels = object.metadata.labels
  content : stored.content = kind.contentInSeconds object.content

/-- What is stored for an object that is wanted, or for a live one that takes over what is wanted,
is as it is wanted. The live one keeps its name, its version and its status. -/
structure Settles (same : Object kind → Object kind → Bool)
    (merge : Object kind → Object kind → Object kind) (desired : Object kind) : Prop where
  created : ∀ stored, IsStoredAs desired stored → same stored desired = true
  merged : ∀ live stored, IsStoredAs (merge live desired) stored → same stored desired = true
  named : ∀ live, (merge live desired).displayName = live.displayName
  version : ∀ live, (merge live desired).metadata.resourceVersion = live.metadata.resourceVersion
  status : ∀ live, (merge live desired).status = live.status

/-! ## Agreement -/

/-- Volumes that agree with ones that have no instants still do when they are cut to whole
seconds. -/
theorem sameVolumes_inSeconds {left right : Option (List Volume)}
    (whole : right.map (List.map Volume.inSeconds) = right)
    (agree : sameVolumes left right = true) :
    sameVolumes (left.map (List.map Volume.inSeconds)) right = true := by
  have cut : ∀ volumes : Option (List Volume),
      (volumes.map (List.map Volume.inSeconds)).getD [] =
        (volumes.getD []).map Volume.inSeconds := by
    intro volumes
    cases volumes <;> rfl
  have swap : ∀ volumes : List Volume,
      (volumes.map Volume.inSeconds).map Volume.plainZeros =
        (volumes.map Volume.plainZeros).map Volume.inSeconds := by
    intro volumes
    simp only [List.map_map, Function.comp_def, Volume.plainZeros_inSeconds]
  have wholeList : (right.getD []).map Volume.inSeconds = right.getD [] := by
    rw [← cut, whole]
  apply sameVolumes_iff.mpr
  rw [cut, swap, sameVolumes_iff.mp agree, ← swap, wholeList]

theorem sameDeploymentAndResources_of_eq {left right : Deployment}
    {leftSpec rightSpec : DeploymentSpec}
    (leftContent : left.content = some leftSpec) (rightContent : right.content = some rightSpec)
    (replicas : leftSpec.replicas = rightSpec.replicas)
    (selector : leftSpec.selector = rightSpec.selector)
    (pod : leftSpec.template.spec = rightSpec.template.spec)
    (owners : left.metadata.owners = right.metadata.owners) :
    sameDeploymentAndResources left right = true := by
  apply (isKernel_sameDeploymentAndResources _ _).mpr
  simp only [deploymentAndResourcesView, deploymentView, deploymentPod, leftContent, rightContent,
    owners, Option.map_some, Option.bind_some, replicas, selector, pod]

/-- A deployment that agrees with one that asks for pods asks for some too. -/
theorem exists_content_of_sameDeploymentAndResources {left right : Deployment}
    {rightSpec : DeploymentSpec} (rightContent : right.content = some rightSpec)
    (agree : sameDeploymentAndResources left right = true) :
    ∃ leftSpec, left.content = some leftSpec := by
  rw [sameDeploymentAndResources, Bool.and_eq_true, isKernel_sameDeployment] at agree
  have sameSpec := congrArg DeploymentView.spec agree.1
  simp only [deploymentView, rightContent, Option.map_some] at sameSpec
  obtain ⟨leftSpec, leftContent, _⟩ := Option.map_eq_some_iff.mp sameSpec
  exact ⟨leftSpec, leftContent⟩

/-- A deployment that agrees with one that holds no instants still does when its pods are cut to whole
seconds. -/
theorem sameDeploymentAndResources_of_inSeconds {left cut right : Deployment}
    {leftSpec cutSpec rightSpec : DeploymentSpec} (leftContent : left.content = some leftSpec)
    (cutContent : cut.content = some cutSpec) (rightContent : right.content = some rightSpec)
    (replicas : cutSpec.replicas = leftSpec.replicas)
    (selector : cutSpec.selector = leftSpec.selector)
    (pod : cutSpec.template.spec = leftSpec.template.spec.map PodSpec.inSeconds)
    (owners : cut.metadata.owners = left.metadata.owners)
    (whole : Kind.contentInSeconds .deployment right.content = right.content)
    (agree : sameDeploymentAndResources left right = true) :
    sameDeploymentAndResources cut right = true := by
  have wholePod : rightSpec.template.spec.map PodSpec.inSeconds = rightSpec.template.spec := by
    rw [rightContent] at whole
    exact congrArg (fun spec => spec.template.spec) (Option.some.inj whole)
  have wholeVolumes : (rightSpec.template.spec.getD {}).volumes.map (List.map Volume.inSeconds) =
      (rightSpec.template.spec.getD {}).volumes := by
    cases present : rightSpec.template.spec with
    | none => rfl
    | some rightPod =>
        rw [present] at wholePod
        exact congrArg PodSpec.volumes (Option.some.inj wholePod)
  have sameResource : firstResources (deploymentPod cut) = firstResources (deploymentPod left) := by
    rw [deploymentPod, deploymentPod, leftContent, cutContent, Option.bind_some, Option.bind_some,
      pod]
    cases leftSpec.template.spec <;> rfl
  have cutPod : cutSpec.template.spec.getD {} =
      { leftSpec.template.spec.getD {} with
        volumes := (leftSpec.template.spec.getD {}).volumes.map (List.map Volume.inSeconds) } := by
    rw [pod]
    cases leftSpec.template.spec <;> rfl
  rw [sameDeploymentAndResources, Bool.and_eq_true, isKernel_sameDeployment] at agree
  obtain ⟨sameView, resources⟩ := agree
  simp only [deploymentView, leftContent, rightContent, Option.map_some, DeploymentView.mk.injEq,
    Option.some.injEq, DeploymentSpecView.mk.injEq, podView_eq_iff] at sameView
  obtain ⟨sameOwners, sameReplicas, sameSelector, length, first, account, volumes⟩ := sameView
  rw [sameDeploymentAndResources, sameResource, resources, Bool.and_true, isKernel_sameDeployment]
  simp only [deploymentView, cutContent, rightContent, Option.map_some, DeploymentView.mk.injEq,
    Option.some.injEq, DeploymentSpecView.mk.injEq, podView_eq_iff, owners, replicas, selector,
    cutPod]
  exact ⟨sameOwners, sameReplicas, sameSelector, length, first, account,
    sameVolumes_inSeconds wholeVolumes volumes⟩

/-! ## Templates -/

section Templates

open Template

variable (spec : AuditConfigSpec) (owner : Owner) (image : String)

theorem inSeconds_hostVolume : hostVolume.inSeconds = hostVolume :=
  Volume.inSeconds_of_isTimeless (by decide) _ _

theorem inSeconds_configVolume (configMap : String) (credentials : Option String) :
    (configVolume configMap credentials).inSeconds = configVolume configMap credentials :=
  Volume.inSeconds_of_isTimeless (by decide) _ _

theorem inSeconds_certificateVolume :
    (Admission.certificateVolume owner).inSeconds = Admission.certificateVolume owner :=
  Volume.inSeconds_of_isTimeless (by decide) _ _

theorem inSeconds_workloads_deployment (inventory : String) :
    Kind.contentInSeconds .deployment (Workloads.deployment spec owner image inventory).content =
      (Workloads.deployment spec owner image inventory).content := by
  simp only [Workloads.deployment, Kind.contentInSeconds, Option.map_some,
    DeploymentSpec.inSeconds, PodTemplate.inSeconds, PodSpec.inSeconds, List.map_cons,
    List.map_nil, inSeconds_hostVolume, inSeconds_configVolume]
  rfl

theorem inSeconds_admission_deployment :
    Kind.contentInSeconds .deployment (Admission.deployment spec owner image).content =
      (Admission.deployment spec owner image).content := by
  simp only [Admission.deployment, Kind.contentInSeconds, Option.map_some,
    DeploymentSpec.inSeconds, PodTemplate.inSeconds, PodSpec.inSeconds, List.map_cons,
    List.map_nil, inSeconds_certificateVolume]
  rfl

theorem inSeconds_scanApi_deployment :
    Kind.contentInSeconds .deployment (ScanApi.deployment spec owner image).content =
      (ScanApi.deployment spec owner image).content := rfl

theorem inSeconds_cronJob? {node : String} {cronJob : CronJob}
    (made : Nodes.cronJob? spec owner image node = some cronJob) :
    Kind.contentInSeconds .cronJob cronJob.content = cronJob.content := by
  obtain ⟨name, _, rfl⟩ := Option.map_eq_some_iff.mp made
  simp only [Kind.contentInSeconds, Option.map_some, CronJobSpec.inSeconds, JobTemplate.inSeconds,
    JobSpec.inSeconds, PodTemplate.inSeconds, PodSpec.inSeconds, List.map_cons,
    List.map_nil, inSeconds_hostVolume, inSeconds_configVolume]
  rfl

/-! ## Objects that settle -/

/-- An object that holds no instants settles if the live one takes over all of its content and only
owners and content are compared. -/
theorem settles_of_kernel {View : Type} {same : Object kind → Object kind → Bool}
    {merge : Object kind → Object kind → Object kind} {view : Object kind → View}
    {desired : Object kind} (kernel : IsKernel same view)
    (congr : ∀ left right : Object kind, left.metadata.owners = right.metadata.owners →
      left.content = right.content → view left = view right)
    (merges : ∀ live, merge live desired =
      { live with
        metadata := mergeMetadata live.metadata desired.metadata
        content := desired.content })
    (whole : kind.contentInSeconds desired.content = desired.content) :
    Settles same merge desired where
  created := by
    intro stored isStored
    exact (kernel _ _).mpr (congr _ _ isStored.owners (isStored.content.trans whole))
  merged := by
    intro live stored isStored
    rw [merges] at isStored
    exact (kernel _ _).mpr (congr _ _ isStored.owners (isStored.content.trans whole))
  named live := by
    rw [merges]
    rfl
  version live := by
    rw [merges]
    rfl
  status live := by rw [merges]

theorem settles_deployment {desired : Deployment}
    (whole : Kind.contentInSeconds .deployment desired.content = desired.content) :
    Settles sameDeployment mergeDeployment desired := by
  refine settles_of_kernel isKernel_sameDeployment ?_ (fun _ => rfl) whole
  intro left right owners content
  rw [deploymentView, deploymentView, owners, content]

theorem settles_deploymentAndResources {desired : Deployment}
    (whole : Kind.contentInSeconds .deployment desired.content = desired.content) :
    Settles sameDeploymentAndResources mergeDeployment desired := by
  refine settles_of_kernel isKernel_sameDeploymentAndResources ?_ (fun _ => rfl) whole
  intro left right owners content
  simp only [deploymentAndResourcesView, deploymentView, deploymentPod, owners, content]

theorem settles_cronJob {desired : CronJob}
    (whole : Kind.contentInSeconds .cronJob desired.content = desired.content) :
    Settles sameNodeScan mergeCronJob desired := by
  refine settles_of_kernel isKernel_sameNodeScan ?_ (fun _ => rfl) whole
  intro left right owners content
  simp only [nodeScanView, cronJobView, cronJobPod, scheduleOf, owners, content]

theorem settles_configMap (desired : ConfigMap) :
    Settles sameConfigMap mergeConfigMap desired where
  created := by
    intro stored isStored
    have content : stored.content = desired.content := isStored.content
    apply (isKernel_sameConfigMap _ _).mpr
    rw [configMapView, configMapView, content, isStored.owners]
  merged := by
    intro live stored isStored
    have content : stored.content = (mergeConfigMap live desired).content := isStored.content
    have owners : stored.metadata.owners = desired.metadata.owners := isStored.owners
    apply (isKernel_sameConfigMap _ _).mpr
    rw [configMapView, configMapView, content, owners]
    rfl
  named _ := rfl
  version _ := rfl
  status _ := rfl

theorem settles_service (desired : Service) :
    Settles sameService mergeService desired where
  created := by
    intro stored isStored
    have storedContent : stored.content = desired.content := isStored.content
    apply (isKernel_sameService _ _).mpr
    rw [serviceView, serviceView, storedContent, isStored.owners]
  merged := by
    intro live stored isStored
    have storedContent : stored.content = (mergeService live desired).content := isStored.content
    have owners : stored.metadata.owners = desired.metadata.owners := isStored.owners
    apply (isKernel_sameService _ _).mpr
    rw [serviceView, serviceView, storedContent, owners]
    rfl
  named _ := rfl
  version _ := rfl
  status _ := rfl

/-- Which certificates a webhook is trusted by does not count. -/
theorem settles_registration (desired : WebhookConfiguration) :
    Settles sameRegistration mergeRegistration desired where
  created := by
    intro stored isStored
    have storedContent : stored.content = desired.content := isStored.content
    apply (isKernel_sameRegistration _ _).mpr
    rw [registrationView, registrationView, storedContent, isStored.labels]
  merged := by
    intro live stored isStored
    have storedContent : stored.content = (mergeRegistration live desired).content :=
      isStored.content
    have labels : stored.metadata.labels = desired.metadata.labels := isStored.labels
    apply (isKernel_sameRegistration _ _).mpr
    rw [registrationView, storedContent, labels]
    exact registrationView_mergeRegistration live desired
  named _ := rfl
  version _ := rfl
  status _ := rfl

end Templates

/-! ## Labels of live objects -/

/-- An object with other labels. -/
def relabelled (labels : Option Texts) (object : Object kind) : Object kind :=
  { object with metadata := { object.metadata with labels } }

/-- Labels of a live object do not count for a comparison. -/
def IgnoresLabels (same : Object kind → Object kind → Bool) : Prop :=
  ∀ live desired labels, same (relabelled labels live) desired = same live desired

theorem ignoresLabels_sameConfigMap : IgnoresLabels sameConfigMap := fun _ _ _ => rfl

theorem ignoresLabels_sameService : IgnoresLabels sameService := fun _ _ _ => rfl

theorem ignoresLabels_sameDeployment : IgnoresLabels sameDeployment := fun _ _ _ => rfl

theorem ignoresLabels_sameDeploymentAndResources : IgnoresLabels sameDeploymentAndResources :=
  fun _ _ _ => rfl

/-- What is as it is wanted is so with any labels, if these do not count. -/
theorem Settles.same_relabelled {same : Object kind → Object kind → Bool}
    {merge : Object kind → Object kind → Object kind} {desired : Object kind}
    (settles : Settles same merge desired) (ignores : IgnoresLabels same) (labels : Option Texts)
    (whole : kind.contentInSeconds desired.content = desired.content) :
    same (relabelled labels desired) desired = true := by
  rw [ignores]
  exact settles.created desired { owners := rfl, labels := rfl, content := whole.symm }

end Managed

end ClusterAudit
