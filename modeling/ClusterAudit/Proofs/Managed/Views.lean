import ClusterAudit.Proofs.Managed.Amounts

/-!
What is looked at when a live object is compared with the one that is wanted. Every comparison has a
view of each of the two objects, and holds exactly if the views are the same. A view takes an absent
list for an empty one where the comparison does, and leaves out whatever the comparison ignores.
-/

namespace ClusterAudit

/-! ## Numbers -/

namespace Json

/-- The text of a zero, with or without a sign. -/
def IsZero (shortest : String) : Prop :=
  shortest = "0.0" ∨ shortest = "-0.0"

mutual

/-- Two values are equal, where numbers are equal as numbers. -/
def Alike : Json → Json → Prop
  | decimal left, decimal right => left = right ∨ IsZero left ∧ IsZero right
  | arr left, arr right => AlikeItems left right
  | obj left, obj right => AlikeMembers left right
  | left, right => left = right

def AlikeItems : List Json → List Json → Prop
  | [], [] => True
  | left :: leftRest, right :: rightRest => Alike left right ∧ AlikeItems leftRest rightRest
  | _, _ => False

def AlikeMembers : Members → Members → Prop
  | [], [] => True
  | (leftName, left) :: leftRest, (rightName, right) :: rightRest =>
      leftName = rightName ∧ Alike left right ∧ AlikeMembers leftRest rightRest
  | _, _ => False

end

theorem plainZeros_decimal_eq_iff {left right : String} :
    plainZeros (decimal left) = plainZeros (decimal right) ↔ Alike (decimal left) (decimal right) := by
  simp only [plainZeros, Alike, IsZero, decimal.injEq]
  by_cases leftSigned : left = "-0.0"
  · by_cases rightSigned : right = "-0.0"
    · simp [leftSigned, rightSigned]
    · simp [leftSigned, rightSigned, eq_comm]
  · by_cases rightSigned : right = "-0.0"
    · simp [leftSigned, rightSigned]
    · simp only [leftSigned, rightSigned, if_false, or_false]
      constructor
      · exact Or.inl
      · rintro (same | ⟨leftZero, rightZero⟩)
        · exact same
        · rw [leftZero, rightZero]

mutual

/-- Values are the same without the signs of their zeros exactly if they are equal. -/
theorem plainZeros_eq_iff (left right : Json) :
    plainZeros left = plainZeros right ↔ Alike left right := by
  cases left with
  | decimal leftText =>
      cases right with
      | decimal rightText => exact plainZeros_decimal_eq_iff
      | _ => simp [plainZeros, Alike]
  | arr leftItems =>
      cases right with
      | arr rightItems =>
          simp only [plainZeros, Alike, arr.injEq, plainItemZeros_eq_iff leftItems rightItems]
      | _ => simp [plainZeros, Alike]
  | obj leftMembers =>
      cases right with
      | obj rightMembers =>
          simp only [plainZeros, Alike, obj.injEq, plainMemberZeros_eq_iff leftMembers rightMembers]
      | _ => simp [plainZeros, Alike]
  | _ => cases right <;> simp [plainZeros, Alike]

theorem plainItemZeros_eq_iff (left right : List Json) :
    plainItemZeros left = plainItemZeros right ↔ AlikeItems left right := by
  cases left with
  | nil => cases right <;> simp [plainItemZeros, AlikeItems]
  | cons leftItem leftRest =>
      cases right with
      | nil => simp [plainItemZeros, AlikeItems]
      | cons rightItem rightRest =>
          simp only [plainItemZeros, AlikeItems, List.cons.injEq,
            plainZeros_eq_iff leftItem rightItem, plainItemZeros_eq_iff leftRest rightRest]

theorem plainMemberZeros_eq_iff (left right : Members) :
    plainMemberZeros left = plainMemberZeros right ↔ AlikeMembers left right := by
  cases left with
  | nil => cases right <;> simp [plainMemberZeros, AlikeMembers]
  | cons leftEntry leftRest =>
      cases right with
      | nil => simp [plainMemberZeros, AlikeMembers]
      | cons rightEntry rightRest =>
          obtain ⟨leftName, leftValue⟩ := leftEntry
          obtain ⟨rightName, rightValue⟩ := rightEntry
          simp only [plainMemberZeros, AlikeMembers, List.cons.injEq, Prod.mk.injEq, and_assoc,
            plainZeros_eq_iff leftValue rightValue, plainMemberZeros_eq_iff leftRest rightRest]

end

end Json

/-- Volumes are the same without the signs of their zeros exactly if what they hold is equal. -/
theorem Volume.plainZeros_eq_iff {left right : Volume} :
    left.plainZeros = right.plainZeros ↔
      left.name = right.name ∧ Json.AlikeMembers left.source right.source := by
  rw [plainZeros, plainZeros, Volume.mk.injEq, Json.plainMemberZeros_eq_iff]

namespace Managed

/-! ## Pods -/

/-- What is compared of a container. -/
structure ContainerView where
  image : Option String
  command : List String
  args : List String
  mounts : List VolumeMount
  env : List EnvVar

def containerView (container : Container) : ContainerView where
  image := container.image
  command := container.command.getD []
  args := container.args.getD []
  mounts := container.volumeMounts.getD []
  env := container.env.getD []

/-- What is compared of the pods of any workload. -/
structure PodView where
  count : Nat
  first : Option ContainerView
  account : String
  volumes : List Volume

def podView (pod : PodSpec) : PodView where
  count := pod.containers.length
  first := pod.containers.head?.map containerView
  account := pod.serviceAccountName.getD ""
  volumes := (pod.volumes.getD []).map Volume.plainZeros

section Pods

theorem sameList_iff {Item : Type} [DecidableEq Item] {left right : Option (List Item)} :
    sameList left right = true ↔ left.getD [] = right.getD [] :=
  beq_iff_eq

theorem sameOwners_iff {left right : Metadata} :
    sameOwners left right = true ↔ left.owners.getD [] = right.owners.getD [] :=
  sameList_iff

theorem isKernel_sameContainer : IsKernel sameContainer containerView := by
  intro left right
  simp only [sameContainer, containerView, Bool.and_eq_true, beq_iff_eq, sameList_iff,
    ContainerView.mk.injEq, and_assoc]

theorem sameFirstContainer_iff {left right : PodSpec} :
    sameFirstContainer left right = true ↔
      left.containers.head?.map containerView = right.containers.head?.map containerView := by
  rw [sameFirstContainer]
  cases left.containers.head? with
  | none => cases right.containers.head? <;> simp
  | some leftContainer =>
      cases right.containers.head? with
      | none => simp
      | some rightContainer => simp [isKernel_sameContainer leftContainer rightContainer]

theorem sameVolumes_iff {left right : Option (List Volume)} :
    sameVolumes left right = true ↔
      (left.getD []).map Volume.plainZeros = (right.getD []).map Volume.plainZeros := by
  rw [sameVolumes, sameList_iff]
  cases left <;> cases right <;> rfl

/-- Pods look the same if their containers, their accounts and their volumes do. -/
theorem podView_eq_iff {left right : PodSpec} :
    podView left = podView right ↔
      left.containers.length = right.containers.length ∧ sameFirstContainer left right = true ∧
        serviceAccount left = serviceAccount right ∧ sameVolumes left.volumes right.volumes = true := by
  simp only [podView, PodView.mk.injEq, sameFirstContainer_iff, sameVolumes_iff, serviceAccount]

end Pods

/-! ## Deployments -/

/-- What is compared of a deployment that asks for pods. -/
structure DeploymentSpecView where
  replicas : Option Int
  selector : LabelSelector
  pod : PodView

/-- What is compared of a deployment. -/
structure DeploymentView where
  owners : List OwnerReference
  spec : Option DeploymentSpecView

def deploymentView (deployment : Deployment) : DeploymentView where
  owners := deployment.metadata.owners.getD []
  spec := deployment.content.map fun spec =>
    { replicas := spec.replicas
      selector := spec.selector
      pod := podView (spec.template.spec.getD {}) }

theorem isKernel_sameDeployment : IsKernel sameDeployment deploymentView := by
  intro left right
  simp only [sameDeployment, deploymentView, DeploymentView.mk.injEq]
  cases left.content with
  | none => cases right.content <;> simp [sameOwners_iff]
  | some leftSpec =>
      cases right.content with
      | none => simp
      | some rightSpec =>
          simp only [Option.map_some, Option.some.injEq, DeploymentSpecView.mk.injEq,
            podView_eq_iff, Bool.and_eq_true, beq_iff_eq, sameOwners_iff]
          -- Both sides name the same parts, but not in the same order.
          grind

/-- What is compared of a deployment whose resources count too. -/
def deploymentAndResourcesView (deployment : Deployment) :
    DeploymentView × (String → (Quantity ⊕ String) × (Quantity ⊕ String)) :=
  (deploymentView deployment, resourcesReading (firstResources (deploymentPod deployment)))

theorem isKernel_sameDeploymentAndResources :
    IsKernel sameDeploymentAndResources deploymentAndResourcesView := by
  intro left right
  rw [sameDeploymentAndResources, Bool.and_eq_true, isKernel_sameDeployment,
    isKernel_sameResources, deploymentAndResourcesView, deploymentAndResourcesView,
    Prod.mk.injEq]

/-! ## Cron jobs -/

/-- What is compared of a cron job. -/
structure CronJobView where
  owners : List OwnerReference
  pod : PodView
  tolerations : List Json
  nodeName : Option String
  affinity : Option Json
  successfulLimit : Option Int
  failedLimit : Option Int

/-- The pods of a cron job, or what they are by default. -/
def cronJobPod (cronJob : CronJob) : PodSpec :=
  let spec : CronJobSpec := cronJob.content.getD {}
  (spec.jobTemplate.spec.bind fun job => job.template.spec).getD {}

def cronJobView (cronJob : CronJob) : CronJobView :=
  let spec : CronJobSpec := cronJob.content.getD {}
  { owners := cronJob.metadata.owners.getD []
    pod := podView (cronJobPod cronJob)
    tolerations := (cronJobPod cronJob).tolerations.getD []
    nodeName := (cronJobPod cronJob).nodeName
    affinity := (cronJobPod cronJob).affinity
    successfulLimit := spec.successfulJobsHistoryLimit
    failedLimit := spec.failedJobsHistoryLimit }

theorem isKernel_sameCronJob : IsKernel sameCronJob cronJobView := by
  intro left right
  have pod : ∀ cronJob : CronJob,
      ((cronJob.content.getD {}).pod?).getD {} = cronJobPod cronJob := fun _ => rfl
  simp only [sameCronJob, cronJobView, CronJobView.mk.injEq, pod, podView_eq_iff, Bool.and_eq_true,
    beq_iff_eq, sameOwners_iff, sameList_iff]
  grind

/-- What is compared of the scan of a node. -/
def nodeScanView (cronJob : CronJob) :
    CronJobView × String × (String → (Quantity ⊕ String) × (Quantity ⊕ String)) :=
  (cronJobView cronJob, scheduleOf cronJob,
    resourcesReading (firstResources (cronJob.content.bind CronJobSpec.pod?)))

theorem isKernel_sameNodeScan : IsKernel sameNodeScan nodeScanView := by
  intro left right
  rw [sameNodeScan, Bool.and_eq_true, Bool.and_eq_true, isKernel_sameCronJob, beq_iff_eq,
    isKernel_sameResources, nodeScanView, nodeScanView, Prod.mk.injEq, Prod.mk.injEq, and_assoc]

/-! ## Services, config maps and registrations -/

/-- What is compared of a service. -/
structure ServiceView where
  owners : List OwnerReference
  ports : List Json
  selector : Texts
  type : Option String

def serviceView (service : Service) : ServiceView :=
  let spec : ServiceSpec := service.content.getD {}
  { owners := service.metadata.owners.getD []
    ports := spec.ports.getD []
    selector := spec.selector.getD Dictionary.empty
    type := spec.type }

theorem isKernel_sameService : IsKernel sameService serviceView := by
  intro left right
  simp only [sameService, serviceView, ServiceView.mk.injEq, Bool.and_eq_true, beq_iff_eq,
    sameOwners_iff, sameList_iff]
  grind

/-- What is compared of a config map. -/
structure ConfigMapView where
  owners : List OwnerReference
  data : Texts

def configMapView (configMap : ConfigMap) : ConfigMapView where
  owners := configMap.metadata.owners.getD []
  data := configMap.content.data.getD Dictionary.empty

theorem isKernel_sameConfigMap : IsKernel sameConfigMap configMapView := by
  intro left right
  simp only [sameConfigMap, configMapView, ConfigMapView.mk.injEq, Bool.and_eq_true, beq_iff_eq,
    sameOwners_iff]
  exact and_comm

/-- What is compared of a registration: its labels, and its webhooks without certificates. -/
structure RegistrationView where
  labels : Option Texts
  webhooks : List Webhook

def registrationView (registration : WebhookConfiguration) : RegistrationView where
  labels := registration.metadata.labels
  webhooks := (registration.content.getD []).map fun webhook => { webhook with caBundle := none }

theorem isKernel_sameRegistration : IsKernel sameRegistration registrationView := by
  intro left right
  simp only [sameRegistration, untrusted, registrationView, RegistrationView.mk.injEq,
    Bool.and_eq_true, beq_iff_eq]
  exact and_comm

/-! ## All comparisons -/

/-- Every comparison of live and wanted objects holds exactly if what it looks at agrees, and is
therefore an equivalence. Volumes agree if they have one name and equal values in them. -/
theorem same_iff_views_agree :
    (IsKernel sameDeployment deploymentView ∧ IsKernel sameService serviceView ∧
      IsKernel sameCronJob cronJobView ∧ IsKernel sameConfigMap configMapView ∧
      IsKernel sameRegistration registrationView) ∧
    (∀ left right : Volume, left.plainZeros = right.plainZeros ↔
      left.name = right.name ∧ Json.AlikeMembers left.source right.source) ∧
    (Equivalence fun left right => sameDeployment left right = true) ∧
    (Equivalence fun left right => sameService left right = true) ∧
    (Equivalence fun left right => sameCronJob left right = true) ∧
    (Equivalence fun left right => sameConfigMap left right = true) ∧
    Equivalence fun left right => sameRegistration left right = true :=
  ⟨⟨isKernel_sameDeployment, isKernel_sameService, isKernel_sameCronJob, isKernel_sameConfigMap,
      isKernel_sameRegistration⟩,
    fun _ _ => Volume.plainZeros_eq_iff, isKernel_sameDeployment.equivalence,
    isKernel_sameService.equivalence, isKernel_sameCronJob.equivalence,
    isKernel_sameConfigMap.equivalence, isKernel_sameRegistration.equivalence⟩

end Managed

end ClusterAudit
