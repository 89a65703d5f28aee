import ClusterAudit.Managed.Merge
import ClusterAudit.Proofs.Managed.Views

/-!
Merging a wanted object into a live one. The outcome is as it is wanted, so that it is not merged
again, and the live object keeps all that the cluster and other writers have given it.
-/

namespace ClusterAudit.Managed

/-- Metadata without the parts that a merge may set. -/
def unmanagedMetadata (metadata : Metadata) : Metadata :=
  { metadata with owners := none, labels := none }

/-- What a service asks for without the parts that a merge sets. -/
def unmanagedSpec (service : Service) : ServiceSpec :=
  let spec : ServiceSpec := service.content.getD {}
  { spec with ports := none, selector := none, type := none }

/-- What a config map holds without the part that a merge sets. -/
def unmanagedData (configMap : ConfigMap) : ConfigData :=
  { configMap.content with data := none }

/-- A merge attains what a comparison asks for: its outcome is as it is wanted, merging the same once
more changes nothing, and names, versions, annotations, finalizers and status stay those of the live
object. -/
structure Attains {kind : Kind} (merge : Object kind → Object kind → Object kind)
    (same : Object kind → Object kind → Bool) : Prop where
  asWanted : ∀ live desired, same (merge live desired) desired = true
  again : ∀ live desired, merge (merge live desired) desired = merge live desired
  metadata : ∀ live desired,
    unmanagedMetadata (merge live desired).metadata = unmanagedMetadata live.metadata
  status : ∀ live desired, (merge live desired).status = live.status

/-! ## Workloads -/

theorem attains_sameDeployment : Attains mergeDeployment sameDeployment where
  asWanted _ _ := (isKernel_sameDeployment _ _).mpr rfl
  again _ _ := rfl
  metadata _ _ := rfl
  status _ _ := rfl

/-- The content of a deployment is that of the wanted one, and so are its resources. -/
theorem attains_sameDeploymentAndResources : Attains mergeDeployment sameDeploymentAndResources where
  asWanted _ _ := (isKernel_sameDeploymentAndResources _ _).mpr rfl
  again _ _ := rfl
  metadata _ _ := rfl
  status _ _ := rfl

theorem attains_sameCronJob : Attains mergeCronJob sameCronJob where
  asWanted _ _ := (isKernel_sameCronJob _ _).mpr rfl
  again _ _ := rfl
  metadata _ _ := rfl
  status _ _ := rfl

theorem attains_sameNodeScan : Attains mergeCronJob sameNodeScan where
  asWanted _ _ := (isKernel_sameNodeScan _ _).mpr rfl
  again _ _ := rfl
  metadata _ _ := rfl
  status _ _ := rfl

/-! ## Config maps and services -/

theorem attains_sameConfigMap : Attains mergeConfigMap sameConfigMap where
  asWanted _ _ := (isKernel_sameConfigMap _ _).mpr rfl
  again _ _ := rfl
  metadata _ _ := rfl
  status _ _ := rfl

theorem attains_sameService : Attains mergeService sameService where
  asWanted _ _ := (isKernel_sameService _ _).mpr rfl
  again _ _ := rfl
  metadata _ _ := rfl
  status _ _ := rfl

/-! ## Registrations -/

section Registrations

variable (live desired : WebhookConfiguration)

theorem content_mergeRegistration :
    (mergeRegistration live desired).content =
      some ((desired.content.getD []).map fun webhook =>
        { webhook with caBundle := firstCertificates live }) := rfl

theorem registrationView_mergeRegistration :
    registrationView (mergeRegistration live desired) = registrationView desired := by
  simp only [registrationView, content_mergeRegistration, Option.getD_some, List.map_map,
    Function.comp_def]
  rfl

/-- The first webhook of a merged registration has the certificates of the live one, if there is any
webhook. -/
theorem firstCertificates_mergeRegistration :
    firstCertificates (mergeRegistration live desired) =
      if (desired.content.getD []).isEmpty then none else firstCertificates live := by
  rw [firstCertificates, content_mergeRegistration, Option.bind_some]
  cases desired.content.getD [] <;> rfl

theorem mergeRegistration_mergeRegistration :
    mergeRegistration (mergeRegistration live desired) desired =
      mergeRegistration live desired := by
  have sameContent : (mergeRegistration (mergeRegistration live desired) desired).content =
      (mergeRegistration live desired).content := by
    rw [content_mergeRegistration, content_mergeRegistration, firstCertificates_mergeRegistration]
    cases desired.content.getD [] <;> rfl
  rw [mergeRegistration, Object.mk.injEq]
  exact ⟨rfl, sameContent, rfl⟩

end Registrations

theorem attains_sameRegistration : Attains mergeRegistration sameRegistration where
  asWanted live desired :=
    (isKernel_sameRegistration _ _).mpr (registrationView_mergeRegistration live desired)
  again := mergeRegistration_mergeRegistration
  metadata _ _ := rfl
  status _ _ := rfl

/-! ## All merges -/

/-- Every merge attains what the comparisons of its kind ask for. Of what a service asks for it sets
ports, selector and type, and of what a config map holds the data, and leaves the rest. -/
theorem merges_attain :
    Attains mergeConfigMap sameConfigMap ∧ Attains mergeDeployment sameDeployment ∧
      Attains mergeDeployment sameDeploymentAndResources ∧ Attains mergeService sameService ∧
      Attains mergeCronJob sameCronJob ∧ Attains mergeCronJob sameNodeScan ∧
      Attains mergeRegistration sameRegistration ∧
      (∀ live desired, unmanagedSpec (mergeService live desired) = unmanagedSpec live) ∧
      ∀ live desired, unmanagedData (mergeConfigMap live desired) = unmanagedData live :=
  ⟨attains_sameConfigMap, attains_sameDeployment, attains_sameDeploymentAndResources, attains_sameService,
    attains_sameCronJob, attains_sameNodeScan, attains_sameRegistration, fun _ _ => rfl, fun _ _ => rfl⟩

end ClusterAudit.Managed
