import ClusterAudit.Managed.Merge

/-!
The certificates of webhooks after a merge. They are put into a registration from outside, for each
webhook its own, but a merge takes only those of the first webhook and gives them to all. So every
webhook keeps its certificates exactly if those that stay had the first one's before.
-/

namespace ClusterAudit.Managed

variable (live desired : WebhookConfiguration)

/-- The webhooks of a registration. -/
def webhooks (registration : WebhookConfiguration) : List Webhook :=
  registration.content.getD []

/-- A webhook that has the name of one before has its certificates, or none if that one had none. -/
def KeepsCertificates (before after : WebhookConfiguration) : Prop :=
  ∀ old ∈ webhooks before, ∀ new ∈ webhooks after, new.name = old.name →
    new.caBundle = old.caBundle

theorem webhooks_mergeRegistration :
    webhooks (mergeRegistration live desired) =
      (webhooks desired).map fun webhook => { webhook with caBundle := firstCertificates live } :=
  rfl

theorem caBundle_mergeRegistration :
    ∀ new ∈ webhooks (mergeRegistration live desired), new.caBundle = firstCertificates live := by
  intro new member
  rw [webhooks_mergeRegistration] at member
  obtain ⟨webhook, _, rfl⟩ := List.mem_map.mp member
  rfl

theorem map_name_mergeRegistration :
    (webhooks (mergeRegistration live desired)).map Webhook.name =
      (webhooks desired).map Webhook.name := by
  rw [webhooks_mergeRegistration, List.map_map]
  rfl

theorem keepsCertificates_iff :
    KeepsCertificates live (mergeRegistration live desired) ↔
      ∀ old ∈ webhooks live, old.name ∈ (webhooks desired).map Webhook.name →
        old.caBundle = firstCertificates live := by
  have given := caBundle_mergeRegistration live desired
  rw [← map_name_mergeRegistration live desired]
  constructor
  · intro keeps old member wanted
    obtain ⟨new, newMember, sameName⟩ := List.mem_map.mp wanted
    rw [← keeps old member new newMember sameName]
    exact given new newMember
  · intro alike old member new newMember sameName
    rw [alike old member (sameName ▸ List.mem_map_of_mem newMember)]
    exact given new newMember

theorem firstCertificates_eq :
    firstCertificates live = (webhooks live).head?.bind Webhook.caBundle := by
  rw [firstCertificates, webhooks]
  cases live.content <;> rfl

variable {live} in
theorem caBundle_of_single (single : (webhooks live).length ≤ 1) :
    ∀ old ∈ webhooks live, old.caBundle = firstCertificates live := by
  intro old member
  have one : (webhooks live).length = 1 := by
    have filled := List.length_pos_of_mem member
    omega
  obtain ⟨only, listed⟩ := List.length_eq_one_iff.mp one
  rw [firstCertificates_eq, listed]
  rw [listed] at member
  rw [List.mem_singleton.mp member]
  rfl

/-- After a merge every webhook has the certificates of the live registration's first one. So the
webhooks that stay keep theirs exactly if they had the same as that one. A registration with one
webhook, such as those that the operator makes, keeps them under every merge. -/
theorem certificates_mergeRegistration :
    (∀ new ∈ webhooks (mergeRegistration live desired),
      new.caBundle = firstCertificates live) ∧
    (KeepsCertificates live (mergeRegistration live desired) ↔
      ∀ old ∈ webhooks live, old.name ∈ (webhooks desired).map Webhook.name →
        old.caBundle = firstCertificates live) ∧
    ((webhooks live).length ≤ 1 → KeepsCertificates live (mergeRegistration live desired)) := by
  refine ⟨caBundle_mergeRegistration live desired, keepsCertificates_iff live desired, ?_⟩
  intro single
  apply (keepsCertificates_iff live desired).mpr
  intro old member _
  exact caBundle_of_single single old member

/-! ## Registrations of one and of two webhooks -/

def registered (hooks : List Webhook) : WebhookConfiguration where
  content := some hooks

def policyHook (certificates : Option String) : Webhook where
  name := "policy"
  caBundle := certificates

def otherHook (certificates : Option String) : Webhook where
  name := "other"
  caBundle := certificates

/-- The certificates of a single webhook stay, also if another webhook comes to be wanted in front
of it. -/
theorem certificates_policyHook :
    (webhooks (registered [policyHook (some "Y2E=")])).length ≤ 1 ∧
      KeepsCertificates (registered [policyHook (some "Y2E=")])
        (mergeRegistration (registered [policyHook (some "Y2E=")])
          (registered [otherHook none, policyHook none])) :=
  ⟨by decide, (certificates_mergeRegistration _ _).2.2 (by decide)⟩

/-- A webhook behind another one is given the certificates of that one. -/
theorem exists_certificates_lost :
    ∃ live desired,
      ((webhooks live).map Webhook.name).Nodup ∧ ((webhooks desired).map Webhook.name).Nodup ∧
        ¬ KeepsCertificates live (mergeRegistration live desired) := by
  refine ⟨registered [otherHook (some "b3RoZXI="), policyHook (some "cG9saWN5")],
    registered [policyHook none], by decide, by decide, ?_⟩
  intro keeps
  have second := (keepsCertificates_iff _ _).mp keeps (policyHook (some "cG9saWN5"))
    (List.mem_cons_of_mem _ List.mem_cons_self) List.mem_cons_self
  exact absurd second (by decide)

end ClusterAudit.Managed
