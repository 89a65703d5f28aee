import ClusterAudit.Proofs.Interleaving
import ClusterAudit.Proofs.Reached

/-!
Registrations of several configurations. A registration belongs to the whole cluster, and its name
is put together from the namespace and the name of its configuration. Two configurations have the
same one if the namespace of one runs into the name of the other; apart from that, no pass over one
configuration touches the registration of another.
-/

namespace ClusterAudit

/-! ## Names -/

namespace Key

/-- The second namespace goes on where the first one ends, by as much as the first name has before
the second one. -/
def RunsInto (first second : Key) : Prop :=
  ∃ middle, second.namespaceName = first.namespaceName ++ "-" ++ middle ∧
    first.name = middle ++ "-" ++ second.name

variable {first second : Key}

theorem RunsInto.registration_eq (runs : first.RunsInto second) :
    first.registration = second.registration := by
  obtain ⟨middle, namespaces, names⟩ := runs
  simp only [registration, Naming.webhookConfiguration, namespaces, names, String.append_assoc]

/-- Two lists that are joined by a mark to the same list end at the same place, or one of them ends
at a mark inside the other. -/
theorem split_cases {Item : Type} {mark : Item} {left right rest other : List Item}
    (same : left ++ mark :: rest = right ++ mark :: other) :
    (left = right ∧ rest = other) ∨
      (∃ middle, right = left ++ mark :: middle ∧ rest = middle ++ mark :: other) ∨
      ∃ middle, left = right ++ mark :: middle ∧ other = middle ++ mark :: rest := by
  rcases List.append_eq_append_iff.mp same with longer | shorter
  · obtain ⟨tail, rightIs, restIs⟩ := longer
    cases tail with
    | nil =>
        rw [List.append_nil] at rightIs
        exact Or.inl ⟨rightIs.symm, (List.cons.inj restIs).2⟩
    | cons first middle =>
        obtain ⟨sameMark, restLeft⟩ := List.cons.inj restIs
        subst sameMark
        exact Or.inr (Or.inl ⟨middle, rightIs, restLeft⟩)
  · obtain ⟨tail, leftIs, otherIs⟩ := shorter
    cases tail with
    | nil =>
        rw [List.append_nil] at leftIs
        exact Or.inl ⟨leftIs, (List.cons.inj otherIs).2.symm⟩
    | cons first middle =>
        obtain ⟨sameMark, otherLeft⟩ := List.cons.inj otherIs
        subst sameMark
        exact Or.inr (Or.inr ⟨middle, leftIs, otherLeft⟩)

theorem runsInto_of_toList {middle : List Char}
    (namespaces : second.namespaceName.toList = first.namespaceName.toList ++ '-' :: middle)
    (names : first.name.toList = middle ++ '-' :: second.name.toList) :
    first.RunsInto second := by
  refine ⟨String.ofList middle, ?_, ?_⟩
  · apply String.toList_inj.mp
    simp [namespaces]
  · apply String.toList_inj.mp
    simp [names]

/-- Two configurations have the same registration exactly if they are the same, or if the namespace
of one runs into the name of the other. -/
theorem registration_eq_registration_iff :
    first.registration = second.registration ↔
      first = second ∨ first.RunsInto second ∨ second.RunsInto first := by
  constructor
  · intro same
    have whole := congrArg (fun key : Key => key.name.toList) same
    simp only [registration, ofCluster, Naming.webhookConfiguration, String.toList_append] at whole
    have texts : first.namespaceName.toList ++ '-' :: first.name.toList =
        second.namespaceName.toList ++ '-' :: second.name.toList := by
      simpa using List.append_cancel_right whole
    rcases split_cases texts with equal | intoSecond | intoFirst
    · obtain ⟨namespaces, names⟩ := equal
      left
      cases first
      cases second
      exact congrArg₂ Key.mk (String.toList_inj.mp namespaces) (String.toList_inj.mp names)
    · obtain ⟨middle, namespaces, names⟩ := intoSecond
      exact Or.inr (Or.inl (runsInto_of_toList namespaces names))
    · obtain ⟨middle, namespaces, names⟩ := intoFirst
      exact Or.inr (Or.inr (runsInto_of_toList namespaces names))
  · rintro (rfl | intoSecond | intoFirst)
    · rfl
    · exact intoSecond.registration_eq
    · exact intoFirst.registration_eq.symm

end Key

/-! ## Passes -/

/-- Of all registrations the call can change at most that of the configuration at a place. -/
def Call.RegistersOnly (key : Key) (call : Call) : Prop :=
  ∀ entry, call.entry? = some entry → entry.kind = .webhookConfiguration →
    entry.key = key.registration

namespace Pass

open Store

variable {key : Key} {config : AuditConfig} {context : PassContext}

theorem allowsKind_registersOnly {kind : Kind} (notRegistration : kind ≠ .webhookConfiguration) :
    AllowsKind (Call.RegistersOnly key) kind where
  get _ := nofun
  list _ _ := nofun
  create _ _ := by
    intro entry written isRegistration
    cases written
    exact absurd isRegistration notRegistration
  replace _ _ := by
    intro entry written isRegistration
    cases written
    exact absurd isRegistration notRegistration
  delete _ := by
    intro entry written isRegistration
    cases written
    exact absurd isRegistration notRegistration

theorem registersOnly_delete :
    Call.RegistersOnly key (.delete .webhookConfiguration key.registration) := by
  intro entry written _
  cases written
  rfl

theorem registersOnly_ensureRegistration (own : context.owner.configKey = key) :
    (ensureCluster (Template.Admission.registration context.spec context.owner)
      Managed.sameRegistration Managed.mergeRegistration).CallsOnly (Call.RegistersOnly key) := by
  subst own
  apply callsOnly_ensureCluster
  · nofun
  · intro entry written _
    cases written
    rfl
  · intro object entry written _
    cases written
    rfl

theorem registersOnly_run (own : context.owner.configKey = key) (feature : Feature) :
    (feature.run context).CallsOnly (Call.RegistersOnly key) := by
  have configs : AllowsKind (Call.RegistersOnly key) .auditConfig :=
    allowsKind_registersOnly nofun
  have configMaps : AllowsKind (Call.RegistersOnly key) .configMap :=
    allowsKind_registersOnly nofun
  have cronJobs : AllowsKind (Call.RegistersOnly key) .cronJob := allowsKind_registersOnly nofun
  have deployments : AllowsKind (Call.RegistersOnly key) .deployment :=
    allowsKind_registersOnly nofun
  have nodes : AllowsKind (Call.RegistersOnly key) .node := allowsKind_registersOnly nofun
  have secrets : AllowsKind (Call.RegistersOnly key) .secret := allowsKind_registersOnly nofun
  have services : AllowsKind (Call.RegistersOnly key) .service := allowsKind_registersOnly nofun
  rw [Feature.run]
  cases feature with
  | workloads =>
      split
      · exact callsOnly_workloads_reconcile context configMaps.toAllowsUpkeep
          deployments.toAllowsUpkeep (deployments.delete _)
      · exact callsOnly_workloads_tearDown context (deployments.delete _) (configMaps.delete _)
  | nodes =>
      split
      · exact callsOnly_nodes_reconcile context configMaps.toAllowsUpkeep
          cronJobs.toAllowsUpkeep nodes.toAllowsUpkeep cronJobs.delete
      · exact callsOnly_nodes_tearDown context (cronJobs.list _) cronJobs.delete
          (configMaps.delete _)
  | admission =>
      split
      · exact callsOnly_admission_reconcile context services.toAllowsUpkeep
          (registersOnly_ensureRegistration own)
          (fun _ => deployments.toAllowsUpkeep.ensuring _ _) fun _ _ => configs.replace _ _
      · subst own
        exact callsOnly_admission_tearDown context (fun _ _ => configs.replace _ _)
          registersOnly_delete (deployments.delete _) (services.delete _)
  | scanApi =>
      split
      · exact callsOnly_scanApi_reconcile context secrets.create
          (fun _ => deployments.toAllowsUpkeep.ensuring _ _) services.toAllowsUpkeep
      · exact callsOnly_scanApi_tearDown context (secrets.delete _) (deployments.delete _)
          (services.delete _)

section

variable (named : config.displayName = key.name)
  (placed : config.metadata.namespaceName = some key.namespaceName)

include named placed

theorem registersOnly_finalize :
    (Admission.finalize config).CallsOnly (Call.RegistersOnly key) := by
  have configs : AllowsKind (Call.RegistersOnly key) .auditConfig :=
    allowsKind_registersOnly nofun
  apply callsOnly_finalize fun _ _ => configs.replace _ _
  intro namespaceName found
  rw [Admission.namespaceOf, placed] at found
  cases found
  rw [named]
  exact registersOnly_delete

theorem registersOnly_reconcileFeatures (policyName : String) (now : Instant) (token : String) :
    (reconcileFeatures policyName config now token).CallsOnly (Call.RegistersOnly key) := by
  apply callsOnly_reconcileFeatures fun _ => nofun
  · intro policy owner owned feature
    have own : owner.configKey = key := (Owner.eq_configKey owned named placed).symm
    exact registersOnly_run own feature
  · exact fun _ _ => nofun
  · intro place status entry written isRegistration
    cases written
    cases isRegistration

end

/-- A pass over a configuration that stands under its own name touches no registration but its
own. -/
theorem registersOnly_reconcile {store : Store} {images : ImageSource} (policyName : String)
    (now : Instant) (token : String)
    (named : ∀ config, store.stored? .auditConfig key = some config →
      config.displayName = key.name ∧ config.metadata.namespaceName = some key.namespaceName) :
    (reconcile policyName key now token).RunsOnly images (Call.RegistersOnly key) store := by
  have reads : (get .auditConfig key).CallsOnly (Call.RegistersOnly key) := callsOnly_ask nofun
  apply runsOnly_bind (reads.runsOnly store)
  intro found middle looked
  have answered : store.get .auditConfig key = .ok found :=
    congrArg Prod.fst (runOn_ask_eq_done_iff.mp looked)
  cases found with
  | none => trivial
  | some config =>
      obtain ⟨ownName, ownNamespace⟩ := named config (stored?_of_get answered)
      apply CallsOnly.runsOnly
      change (ite _ _ _ : Pass Progress).CallsOnly _
      split
      · exact callsOnly_bind (registersOnly_finalize ownName ownNamespace) fun _ => trivial
      · exact registersOnly_reconcileFeatures ownName ownNamespace policyName now token

end Pass

/-- A pass over one configuration leaves the registration of another one as it is, and writes
nothing about it into the log, unless the namespace of one of them runs into the name of the
other. -/
theorem leaves_registration (store : Store) (images : ImageSource) (policyName : String)
    (now : Instant) {first second : Key}
    (named : ∀ config, store.stored? .auditConfig first = some config →
      config.displayName = first.name ∧ config.metadata.namespaceName = some first.namespaceName)
    (different : first ≠ second) (apart : ¬ first.RunsInto second ∧ ¬ second.RunsInto first) :
    let after := (store.reconcile images policyName first now).2
    after.find? .webhookConfiguration second.registration =
        store.find? .webhookConfiguration second.registration ∧
      ∃ entries, after.log = store.log ++ entries ∧
        ∀ entry ∈ entries, entry.kind = .webhookConfiguration →
          entry.key ≠ second.registration := by
  intro after
  have otherName : first.registration ≠ second.registration := by
    intro same
    rcases Key.registration_eq_registration_iff.mp same with equal | intoSecond | intoFirst
    · exact different equal
    · exact apart.1 intoSecond
    · exact apart.2 intoFirst
  have namedDrawn : ∀ config, store.drawn.stored? .auditConfig first = some config →
      config.displayName = first.name ∧
        config.metadata.namespaceName = some first.namespaceName := named
  have runs : (Pass.reconcile policyName first now store.freshIdentifier.1).RunsOnly images
      (Call.RegistersOnly first) store.drawn :=
    Pass.registersOnly_reconcile policyName now store.freshIdentifier.1 namedDrawn
  obtain ⟨entries, logs, ofCalls⟩ := runs.exists_logs
  have unnamed : ∀ entry ∈ entries, entry.kind = .webhookConfiguration →
      entry.key ≠ second.registration := by
    intro entry member isRegistration
    obtain ⟨request, registersOnly, written⟩ := ofCalls entry member
    rw [registersOnly entry written isRegistration]
    exact otherName
  refine ⟨logs.elsewhere _ _ ?_, entries, logs.log, unnamed⟩
  rintro entry member ⟨isRegistration, here⟩
  exact unnamed entry member isRegistration here

/-! ## Two tenants -/

def tenantKey : Key where
  namespaceName := "team"
  name := "audit-prod"

/-- A configuration of one tenant that asks for nothing. -/
def tenantConfig : AuditConfig where
  metadata := {
    name := some "audit-prod"
    namespaceName := some "team"
    uid := some "uid-audit-prod"
    resourceVersion := some "1" }
  content := {}

/-- A configuration of another tenant that asks for the webhook. -/
def webhookConfig (owner : Owner) : AuditConfig where
  metadata := {
    name := some owner.name
    namespaceName := some owner.namespaceName
    uid := some owner.reference.uid
    resourceVersion := some "2"
    finalizers := some [Pass.Admission.finalizer] }
  content := { admission := { enable := true } }

/-- The registration that the other configuration declares. -/
def declaredRegistration (owner : Owner) : WebhookConfiguration :=
  Template.Admission.registration (webhookConfig owner).content owner

/-- A cluster with both configurations and that registration. -/
def tenantCluster (other : Owner) : Store where
  tables
    | .auditConfig =>
        .ofList [
          (tenantKey, Stored.ofObject tenantConfig),
          (other.configKey, Stored.ofObject (webhookConfig other))]
    | .webhookConfiguration =>
        .ofList [(Pass.Admission.registrationKey other,
          Stored.ofObject (declaredRegistration other))]
    | _ => Dictionary.empty
  version := 3

theorem not_runsInto_of_take_ne {first second : Key} (length : Nat)
    (parted : second.namespaceName.toList.take length ≠ first.namespaceName.toList.take length)
    (short : length ≤ first.namespaceName.toList.length) : ¬ first.RunsInto second := by
  rintro ⟨middle, namespaces, _⟩
  apply parted
  rw [namespaces, String.append_assoc, String.toList_append, List.take_append_of_le_length short]

/-- A pass over the one configuration leaves the registration of the other, if that one is in a
namespace of quite another name. -/
theorem leaves_registration_tenantCluster :
    (tenantCluster bareOwner).stored? .webhookConfiguration bareOwner.configKey.registration =
        some (declaredRegistration bareOwner) ∧
      ((tenantCluster bareOwner).reconcile (fun _ => .ok "image") "default" tenantKey
        { seconds := 0, nanos := 0 }).2.stored? .webhookConfiguration
          bareOwner.configKey.registration = some (declaredRegistration bareOwner) := by
  have named : ∀ config, (tenantCluster bareOwner).stored? .auditConfig tenantKey = some config →
      config.displayName = tenantKey.name ∧
        config.metadata.namespaceName = some tenantKey.namespaceName := by
    intro config current
    have found : (tenantCluster bareOwner).stored? .auditConfig tenantKey = some tenantConfig := rfl
    cases found.symm.trans current
    exact ⟨rfl, rfl⟩
  have apart : ¬ tenantKey.RunsInto bareOwner.configKey ∧
      ¬ bareOwner.configKey.RunsInto tenantKey :=
    ⟨not_runsInto_of_take_ne 1 (by decide) (by decide),
      not_runsInto_of_take_ne 1 (by decide) (by decide)⟩
  have left := leaves_registration (tenantCluster bareOwner) (fun _ => .ok "image") "default"
    { seconds := 0, nanos := 0 } named (by decide) apart
  refine ⟨rfl, ?_⟩
  rw [Store.stored?_congr left.1]
  rfl

/-- The owner of a configuration whose namespace runs into the name of the first one. -/
def otherTenant : Owner where
  name := "prod"
  namespaceName := "team-audit"
  reference := {
    apiVersion := Kind.auditConfig.apiVersion
    kind := Kind.auditConfig.name
    name := "prod"
    uid := "uid-prod"
    controller := some true }

/-- A pass over a configuration of one tenant may delete the registration that a configuration of
another tenant has declared. -/
theorem exists_registration_lost :
    tenantKey ≠ otherTenant.configKey ∧ Naming.isValid tenantKey.namespaceName = true ∧
      Naming.isValid tenantKey.name = true ∧ Naming.isValid otherTenant.namespaceName = true ∧
      Naming.isValid otherTenant.name = true ∧
      (tenantCluster otherTenant).faults = [] ∧
      (tenantCluster otherTenant).stored? .auditConfig tenantKey = some tenantConfig ∧
      (tenantCluster otherTenant).stored? .auditConfig otherTenant.configKey =
        some (webhookConfig otherTenant) ∧
      Owner.of (webhookConfig otherTenant) = .ok otherTenant ∧
      (tenantCluster otherTenant).stored? .webhookConfiguration
        otherTenant.configKey.registration = some (declaredRegistration otherTenant) ∧
      let after := ((tenantCluster otherTenant).reconcile (fun _ => .ok "image") "default" tenantKey
        { seconds := 0, nanos := 0 }).2
      after.log = [{
          verb := .delete
          kind := .webhookConfiguration
          key := otherTenant.configKey.registration }] ∧
        after.stored? .webhookConfiguration otherTenant.configKey.registration = none := by
  refine ⟨by decide, by decide, by decide, by decide, by decide, rfl, rfl, rfl, rfl, rfl, ?_⟩
  decide +kernel

end ClusterAudit
