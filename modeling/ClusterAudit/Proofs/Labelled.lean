import ClusterAudit.Proofs.Discipline

/-!
Labels after a pass that is done. The webhook's registration is compared by its labels, and the node
scans are found by theirs, so that these carry them whatever they were like before. All other
objects are compared, if at all, by what they do. A pass that is done leaves their labels as it has
met them.
-/

namespace ClusterAudit

open Store

/-! ## Labels of objects -/

namespace Metadata

/-- The value of a label, if there is one. -/
def label? (metadata : Metadata) (name : String) : Option String :=
  metadata.labels.bind (·.get? name)

/-- There is every label of a template. -/
def CarriesLabels (metadata template : Metadata) : Prop :=
  ∀ name value, template.label? name = some value → metadata.label? name = some value

variable {metadata template : Metadata}

theorem carriesLabels_of_eq (same : metadata.labels = template.labels) :
    metadata.CarriesLabels template := by
  intro name value wanted
  rw [label?, same]
  exact wanted

/-- What is found by the labels of a template carries them. -/
theorem carriesLabels_of_isMatch {labels : Texts} (labelled : template.labels = some labels)
    (matching : Selector.isMatch labels.entries metadata.labels = true) :
    metadata.CarriesLabels template := by
  intro name value wanted
  rw [label?, labelled, Option.bind_some] at wanted
  have each := List.all_eq_true.mp matching (name, value) (Dictionary.mem_entries_iff.mpr wanted)
  exact beq_iff_eq.mp each

end Metadata

/-- The object at a place carries the labels of a template. -/
def Store.IsLabelled (store : Store) (kind : Kind) (place : Key) (template : Metadata) : Prop :=
  ∃ stored, store.find? kind place = some stored ∧ stored.metadata.CarriesLabels template

/-- An object without labels lacks those of the component that it belongs to. -/
theorem Store.not_isLabelled_of_none {store : Store} {kind : Kind} {place : Key}
    {stored : Stored kind} {template : Metadata} {config : String} {component : Component}
    (found : store.find? kind place = some stored) (bare : stored.metadata.labels = none)
    (labels : template.labels = some (Labels.ofComponent config component)) :
    ¬ store.IsLabelled kind place template := by
  rintro ⟨present, foundPresent, carries⟩
  cases found.symm.trans foundPresent
  have wanted : template.label? Labels.componentKey = some component.name := by
    rw [Metadata.label?, labels]
    exact Dictionary.get?_insert_self
  have label := carries _ _ wanted
  rw [Metadata.label?, bare] at label
  cases label

/-! ## Objects of features -/

/-- An object that is wanted at a place, with the metadata of its template. -/
structure Wanted where
  kind : Kind
  place : Key
  template : Metadata

/-- The objects that a feature keeps in place, but for the scans of nodes. -/
def Feature.wanted (spec : AuditConfigSpec) (owner : Owner) (image token : String) :
    Feature → List Wanted
  | workloads => [{
      kind := .configMap
      place := owner.key (Naming.workloadConfigMap owner.name)
      template :=
        (Template.Workloads.configMap owner (Pass.Workloads.inventory owner)).metadata }, {
      kind := .deployment
      place := owner.key (Naming.workloadDeployment owner.name)
      template :=
        (Template.Workloads.deployment spec owner image
          (Pass.Workloads.inventory owner)).metadata }]
  | nodes => [{
      kind := .configMap
      place := owner.key (Naming.nodeConfigMap owner.name)
      template := (Template.Nodes.configMap owner (Pass.Nodes.inventory owner)).metadata }]
  | admission => [{
      kind := .deployment
      place := owner.key (Naming.webhookDeployment owner.name)
      template := (Template.Admission.deployment spec owner image).metadata }, {
      kind := .service
      place := owner.key (Naming.webhookService owner.name)
      template := (Template.Admission.service owner).metadata }, {
      kind := .webhookConfiguration
      place := Pass.Admission.registrationKey owner
      template := (Template.Admission.registration spec owner).metadata }]
  | scanApi => [{
      kind := .secret
      place := owner.key (Naming.scanApiSecret owner.name)
      template := (Template.ScanApi.tokenSecret owner token).metadata }, {
      kind := .deployment
      place := owner.key (Naming.scanApi owner.name)
      template := (Template.ScanApi.deployment spec owner image).metadata }, {
      kind := .service
      place := owner.key (Naming.scanApi owner.name)
      template := (Template.ScanApi.service owner).metadata }]

theorem Feature.kind_ne_auditConfig {feature : Feature} {spec : AuditConfigSpec} {owner : Owner}
    {image token : String} {wanted : Wanted}
    (member : wanted ∈ feature.wanted spec owner image token) : wanted.kind ≠ .auditConfig := by
  have others : (feature.wanted spec owner image token).all fun wanted =>
      wanted.kind != .auditConfig := by
    cases feature <;> rfl
  exact bne_iff_ne.mp (List.all_eq_true.mp others wanted member)

/-- The object is there, and if it is a registration it carries its labels. -/
def Wanted.IsKept (wanted : Wanted) (store : Store) : Prop :=
  ∃ stored, store.find? wanted.kind wanted.place = some stored ∧
    (wanted.kind = .webhookConfiguration → stored.metadata.CarriesLabels wanted.template)

section

variable {store : Store} {aim : Aim} {wanted : Wanted}

theorem Wanted.isKept_of_stored? {live : Object wanted.kind}
    (present : store.stored? wanted.kind wanted.place = some live)
    (labelled : wanted.kind = .webhookConfiguration →
      live.metadata.CarriesLabels wanted.template) : wanted.IsKept store := by
  obtain ⟨stored, found, read⟩ := exists_find?_of_stored? present
  rw [Stored.metadata_of_read? read] at labelled
  exact ⟨stored, found, labelled⟩

/-- What is compared with a live object is there. -/
theorem Wanted.isKept_of_holds {same : Object wanted.kind → Object wanted.kind → Bool}
    {desired : Object wanted.kind} (holds : store.holds same wanted.place desired = true)
    (other : wanted.kind ≠ .webhookConfiguration) : wanted.IsKept store := by
  obtain ⟨live, present, _⟩ := holds_iff.mp holds
  exact isKept_of_stored? present fun isRegistration => absurd isRegistration other

/-- Registrations agree only if their labels do. -/
theorem Managed.labels_eq_of_sameRegistration {live desired : WebhookConfiguration}
    (agree : sameRegistration live desired = true) :
    live.metadata.labels = desired.metadata.labels :=
  congrArg RegistrationView.labels ((isKernel_sameRegistration _ _).mp agree)

/-- The objects of a feature that is in place are there. -/
theorem Feature.InPlace.isKept {feature : Feature} {home : Key}
    (inPlace : feature.InPlace aim home store) (image token : String) :
    ∀ wanted ∈ feature.wanted aim.spec aim.owner image token, wanted.IsKept store := by
  cases feature with
  | workloads =>
      have configMap := Pass.Workloads.InPlace.configMap inPlace
      obtain ⟨_, live, _, present, _⟩ := Pass.Workloads.InPlace.deployment inPlace
      simp only [Feature.wanted, List.forall_mem_cons]
      exact ⟨Wanted.isKept_of_holds configMap nofun, Wanted.isKept_of_stored? present nofun,
        List.forall_mem_nil _⟩
  | nodes =>
      have configMap := Pass.Nodes.InPlace.configMap inPlace
      simp only [Feature.wanted, List.forall_mem_cons]
      exact ⟨Wanted.isKept_of_holds configMap nofun, List.forall_mem_nil _⟩
  | admission =>
      obtain ⟨_, _, deployment⟩ := Pass.Admission.InPlace.deployment inPlace
      have service := Pass.Admission.InPlace.service inPlace
      obtain ⟨live, present, agree⟩ :=
        holds_iff.mp (Pass.Admission.InPlace.registration inPlace)
      have labelled := Metadata.carriesLabels_of_eq (Managed.labels_eq_of_sameRegistration agree)
      simp only [Feature.wanted, List.forall_mem_cons]
      exact ⟨Wanted.isKept_of_holds deployment nofun, Wanted.isKept_of_holds service nofun,
        Wanted.isKept_of_stored? present fun _ => labelled, List.forall_mem_nil _⟩
  | scanApi =>
      obtain ⟨stored, found⟩ := Option.isSome_iff_exists.mp (Pass.ScanApi.InPlace.secret inPlace)
      obtain ⟨_, _, deployment⟩ := Pass.ScanApi.InPlace.deployment inPlace
      have service := Pass.ScanApi.InPlace.service inPlace
      simp only [Feature.wanted, List.forall_mem_cons]
      exact ⟨⟨stored, found, nofun⟩, Wanted.isKept_of_holds deployment nofun,
        Wanted.isKept_of_holds service nofun, List.forall_mem_nil _⟩

/-- A node has a scan under its scan's name, with all labels. If scans are stored under their own
names, it is the one at that name. -/
def Pass.Nodes.HasLabelledScan (spec : AuditConfigSpec) (owner : Owner) (store : Store)
    (node : String) : Prop :=
  ∃ image wanted place stored,
    Template.Nodes.cronJob? spec owner image node = some wanted ∧
    place.namespaceName = owner.namespaceName ∧
    store.find? .cronJob place = some stored ∧
    stored.metadata.displayName = wanted.displayName ∧
    stored.metadata.CarriesLabels wanted.metadata ∧
    (stored.metadata.displayName = place.name → place = owner.key wanted.displayName)

/-- The scans of nodes are found by their labels. -/
theorem Pass.Nodes.InPlace.hasLabelledScan (inPlace : Pass.Nodes.InPlace aim store) :
    ∀ node ∈ Pass.Nodes.nodeNames store,
      Pass.Nodes.HasLabelledScan aim.spec aim.owner store node := by
  intro name member
  obtain ⟨node, nodeMember, rfl⟩ := List.mem_map.mp member
  obtain ⟨image, _, scans⟩ := inPlace.scans
  obtain ⟨wanted, place, live, made, near, present, named, marked, _⟩ := scans node nodeMember
  obtain ⟨stored, found, read⟩ := exists_find?_of_stored? present
  have sameMetadata : live.metadata = stored.metadata := Stored.metadata_of_read? read
  have labels : wanted.metadata.labels = some (Labels.ofComponent aim.owner.name .nodes) := by
    obtain ⟨scanName, _, rfl⟩ := Option.map_eq_some_iff.mp made
    rfl
  have sameName : stored.metadata.displayName = wanted.displayName := by
    rw [← sameMetadata]
    exact named
  rw [Owner.marks, sameMetadata] at marked
  have carries : stored.metadata.CarriesLabels wanted.metadata :=
    Metadata.carriesLabels_of_isMatch labels marked
  refine ⟨image, wanted, place, stored, made, near, found, sameName, carries, ?_⟩
  intro underOwnName
  rw [Owner.key, ← near, ← sameName, underOwnName]

end

/-! ## Passes that are done -/

section

variable {store after : Store} {images : ImageSource} {policyName : String} {key : Key}
  {config : AuditConfig} {owner : Owner} {now : Instant} (quiet : store.faults = [])
  (current : store.stored? .auditConfig key = some config)
  (stays : config.metadata.deletionTimestamp = none) (owned : Owner.of config = .ok owner)
  (valid : Naming.isValid owner.name = true)
  (finished : store.reconcile images policyName key now = (.done .done, after))

include quiet current stays owned valid finished

/-- What a pass that is done has found in place. -/
theorem inPlace_of_reconcile_done {feature : Feature}
    (enabled : feature.isEnabled config.content = true) :
    feature.InPlace (store.aim policyName config owner images) key store := by
  obtain ⟨_, _, settled, _⟩ := (Pass.reconcile_eq_done_iff quiet current stays owned).mp finished
  obtain ⟨report, settledDrawn⟩ := settled.settled_of_mem feature.mem_all
  have settledStore : feature.Settled (store.context policyName config owner now) images store
      report := settledDrawn.congr fun _ _ _ => rfl
  have enabledHere : feature.isEnabled (store.context policyName config owner now).spec = true :=
    enabled
  have plain : Selector.isPlain owner.name = true := Naming.isPlain_of_isValid valid
  have reached := settledStore.reached plain (Pass.Admission.isGuarded_of_stored? current)
  rw [if_pos enabledHere] at reached
  exact reached

/-- After a pass that is done the registration of the webhook carries all its labels, and so does
the scan of every node, whatever they were like before. All other objects that the configuration
asks for are there, and those that carried their labels before still do. -/
theorem labelled_of_reconcile_done :
    (∀ feature : Feature, feature.isEnabled config.content = true → ∀ image token,
      ∀ wanted ∈ feature.wanted config.content owner image token, ∃ stored,
        after.find? wanted.kind wanted.place = some stored ∧
          (wanted.kind = .webhookConfiguration ∨
              store.IsLabelled wanted.kind wanted.place wanted.template →
            stored.metadata.CarriesLabels wanted.template)) ∧
    (Feature.nodes.isEnabled config.content = true → ∀ node ∈ Pass.Nodes.nodeNames after,
      Pass.Nodes.HasLabelledScan config.content owner after node) := by
  -- What the pass has found it leaves, since it is done.
  obtain ⟨_, same⟩ := done_of_reconcile_done quiet current stays owned finished
  constructor
  · intro feature enabled image token wanted member
    have inPlace := inPlace_of_reconcile_done quiet current stays owned valid finished enabled
    obtain ⟨stored, found, registration⟩ := inPlace.isKept image token wanted member
    refine ⟨stored, (same _ _ (Feature.kind_ne_auditConfig member)).trans found, ?_⟩
    rintro (isRegistration | ⟨former, foundFormer, carries⟩)
    · exact registration isRegistration
    · cases found.symm.trans foundFormer
      exact carries
  · intro enabled node member
    have inPlace : Pass.Nodes.InPlace (store.aim policyName config owner images) store :=
      inPlace_of_reconcile_done quiet current stays owned valid finished enabled
    rw [Pass.Nodes.nodeNames, among_congr fun place => same .node place (by decide)] at member
    obtain ⟨image, scan, place, stored, made, near, found, labelled⟩ :=
      inPlace.hasLabelledScan node member
    exact ⟨image, scan, place, stored, made, near, (same .cronJob place (by decide)).trans found,
      labelled⟩

end

/-! ## Objects without labels -/

/-- After that pass the registration and the scan of the node carry their labels. -/
theorem labelled_guardedCluster : ∃ after,
    guardedCluster.reconcile (fun _ => .ok "image") "default" bareOwner.configKey
      { seconds := 0, nanos := 0 } = (.done .done, after) ∧
    after.IsLabelled .webhookConfiguration (Pass.Admission.registrationKey bareOwner)
      (Template.Admission.registration guardedConfig.content bareOwner).metadata ∧
    Pass.Nodes.HasLabelledScan guardedConfig.content bareOwner after "worker" := by
  obtain ⟨after, finished, _⟩ := exists_done_guardedCluster { seconds := 0, nanos := 0 }
  have current : guardedCluster.stored? .auditConfig bareOwner.configKey = some guardedConfig := rfl
  have owned : Owner.of guardedConfig = .ok bareOwner := rfl
  obtain ⟨objects, scans⟩ :=
    labelled_of_reconcile_done rfl current rfl owned (by decide) finished
  obtain ⟨_, same⟩ := done_of_reconcile_done rfl current rfl owned finished
  have member : "worker" ∈ Pass.Nodes.nodeNames after := by
    rw [Pass.Nodes.nodeNames, among_congr fun place => same .node place (by decide)]
    decide
  have wanted := objects .admission rfl "image" "token"
  simp only [Feature.wanted, List.forall_mem_cons] at wanted
  obtain ⟨_, _, ⟨stored, found, carries⟩, _⟩ := wanted
  exact ⟨after, finished, ⟨stored, found, carries (.inl trivial)⟩, scans rfl "worker" member⟩

/-- A pass may be done over objects that are wanted and have no labels, and leaves them without. -/
theorem exists_done_unlabelled :
    guardedCluster.faults = [] ∧
      guardedCluster.stored? .auditConfig bareOwner.configKey = some guardedConfig ∧
      guardedConfig.metadata.deletionTimestamp = none ∧ Owner.of guardedConfig = .ok bareOwner ∧
      Naming.isValid bareOwner.name = true ∧
      Feature.nodes.isEnabled guardedConfig.content = true ∧
      Feature.admission.isEnabled guardedConfig.content = true ∧
      Feature.scanApi.isEnabled guardedConfig.content = true ∧
      ∃ after,
        guardedCluster.reconcile (fun _ => .ok "image") "default" bareOwner.configKey
          { seconds := 0, nanos := 0 } = (.done .done, after) ∧
        ∀ feature : Feature, feature.isEnabled guardedConfig.content = true → ∀ image token,
          ∀ wanted ∈ feature.wanted guardedConfig.content bareOwner image token,
            wanted.kind = .webhookConfiguration ∨
              ¬ after.IsLabelled wanted.kind wanted.place wanted.template := by
  obtain ⟨after, finished, _⟩ := exists_done_guardedCluster { seconds := 0, nanos := 0 }
  have current : guardedCluster.stored? .auditConfig bareOwner.configKey = some guardedConfig := rfl
  have owned : Owner.of guardedConfig = .ok bareOwner := rfl
  obtain ⟨_, same⟩ := done_of_reconcile_done rfl current rfl owned finished
  refine ⟨rfl, current, rfl, owned, by decide, rfl, rfl, rfl, after, finished, ?_⟩
  have left {kind : Kind} {place : Key} {stored : Stored kind} {template : Metadata}
      {component : Component} (notConfig : kind ≠ .auditConfig)
      (found : guardedCluster.find? kind place = some stored)
      (bare : stored.metadata.labels = none)
      (labels : template.labels = some (Labels.ofComponent bareOwner.name component)) :
      ¬ after.IsLabelled kind place template :=
    not_isLabelled_of_none ((same kind place notConfig).trans found) bare labels
  intro feature enabled image token
  cases feature with
  | workloads => cases enabled
  | nodes =>
      simp only [Feature.wanted, List.forall_mem_cons]
      exact ⟨.inr (left nofun rfl rfl rfl), List.forall_mem_nil _⟩
  | admission =>
      simp only [Feature.wanted, List.forall_mem_cons]
      exact ⟨.inr (left nofun rfl rfl rfl), .inr (left nofun rfl rfl rfl), .inl trivial,
        List.forall_mem_nil _⟩
  | scanApi =>
      simp only [Feature.wanted, List.forall_mem_cons]
      exact ⟨.inr (left nofun rfl rfl rfl), .inr (left nofun rfl rfl rfl),
        .inr (left nofun rfl rfl rfl), List.forall_mem_nil _⟩

end ClusterAudit
