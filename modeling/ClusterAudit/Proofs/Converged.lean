import ClusterAudit.Proofs.Pass.Convergence
import ClusterAudit.Pass.Reconcile

/-!
What it means that the cluster is as a configuration asks: every feature that the configuration
switches on is in place, and every other one is gone. Nothing is said of objects that the
configuration does not name.
-/

namespace ClusterAudit

/-- What a configuration asks of the cluster: what it says, the identity that its objects carry, the
operator policy, and the images that its requests are answered with. -/
structure Aim where
  spec : AuditConfigSpec
  owner : Owner
  policy : OperatorPolicy
  images : ImageSource

namespace Owner

def key (owner : Owner) (name : String) : Key where
  namespaceName := owner.namespaceName
  name

def configKey (owner : Owner) : Key :=
  owner.key owner.name

def selector (owner : Owner) (component : Component) : String :=
  Selector.ofLabels (Labels.ofComponent owner.name component)

/-- The labels of one feature of the configuration stand on an object. -/
def marks (owner : Owner) (component : Component) (metadata : Metadata) : Bool :=
  Selector.isMatch (Labels.ofComponent owner.name component).entries metadata.labels

/-- The stored objects of the configuration's namespace that carry the labels of one feature. -/
def labelled (owner : Owner) (component : Component) (kind : Kind) (store : Store) :
    List (Stored kind) :=
  (store.among kind owner.namespaceName).filter fun stored => owner.marks component stored.metadata

theorem eq_configKey {config : AuditConfig} {owner : Owner} {key : Key}
    (owned : Owner.of config = .ok owner) (named : config.displayName = key.name)
    (placed : config.metadata.namespaceName = some key.namespaceName) :
    key = owner.configKey := by
  rw [Owner.of, placed] at owned
  cases reference : Owner.referenceTo? config.metadata with
  | none =>
      rw [reference] at owned
      cases owned
  | some found =>
      rw [reference] at owned
      cases owned
      rw [Owner.configKey, Owner.key, named]

end Owner

/-- What an aim is for a pass. -/
def PassContext.aim (context : PassContext) (images : ImageSource) : Aim where
  spec := context.spec
  owner := context.owner
  policy := context.policy
  images

/-! ## Features in place -/

namespace Pass.Workloads

def request (aim : Aim) : ImageRequest :=
  .scanner aim.spec.workloads.image.name aim.spec.workloads.image.tag
    aim.policy.skipContainerResolution

def inventory (owner : Owner) : String :=
  (Inventory.ofWorkloads owner).toText

/-- The scanner runs with the current inventory, and no scanner of an earlier release is left that
this configuration owns, unless the policy says to leave it. -/
structure InPlace (aim : Aim) (store : Store) : Prop where
  configMap :
    store.holds Managed.sameConfigMap (aim.owner.key (Naming.workloadConfigMap aim.owner.name))
      (Template.Workloads.configMap aim.owner (inventory aim.owner)) = true
  deployment :
    ∃ image live, aim.images (request aim) = .ok image ∧
      store.stored? .deployment (aim.owner.key (Naming.workloadDeployment aim.owner.name)) =
        some live ∧
      Managed.sameDeploymentAndResources live
        (Template.Workloads.deployment aim.spec aim.owner image (inventory aim.owner)) = true ∧
      Template.Workloads.podRevision? live = some (Inventory.revision (inventory aim.owner))
  legacy :
    aim.policy.disableLegacyWorkloadCleanup = false → ∀ stored,
      store.find? .deployment (aim.owner.key (Naming.legacyWorkloadDeployment aim.owner.name)) =
        some stored →
      stored.metadata.isOwnedBy aim.owner.reference.uid = false

/-- The scanner and its inventory are not there. -/
structure Gone (owner : Owner) (store : Store) : Prop where
  deployment :
    store.find? .deployment (owner.key (Naming.workloadDeployment owner.name)) = none
  configMap :
    store.find? .configMap (owner.key (Naming.workloadConfigMap owner.name)) = none

end Pass.Workloads

namespace Pass.Nodes

def request (aim : Aim) : ImageRequest :=
  .scanner aim.spec.nodes.image.name aim.spec.nodes.image.tag aim.policy.skipContainerResolution

def inventory (owner : Owner) : String :=
  (Inventory.ofNodes owner).toText

/-- Every node has a scan that is as it is wanted, and no scan is left for another node. -/
structure InPlace (aim : Aim) (store : Store) : Prop where
  configMap :
    store.holds Managed.sameConfigMap (aim.owner.key (Naming.nodeConfigMap aim.owner.name))
      (Template.Nodes.configMap aim.owner (inventory aim.owner)) = true
  scans :
    ∃ image, aim.images (request aim) = .ok image ∧
      ∀ node ∈ store.among .node "", ∃ wanted place live,
        Template.Nodes.cronJob? aim.spec aim.owner image node.metadata.displayName =
          some wanted ∧
        place.namespaceName = aim.owner.namespaceName ∧
        store.stored? .cronJob place = some live ∧
        live.displayName = wanted.displayName ∧
        aim.owner.marks .nodes live.metadata = true ∧
        Managed.sameNodeScan live wanted = true
  noOrphan :
    ∀ place stored, place.namespaceName = aim.owner.namespaceName →
      store.find? .cronJob place = some stored →
      aim.owner.marks .nodes stored.metadata = true →
      ∃ node ∈ store.among .node "",
        Naming.nodeCronJob? aim.owner.name node.metadata.displayName =
          some stored.metadata.displayName

/-- The inventory is not there, and no scan that is stored under its own name. -/
structure Gone (owner : Owner) (store : Store) : Prop where
  configMap :
    store.find? .configMap (owner.key (Naming.nodeConfigMap owner.name)) = none
  scans :
    ∀ place stored, place.namespaceName = owner.namespaceName →
      store.find? .cronJob place = some stored →
      owner.marks .nodes stored.metadata = true →
      stored.metadata.displayName ≠ place.name

end Pass.Nodes

namespace Pass.Admission

def request (aim : Aim) : ImageRequest :=
  .operator aim.spec.admission.image.name aim.spec.admission.image.tag
    aim.policy.skipContainerResolution

/-- The place of the registration of a configuration's webhook. -/
def registrationKey (owner : Owner) : Key :=
  Key.ofCluster (Naming.webhookConfiguration owner.namespaceName owner.name)

/-- The configuration at a place is there, and the finalizer stands on it. -/
def isGuarded (store : Store) (key : Key) : Bool :=
  (store.find? .auditConfig key).any fun stored =>
    (stored.metadata.finalizers.getD []).contains finalizer

/-- The finalizer stands on the configuration, which is at home at a given place, and server,
service and registration are as they are wanted. -/
structure InPlace (aim : Aim) (home : Key) (store : Store) : Prop where
  guarded : isGuarded store home = true
  deployment :
    ∃ image, aim.images (request aim) = .ok image ∧
      store.holds Managed.sameDeployment
        (aim.owner.key (Naming.webhookDeployment aim.owner.name))
        (Template.Admission.deployment aim.spec aim.owner image) = true
  service :
    store.holds Managed.sameService (aim.owner.key (Naming.webhookService aim.owner.name))
      (Template.Admission.service aim.owner) = true
  registration :
    store.holds Managed.sameRegistration (registrationKey aim.owner)
      (Template.Admission.registration aim.spec aim.owner) = true

/-- Registration, server and service are not there, and the finalizer does not stand on the
configuration. -/
structure Gone (owner : Owner) (home : Key) (store : Store) : Prop where
  registration : store.find? .webhookConfiguration (registrationKey owner) = none
  deployment :
    store.find? .deployment (owner.key (Naming.webhookDeployment owner.name)) = none
  service : store.find? .service (owner.key (Naming.webhookService owner.name)) = none
  unguarded : isGuarded store home = false

end Pass.Admission

namespace Pass.ScanApi

def request (aim : Aim) : ImageRequest :=
  .scanner aim.spec.scanApi.image.name aim.spec.scanApi.image.tag
    aim.policy.skipContainerResolution

/-- There is a token, and server and service are as they are wanted. -/
structure InPlace (aim : Aim) (store : Store) : Prop where
  secret :
    (store.find? .secret (aim.owner.key (Naming.scanApiSecret aim.owner.name))).isSome = true
  deployment :
    ∃ image, aim.images (request aim) = .ok image ∧
      store.holds Managed.sameDeploymentAndResources
        (aim.owner.key (Naming.scanApi aim.owner.name))
        (Template.ScanApi.deployment aim.spec aim.owner image) = true
  service :
    store.holds Managed.sameService (aim.owner.key (Naming.scanApi aim.owner.name))
      (Template.ScanApi.service aim.owner) = true

/-- Token, server and service are not there. -/
structure Gone (owner : Owner) (store : Store) : Prop where
  secret : store.find? .secret (owner.key (Naming.scanApiSecret owner.name)) = none
  deployment : store.find? .deployment (owner.key (Naming.scanApi owner.name)) = none
  service : store.find? .service (owner.key (Naming.scanApi owner.name)) = none

end Pass.ScanApi

/-! ## Clusters -/

namespace Feature

def InPlace (aim : Aim) (home : Key) (store : Store) : Feature → Prop
  | workloads => Pass.Workloads.InPlace aim store
  | nodes => Pass.Nodes.InPlace aim store
  | admission => Pass.Admission.InPlace aim home store
  | scanApi => Pass.ScanApi.InPlace aim store

def Gone (owner : Owner) (home : Key) (store : Store) : Feature → Prop
  | workloads => Pass.Workloads.Gone owner store
  | nodes => Pass.Nodes.Gone owner store
  | admission => Pass.Admission.Gone owner home store
  | scanApi => Pass.ScanApi.Gone owner store

end Feature

/-- The cluster is as a configuration asks that is stored at a given place. -/
def Aim.IsReached (aim : Aim) (home : Key) (store : Store) : Prop :=
  ∀ feature : Feature,
    if feature.isEnabled aim.spec then feature.InPlace aim home store
    else feature.Gone aim.owner home store

end ClusterAudit
