import ClusterAudit.Proofs.Cluster.Store
import ClusterAudit.Proofs.Labels
import Mathlib.Data.String.Basic

/-!
What is found by labels. The selector that is written for some labels picks exactly the objects that
carry them all, and a look at a namespace gives these objects in the order of their names.
-/

namespace ClusterAudit

/-! ## Objects with labels -/

namespace Stored

variable {kind : Kind}

/-- The object has a label with a given value. -/
def HasLabel (stored : Stored kind) (name value : String) : Prop :=
  ∃ own, stored.metadata.labels = some own ∧ own.get? name = some value

/-- The object has all labels of a table. -/
def Carries (stored : Stored kind) (labels : Texts) : Prop :=
  ∀ name value, labels.get? name = some value → stored.HasLabel name value

theorem hasLabel_iff {stored : Stored kind} {name value : String} :
    stored.HasLabel name value ↔ stored.metadata.labels.bind (·.get? name) = some value :=
  Option.bind_eq_some_iff.symm

theorem isMatch_entries_iff {stored : Stored kind} {labels : Texts} :
    Selector.isMatch labels.entries stored.metadata.labels = true ↔ stored.Carries labels := by
  simp only [Selector.isMatch, List.all_eq_true, beq_iff_eq, Prod.forall, Carries, hasLabel_iff,
    Dictionary.mem_entries_iff]

/-- An object carries the labels of a feature if it has all three of them. -/
theorem carries_ofComponent_iff {stored : Stored kind} {config : String} {component : Component} :
    stored.Carries (Labels.ofComponent config component) ↔
      stored.HasLabel Labels.managedByKey Labels.managedBy ∧
        stored.HasLabel Labels.configKey config ∧
        stored.HasLabel Labels.componentKey component.name := by
  rw [← isMatch_entries_iff, Labels.entries_ofComponent, Selector.isMatch]
  simp only [List.all_cons, List.all_nil, Bool.and_eq_true, beq_iff_eq, and_true, ← hasLabel_iff]
  tauto

end Stored

namespace Selector

/-- Labels that a selector can ask for. -/
def AreAskable (labels : Texts) : Prop :=
  ∀ name value, labels.get? name = some value → IsName name ∧ IsValue value

theorem isMatch_ofLabels_iff {labels : Texts} (askable : AreAskable labels) {kind : Kind}
    {stored : Stored kind} :
    isMatch (parse (ofLabels labels)) stored.metadata.labels = true ↔ stored.Carries labels := by
  have entriesAskable : ∀ entry ∈ labels.entries, IsName entry.1 ∧ IsValue entry.2 :=
    fun entry member => askable entry.1 entry.2 (Dictionary.mem_entries_iff.mp member)
  rw [parse_ofLabels entriesAskable, Stored.isMatch_entries_iff]

theorem isMatch_ofComponent_iff {config : String} (isValue : IsValue config)
    (component : Component) {kind : Kind} {stored : Stored kind} :
    isMatch (parse (ofLabels (Labels.ofComponent config component))) stored.metadata.labels =
      true ↔ stored.Carries (Labels.ofComponent config component) := by
  rw [Labels.parse_ofComponent_of_isValue isValue, Stored.isMatch_entries_iff]

end Selector

/-! ## Lists -/

namespace Store

variable {store : Store} {kind : Kind} {namespaceName selector : String}

/-- The places in a namespace whose objects a selector picks, in the order of their names. -/
def places (store : Store) (kind : Kind) (namespaceName selector : String) : List Key :=
  (((store.tables kind).filter fun key _ => key.namespaceName == namespaceName).filter
    fun _ stored => Selector.isMatch (Selector.parse selector) stored.metadata.labels).keys

theorem mem_places_iff {key : Key} :
    key ∈ store.places kind namespaceName selector ↔
      key.namespaceName = namespaceName ∧ ∃ stored, store.find? kind key = some stored ∧
        Selector.isMatch (Selector.parse selector) stored.metadata.labels = true := by
  simp only [places, Dictionary.keys, Dictionary.filter, List.mem_map, List.mem_filter,
    beq_iff_eq, Prod.exists, find?, ← Dictionary.mem_entries_iff]
  constructor
  · rintro ⟨place, stored, ⟨⟨member, inNamespace⟩, isMatch⟩, rfl⟩
    exact ⟨inNamespace, stored, member, isMatch⟩
  · rintro ⟨inNamespace, stored, member, isMatch⟩
    exact ⟨key, stored, ⟨⟨member, inNamespace⟩, isMatch⟩, rfl⟩

theorem pairwise_places :
    (store.places kind namespaceName selector).Pairwise fun first second =>
      first.name < second.name := by
  have increase : (store.places kind namespaceName selector).Pairwise fun first second =>
      compare first second = .lt :=
    List.pairwise_map.mpr (Dictionary.increase _)
  refine increase.imp_of_mem ?_
  intro first second firstMember secondMember before
  -- Both are in one namespace, so that only their names can tell them apart.
  have sameNamespace : compareOn Key.namespaceName first second = .eq := by
    rw [compareOn, (mem_places_iff.mp firstMember).1, (mem_places_iff.mp secondMember).1]
    exact Std.ReflCmp.compare_self
  have byName : compareOn Key.name first second = .lt := by
    have lexicographic : (compareOn Key.namespaceName first second).then
        (compareOn Key.name first second) = .lt := before
    rwa [sameNamespace, Ordering.eq_then] at lexicographic
  exact compare_lt_iff_lt.mp byName

/-- What is stored at these places are the objects that the selector picks. -/
theorem map_stored?_places :
    (store.places kind namespaceName selector).map (store.stored? kind) =
      (store.selected kind namespaceName selector).map Stored.read? := by
  simp only [places, selected, among, Dictionary.keys, Dictionary.values, Dictionary.filter,
    List.filter_map, List.map_map]
  apply List.map_congr_left
  rintro ⟨key, stored⟩ member
  have present : store.find? kind key = some stored :=
    Dictionary.mem_entries_iff.mp (List.mem_of_mem_filter (List.mem_of_mem_filter member))
  simp [stored?, present]

theorem list_eq_ok_of_places (quiet : store.fault? .list kind = none) {objects : List (Object kind)}
    (reads : (store.places kind namespaceName selector).map (store.stored? kind) =
      objects.map some) :
    store.list kind namespaceName selector = .ok objects := by
  rw [map_stored?_places, ← mapM_eq_some_iff] at reads
  simp only [list, quiet]
  rw [mapM_fits, fits_eq_ok_iff]
  exact reads

theorem exists_list_eq_ok (quiet : store.fault? .list kind = none)
    (readable : ∀ key ∈ store.places kind namespaceName selector,
      (store.stored? kind key).isSome = true) :
    ∃ objects, store.list kind namespaceName selector = .ok objects ∧
      (store.places kind namespaceName selector).map (store.stored? kind) = objects.map some := by
  have present : ∀ key ∈ store.places kind namespaceName selector,
      ∃ object, store.stored? kind key = some object :=
    fun key member => Option.isSome_iff_exists.mp (readable key member)
  have reads := mapM_eq_some_iff.mp (mapM_eq_filterMap present)
  exact ⟨_, list_eq_ok_of_places quiet reads, reads⟩

end Store

/-- A selector picks an object exactly if it carries all labels that the selector is written for,
whatever else the labels' values hold than commas. So the selector of a feature finds, in any
namespace, the objects that have its three labels and no others, in the order of their names. -/
theorem selects_labelled :
    (∀ labels, Selector.AreAskable labels → ∀ (kind : Kind) (stored : Stored kind),
      Selector.isMatch (Selector.parse (Selector.ofLabels labels)) stored.metadata.labels = true ↔
        stored.Carries labels) ∧
    ∀ config, Selector.IsValue config → ∀ (component : Component) (store : Store) (kind : Kind)
      (namespaceName : String), ∃ keys : List Key,
        (keys.Pairwise fun first second => first.name < second.name) ∧
        (∀ key, key ∈ keys ↔ key.namespaceName = namespaceName ∧
          ∃ stored, store.find? kind key = some stored ∧
            stored.HasLabel Labels.managedByKey Labels.managedBy ∧
            stored.HasLabel Labels.configKey config ∧
            stored.HasLabel Labels.componentKey component.name) ∧
        (store.fault? .list kind = none →
          (∀ key ∈ keys, (store.stored? kind key).isSome = true) →
          ∃ objects,
            store.list kind namespaceName
              (Selector.ofLabels (Labels.ofComponent config component)) = .ok objects ∧
            keys.map (store.stored? kind) = objects.map some) := by
  refine ⟨fun _ askable _ _ => Selector.isMatch_ofLabels_iff askable, ?_⟩
  intro config isValue component store kind namespaceName
  refine ⟨store.places kind namespaceName
    (Selector.ofLabels (Labels.ofComponent config component)), Store.pairwise_places, ?_,
    Store.exists_list_eq_ok⟩
  intro key
  simp only [Store.mem_places_iff, Selector.isMatch_ofComponent_iff isValue,
    Stored.carries_ofComponent_iff]

/-! ## Scans of two configurations -/

/-- The scan of a node for a configuration. -/
def nodeJob (name config : String) : CronJob where
  metadata := { name := some name, labels := some (Labels.ofComponent config .nodes) }
  content := none

/-- A namespace with a scan of one configuration and one of another. -/
def sharedNamespace : Store :=
  (Store.empty.insert .cronJob "security" (nodeJob "audit-node-a" "audit")).insert .cronJob
    "security" (nodeJob "other-node-a" "other")

theorem isSome_stored?_sharedNamespace {key : Key} {stored : Stored .cronJob}
    (found : sharedNamespace.find? .cronJob key = some stored) :
    (sharedNamespace.stored? .cronJob key).isSome = true := by
  have listed : (sharedNamespace.tables .cronJob).entries.map (fun entry => entry.2.status) =
      [none, none] := rfl
  have status : stored.status ∈ [none, none] := by
    rw [← listed]
    exact List.mem_map_of_mem (Dictionary.mem_entries_iff.mpr found)
  have noStatus : stored.status = none := by simpa using status
  rw [Store.stored?, found, Option.bind_some, Stored.read?_of_no_status noStatus,
    Option.isSome_some]

/-- A label may hold equals signs and blanks inside. In the shared namespace the selector of one
configuration's scans finds those that have its labels. -/
theorem selects_labelled_sharedNamespace :
    Selector.AreAskable (Dictionary.ofList [("tier", "a=b c")]) ∧
    (Selector.isMatch
        (Selector.parse (Selector.ofLabels (Dictionary.ofList [("tier", "a=b c")])))
        (Stored.ofObject (nodeJob "audit-node-a" "audit")).metadata.labels = true ↔
      (Stored.ofObject (nodeJob "audit-node-a" "audit")).Carries
        (Dictionary.ofList [("tier", "a=b c")])) ∧
    Selector.IsValue "audit" ∧ sharedNamespace.fault? .list .cronJob = none ∧
    ∃ (keys : List Key) (objects : List CronJob),
      (∀ key, key ∈ keys ↔ key.namespaceName = "security" ∧
        ∃ stored, sharedNamespace.find? .cronJob key = some stored ∧
          stored.HasLabel Labels.managedByKey Labels.managedBy ∧
          stored.HasLabel Labels.configKey "audit" ∧
          stored.HasLabel Labels.componentKey Component.nodes.name) ∧
      sharedNamespace.list .cronJob "security"
        (Selector.ofLabels (Labels.ofComponent "audit" .nodes)) = .ok objects ∧
      keys.map (sharedNamespace.stored? .cronJob) = objects.map some := by
  have askable : Selector.AreAskable (Dictionary.ofList [("tier", "a=b c")]) := by
    intro name value present
    have listed : (name, value) ∈ [("tier", "a=b c")] := Dictionary.mem_entries_iff.mpr present
    cases List.mem_singleton.mp listed
    decide
  have isValue : Selector.IsValue "audit" := by decide
  have quiet : sharedNamespace.fault? .list .cronJob = none := rfl
  obtain ⟨keys, _, picked, listed⟩ := selects_labelled.2 "audit" isValue .nodes sharedNamespace
    .cronJob "security"
  have readable : ∀ key ∈ keys, (sharedNamespace.stored? .cronJob key).isSome = true := by
    intro key member
    obtain ⟨_, stored, found, _⟩ := (picked key).mp member
    exact isSome_stored?_sharedNamespace found
  obtain ⟨objects, found, reads⟩ := listed quiet readable
  exact ⟨askable, selects_labelled.1 _ askable .cronJob _, isValue, quiet, keys, objects, picked,
    found, reads⟩

end ClusterAudit
