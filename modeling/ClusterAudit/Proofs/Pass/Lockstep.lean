import ClusterAudit.Proofs.Cluster.Timeless
import ClusterAudit.Proofs.Deletions

/-!
Two passes over one configuration that do the same at different times and with different tokens. A
pass looks at a kind only before it writes to it, so that it sees the store that it has started on,
and it forgets what its writes give back. So it is known what it does, whatever others do at other
places.
-/

namespace ClusterAudit

open Store

/-! ## Places -/

/-- The places that belong to a configuration: its own, the fixed ones of its features, those of the
scans that its nodes ask for, and those of the scans that carry its labels. -/
inductive Owner.Names (owner : Owner) (store : Store) : Kind → Key → Prop
  | config : Names owner store .auditConfig owner.configKey
  | legacy :
      Names owner store .deployment (owner.key (Naming.legacyWorkloadDeployment owner.name))
  | part (feature : Feature) (kind : Kind) (name : String) :
      (kind, name) ∈ feature.parts owner.name → Names owner store kind (owner.key name)
  | registration :
      Names owner store .webhookConfiguration
        (Key.ofCluster (Naming.webhookConfiguration owner.namespaceName owner.name))
  | node (node : Stored .node) (name : String) :
      node ∈ store.among .node "" →
      Naming.nodeCronJob? owner.name node.metadata.displayName = some name →
      Names owner store .cronJob (owner.key name)
  | scan (key : Key) (stored : Stored .cronJob) :
      key.namespaceName = owner.namespaceName → store.find? .cronJob key = some stored →
      owner.marks .nodes stored.metadata = true → Names owner store .cronJob key

/-- The places that a pass may write to: those that belong to the configuration, and those under
which it writes back or deletes what it has found there, which go by the names that are
displayed. -/
inductive Owner.Reaches (owner : Owner) (store : Store) (kind : Kind) : Key → Prop
  | named (key : Key) : owner.Names store kind key → Reaches owner store kind key
  | displayed (key : Key) (stored : Stored kind) :
      kind.isNamespaced = true → owner.Names store kind key →
      store.find? kind key = some stored →
      Reaches owner store kind (owner.key stored.metadata.displayName)

/-- The kinds of objects that passes look at and never write. -/
def Kind.isForeign : Kind → Bool
  | node | operatorConfig | pod => true
  | _ => false

namespace Owner

variable {owner : Owner} {store : Store} {kind : Kind} {key : Key}

theorem Reaches.of_part (feature : Feature) {name : String}
    (isPart : (kind, name) ∈ feature.parts owner.name) :
    owner.Reaches store kind (owner.key name) :=
  .named _ (.part feature kind name isPart)

theorem Reaches.of_displayed {live : Object kind} (namespaced : kind.isNamespaced = true)
    (named : owner.Names store kind key) (present : store.stored? kind key = some live) :
    owner.Reaches store kind (owner.key live.displayName) := by
  obtain ⟨stored, found, read⟩ := exists_find?_of_stored? present
  rw [Object.displayName, Stored.metadata_of_read? read]
  exact .displayed key stored namespaced named found

theorem Names.not_isForeign (named : owner.Names store kind key) : kind.isForeign = false := by
  cases named with
  | part feature kind name isPart =>
      have own : (feature.parts owner.name).all (fun part => !part.1.isForeign) = true := by
        cases feature <;> rfl
      simpa using List.all_eq_true.mp own _ isPart
  | _ => rfl

theorem Reaches.not_isForeign (reaches : owner.Reaches store kind key) :
    kind.isForeign = false := by
  cases reaches with
  | named _ named => exact named.not_isForeign
  | displayed _ _ _ named _ => exact named.not_isForeign

end Owner

namespace Pass

variable {First Second Result : Type}

/-! ## Passes that keep step -/

/-- Two passes do the same, if the one starts on a store and the other one on the same: they look at
places of their configuration whose kind they have not written yet, write to such places what is
alike, and go on in the same way whatever they get for it. In the end a fact holds of the kinds that
they have written and of the results. -/
inductive InStep (images : ImageSource) (owner : Owner) (before : Store)
    (ended : List Kind → Result → Result → Prop) : List Kind → Pass Result → Pass Result → Prop
  | done {written : List Kind} {result other : Result} :
      ended written result other →
      InStep images owner before ended written (.done result) (.done other)
  | fail {written : List Kind} {error : ReconcileError} :
      InStep images owner before ended written (.fail error) (.fail error)
  | crash {written : List Kind} : InStep images owner before ended written .crash .crash
  | image {written : List Kind} {request : ImageRequest}
      {next other : Except ImageError String → Pass Result} :
      InStep images owner before ended written (next (images request)) (other (images request)) →
      InStep images owner before ended written (.image request next) (.image request other)
  | note {written : List Kind} {feature : Feature} {next other : Pass Result} :
      InStep images owner before ended written next other →
      InStep images owner before ended written (.note feature next) (.note feature other)
  | get {written : List Kind} {kind : Kind} {key : Key}
      {next other : Except ClusterError (Option (Object kind)) → Pass Result}
      (clear : kind.isForeign = true ∨ owner.Reaches before kind key ∧ kind ∉ written)
      (rest : InStep images owner before ended written (next (before.get kind key))
        (other (before.get kind key))) :
      InStep images owner before ended written (.call (.get kind key) next)
        (.call (.get kind key) other)
  | list {written : List Kind} {kind : Kind} {namespaceName selector : String}
      {next other : Except ClusterError (List (Object kind)) → Pass Result}
      (clear : kind.isForeign = true ∨ kind = .cronJob ∧ namespaceName = owner.namespaceName ∧
        selector = owner.selector .nodes ∧ kind ∉ written)
      (rest : InStep images owner before ended written
        (next (before.list kind namespaceName selector))
        (other (before.list kind namespaceName selector))) :
      InStep images owner before ended written (.call (.list kind namespaceName selector) next)
        (.call (.list kind namespaceName selector) other)
  | create {written : List Kind} {kind : Kind} {namespaceName : String}
      {object offered : Object kind}
      {next other : Except ClusterError (Object kind) → Pass Result}
      (reached : owner.Reaches before kind
        { namespaceName, name := object.metadata.name.getD "" })
      (clear : kind ∉ written) (alike : object.Alike offered)
      (marked : kind = .cronJob → owner.marks .nodes offered.metadata = true)
      (refused : ∀ error,
        InStep images owner before ended written (next (.error error)) (other (.error error)))
      (unfit : InStep images owner before ended (kind :: written) (next (.error .unfit))
        (other (.error .unfit)))
      (made : ∀ one two,
        InStep images owner before ended (kind :: written) (next (.ok one)) (other (.ok two))) :
      InStep images owner before ended written (.call (.create kind namespaceName object) next)
        (.call (.create kind namespaceName offered) other)
  | replace {written : List Kind} {kind : Kind} {key : Key} {object offered : Object kind}
      {next other : Except ClusterError (Object kind) → Pass Result}
      (reached : owner.Reaches before kind key)
      (clear : kind ∉ written) (alike : object.Alike offered)
      (marked : kind = .cronJob → owner.marks .nodes offered.metadata = true)
      (refused : ∀ error,
        InStep images owner before ended written (next (.error error)) (other (.error error)))
      (unfit : InStep images owner before ended (kind :: written) (next (.error .unfit))
        (other (.error .unfit)))
      (made : ∀ one two,
        InStep images owner before ended (kind :: written) (next (.ok one)) (other (.ok two))) :
      InStep images owner before ended written (.call (.replace kind key object) next)
        (.call (.replace kind key offered) other)
  | delete {written : List Kind} {kind : Kind} {key : Key}
      {next other : Except ClusterError Unit → Pass Result}
      (reached : owner.Reaches before kind key)
      (refused : ∀ error,
        InStep images owner before ended written (next (.error error)) (other (.error error)))
      (deleted : InStep images owner before ended (kind :: written) (next (.ok ()))
        (other (.ok ()))) :
      InStep images owner before ended written (.call (.delete kind key) next)
        (.call (.delete kind key) other)
  | patchStatus {written : List Kind} {key : Key} {status later : AuditConfigStatus}
      {next other : Except ClusterError Unit → Pass Result}
      (reached : owner.Reaches before .auditConfig key) (alike : status.Alike later)
      (refused : ∀ error,
        InStep images owner before ended written (next (.error error)) (other (.error error)))
      (patched : InStep images owner before ended (.auditConfig :: written) (next (.ok ()))
        (other (.ok ()))) :
      InStep images owner before ended written
        (.call (.patchStatus .auditConfig key status.toJson) next)
        (.call (.patchStatus .auditConfig key later.toJson) other)

variable {images : ImageSource} {owner : Owner} {before : Store} {written : List Kind}

theorem InStep.bind {first other : Pass First} {second rest : First → Pass Second}
    {middle : List Kind → First → First → Prop} {ended : List Kind → Second → Second → Prop}
    (inStep : InStep images owner before middle written first other)
    (go : ∀ later value same, middle later value same →
      InStep images owner before ended later (second value) (rest same)) :
    InStep images owner before ended written (first >>= second) (other >>= rest) := by
  change InStep images owner before ended written (first.andThen second) (other.andThen rest)
  induction inStep with
  | done reached => exact go _ _ _ reached
  | fail => exact .fail
  | crash => exact .crash
  | image _ inductionHypothesis => exact .image inductionHypothesis
  | note _ inductionHypothesis => exact .note inductionHypothesis
  | get clear _ inductionHypothesis => exact .get clear inductionHypothesis
  | list clear _ inductionHypothesis => exact .list clear inductionHypothesis
  | create reached clear alike marked _ _ _ refused unfit made =>
      exact .create reached clear alike marked refused unfit made
  | replace reached clear alike marked _ _ _ refused unfit made =>
      exact .replace reached clear alike marked refused unfit made
  | delete reached _ _ refused deleted => exact .delete reached refused deleted
  | patchStatus reached alike _ _ refused patched =>
      exact .patchStatus reached alike refused patched

/-! ## Single steps -/

section Steps

variable {kind : Kind} {key : Key} {namespaceName : String}

theorem inStep_resolve (request : ImageRequest) :
    InStep images owner before (fun later image other => later = written ∧ other = image) written
      (resolve request) (resolve request) := by
  apply InStep.image
  cases images request with
  | ok image => exact .done ⟨rfl, rfl⟩
  | error error => exact .fail

theorem inStep_configured {Value : Type} (read : Except Misconfiguration Value) :
    InStep images owner before
      (fun later value other => later = written ∧ other = value ∧ read = .ok value) written
      (configured read) (configured read) := by
  cases read with
  | ok value => exact .done ⟨rfl, rfl, rfl⟩
  | error cause => exact .fail

section

variable (quiet : before.faults = [])

include quiet

theorem inStep_get
    (clear : kind.isForeign = true ∨ owner.Reaches before kind key ∧ kind ∉ written) :
    InStep images owner before
      (fun later found other => later = written ∧ other = found ∧ before.Finds kind key found)
      written (get kind key) (get kind key) := by
  refine .get clear ?_
  cases looked : before.get kind key with
  | ok found => exact .done ⟨rfl, rfl, (get_eq_ok_iff quiet).mp looked⟩
  | error error => exact .fail

theorem inStep_list {selector : String}
    (clear : kind.isForeign = true ∨ kind = .cronJob ∧ namespaceName = owner.namespaceName ∧
      selector = owner.selector .nodes ∧ kind ∉ written) :
    InStep images owner before
      (fun later objects other =>
        later = written ∧ other = objects ∧ before.Lists kind namespaceName selector objects)
      written (list kind namespaceName selector) (list kind namespaceName selector) := by
  refine .list clear ?_
  cases looked : before.list kind namespaceName selector with
  | ok objects => exact .done ⟨rfl, rfl, (list_eq_ok_iff quiet).mp looked⟩
  | error error => exact .fail

end

theorem inStep_create {object : Object kind}
    (reached : owner.Reaches before kind { namespaceName, name := object.metadata.name.getD "" })
    (clear : kind ∉ written)
    (marked : kind = .cronJob → owner.marks .nodes object.metadata = true) :
    InStep images owner before (fun later _ _ => later = kind :: written) written
      (create kind namespaceName object) (create kind namespaceName object) :=
  .create reached clear .refl marked (fun _ => .fail) .fail fun _ _ => .done rfl

theorem inStep_replace {object offered : Object kind} (reached : owner.Reaches before kind key)
    (clear : kind ∉ written) (alike : object.Alike offered)
    (marked : kind = .cronJob → owner.marks .nodes offered.metadata = true) :
    InStep images owner before (fun later _ _ => later = kind :: written) written
      (replace kind key object) (replace kind key offered) :=
  .replace reached clear alike marked (fun _ => .fail) .fail fun _ _ => .done rfl

/-- An object that is offered without a look is taken or not; the token in it may differ. -/
theorem inStep_createTolerant {object offered : Object kind}
    (reached : owner.Reaches before kind { namespaceName, name := object.metadata.name.getD "" })
    (clear : kind ∉ written) (alike : object.Alike offered)
    (marked : kind = .cronJob → owner.marks .nodes offered.metadata = true) :
    InStep images owner before
      (fun later made other => other = made ∧ later = if made then kind :: written else written)
      written (createTolerant namespaceName object) (createTolerant namespaceName offered) := by
  refine .create reached clear alike marked ?_ .fail fun _ _ => .done ⟨rfl, rfl⟩
  intro error
  change InStep images owner before _ written (ite _ _ _ : Pass Bool) (ite _ _ _ : Pass Bool)
  split
  · exact .done ⟨rfl, rfl⟩
  · exact .fail

theorem inStep_deleteIfPresent (reached : owner.Reaches before kind key) :
    InStep images owner before
      (fun later deleted other =>
        other = deleted ∧ later = if deleted then kind :: written else written)
      written (deleteIfPresent kind key) (deleteIfPresent kind key) := by
  refine .delete reached ?_ (.done ⟨rfl, rfl⟩)
  intro error
  change InStep images owner before _ written (ite _ _ _ : Pass Bool) (ite _ _ _ : Pass Bool)
  split
  · exact .done ⟨rfl, rfl⟩
  · exact .fail

/-! ## Objects that are wanted -/

/-- Two steps have both created an object, or both found the one that was there before. -/
def Matches (before : Store) (key : Key) (written : List Kind) :
    List Kind → Applied kind → Applied kind → Prop
  | later, .created _, .created _ => later = kind :: written
  | later, .existing live, .existing other =>
      later = written ∧ other = live ∧ before.stored? kind key = some live
  | _, _, _ => False

variable {desired : Object kind} {same : Object kind → Object kind → Bool}
  {merge : Object kind → Object kind → Object kind}

section

variable (quiet : before.faults = []) (clear : kind ∉ written)
  (named : desired.metadata.name = some desired.displayName)

include quiet clear named

theorem inStep_createIfAbsent
    (reached : owner.Reaches before kind { namespaceName, name := desired.displayName })
    (marked : kind = .cronJob → owner.marks .nodes desired.metadata = true) :
    InStep images owner before
      (Matches before { namespaceName, name := desired.displayName } written) written
      (createIfAbsent namespaceName desired) (createIfAbsent namespaceName desired) := by
  apply (inStep_get quiet (Or.inr ⟨reached, clear⟩)).bind
  rintro later _ found ⟨rfl, rfl, finds⟩
  cases found with
  | some live => exact .done ⟨rfl, rfl, finds⟩
  | none =>
      have reachedName : owner.Reaches before kind
          { namespaceName, name := desired.metadata.name.getD "" } := by
        rw [named]
        exact reached
      apply (inStep_create reachedName clear marked).bind
      rintro last one two rfl
      exact .done rfl

/-- An object that is brought into place is created, updated or left, as it was before. -/
theorem inStep_ensure (notScan : kind ≠ .cronJob) (namespaced : kind.isNamespaced = true)
    (belongs : owner.Names before kind (owner.key desired.displayName))
    (keepsName : ∀ live, (merge live desired).displayName = live.displayName) :
    InStep images owner before
      (fun later change other =>
        other = change ∧ later = if change.isMutation then kind :: written else written)
      written (ensure owner.namespaceName desired same merge)
      (ensure owner.namespaceName desired same merge) := by
  apply (inStep_createIfAbsent quiet clear named (.named _ belongs)
    fun isScan => absurd isScan notScan).bind
  rintro later (one | live) (two | other) applied
  · exact .done ⟨rfl, applied⟩
  · cases applied
  · cases applied
  · obtain ⟨rfl, rfl, present⟩ := applied
    change InStep images owner before _ later (ite _ _ _ : Pass Change) (ite _ _ _ : Pass Change)
    split
    · exact .done ⟨rfl, rfl⟩
    · have reached : owner.Reaches before kind
          { namespaceName := owner.namespaceName, name := (merge other desired).displayName } := by
        rw [keepsName]
        exact .of_displayed namespaced belongs present
      apply (inStep_replace reached clear .refl fun isScan => absurd isScan notScan).bind
      rintro last one two rfl
      exact .done ⟨rfl, rfl⟩

theorem inStep_ensureCluster (notScan : kind ≠ .cronJob)
    (reached : owner.Reaches before kind (Key.ofCluster desired.displayName)) :
    InStep images owner before
      (fun later change other =>
        other = change ∧ later = if change.isMutation then kind :: written else written)
      written (ensureCluster desired same merge) (ensureCluster desired same merge) := by
  apply (inStep_get quiet (Or.inr ⟨reached, clear⟩)).bind
  rintro later _ found ⟨rfl, rfl, finds⟩
  cases found with
  | none =>
      have reachedName : owner.Reaches before kind
          { namespaceName := "", name := desired.metadata.name.getD "" } := by
        rw [named]
        exact reached
      apply (inStep_create reachedName clear fun isScan => absurd isScan notScan).bind
      rintro last one two rfl
      exact .done ⟨rfl, rfl⟩
  | some live =>
      change InStep images owner before _ later (ite _ _ _ : Pass Change) (ite _ _ _ : Pass Change)
      split
      · exact .done ⟨rfl, rfl⟩
      · apply (inStep_replace reached clear .refl fun isScan => absurd isScan notScan).bind
        rintro last one two rfl
        exact .done ⟨rfl, rfl⟩

end

end Steps

end Pass

end ClusterAudit
