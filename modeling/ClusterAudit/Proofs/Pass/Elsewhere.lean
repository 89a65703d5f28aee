import ClusterAudit.Proofs.Log
import ClusterAudit.Proofs.Pass.Revisions

/-!
Passes that work elsewhere. A pass that has not looked at a place cannot replace the object there,
under whatever name the objects that it has read are written back: they have other versions. So it
leaves the place if it neither creates nor deletes an object there.
-/

namespace ClusterAudit

open Store

/-! ## Calls -/

namespace Call

/-- The call does not look at a place of a kind, and changes nothing there unless it replaces an
object. -/
def IsElsewhere (kind : Kind) (place : Key) : Call → Prop
  | .get other key => ¬ (other = kind ∧ key = place)
  | .list other _ _ => other ≠ kind
  | .create other namespaceName object =>
      ¬ (other = kind ∧ { namespaceName, name := object.metadata.name.getD "" } = place)
  | .replace _ _ _ => True
  | .delete other key => ¬ (other = kind ∧ key = place)
  | .patchStatus other key _ => ¬ (other = kind ∧ key = place)

end Call

namespace Store

variable {store after : Store} {kind : Kind} {place : Key} {seen : List Sighting}

/-- No object that was seen has the version of the one that is stored at a place. -/
def IsUnseen (store : Store) (kind : Kind) (place : Key) (seen : List Sighting) : Prop :=
  ∀ object : Object kind, ⟨kind, object⟩ ∈ seen →
    object.metadata.resourceVersion ≠ none ∧
      ∀ stored, store.find? kind place = some stored →
        object.metadata.resourceVersion ≠ stored.metadata.resourceVersion

/-- What was not made from the object at a place does not take its place. -/
theorem IsUnseen.refuses (unseen : store.IsUnseen kind place seen) {read object : Object kind}
    (sighted : ⟨kind, read⟩ ∈ seen) (isMadeFrom : object.IsMadeFrom read) :
    store.Refuses (.replace kind place object) := by
  obtain ⟨versioned, other⟩ := unseen read sighted
  simp only [Refuses, answer, replace]
  cases store.fault? .replace kind with
  | some error => exact ⟨rfl, error, rfl⟩
  | none =>
      cases found : store.find? kind place with
      | none => exact ⟨rfl, _, rfl⟩
      | some current =>
          obtain ⟨version, isVersion⟩ := Option.ne_none_iff_exists'.mp versioned
          have stale : isStale current object = true := by
            rw [isStale, isMadeFrom.version, isVersion, Option.any_some, bne_iff_ne, ← isVersion]
            exact (other current found).symm
          simp only [stale, if_true]
          exact ⟨trivial, _, rfl⟩

/-- A call that works elsewhere, and replaces only what was seen, leaves the place. -/
theorem IsUnseen.exists_logs {Result : Type} (unseen : store.IsUnseen kind place seen)
    {request : Call} {next : Except ClusterError request.Reply → Pass Result}
    (elsewhere : request.IsElsewhere kind place)
    (careful : Pass.CallsWithCare seen request next) :
    ∃ entries, Logs store (store.answer request).2 entries ∧
      ∀ entry ∈ entries, ¬ (entry.kind = kind ∧ entry.key = place) := by
  by_cases named : ∃ entry,
      request.entry? = some entry ∧ entry.kind = kind ∧ entry.key = place
  · obtain ⟨entry, written, rfl, rfl⟩ := named
    cases request with
    | replace kind key object =>
        cases written
        obtain ⟨⟨read, sighted, isMadeFrom⟩, _⟩ := careful
        rw [(unseen.refuses sighted isMadeFrom).1]
        exact ⟨[], .refl, nofun⟩
    | create kind namespaceName object =>
        cases written
        exact absurd ⟨rfl, rfl⟩ elsewhere
    | delete kind key =>
        cases written
        exact absurd ⟨rfl, rfl⟩ elsewhere
    | patchStatus kind key patch =>
        cases written
        exact absurd ⟨rfl, rfl⟩ elsewhere
    | get kind key => cases written
    | list kind namespaceName selector => cases written
  · obtain ⟨entries, logs, written⟩ := store.exists_logs_answer request
    refine ⟨entries, logs, ?_⟩
    intro entry member here
    exact named ⟨entry, written entry member, here⟩

/-- What a call that works elsewhere shows is not the object at the place. -/
theorem IsVersioned.isUnseen_sightings (versioned : store.IsVersioned) {request : Call}
    (elsewhere : request.IsElsewhere kind place) :
    store.IsUnseen kind place (request.sightings (store.answer request).1) := by
  intro object sighted
  cases request with
  | get other key =>
      cases looked : store.get other key with
      | error error => simp [Call.sightings, answer, looked] at sighted
      | ok found =>
          cases found with
          | none => simp [Call.sightings, answer, looked] at sighted
          | some live =>
              simp only [Call.sightings, answer, looked, List.mem_singleton] at sighted
              cases sighted
              obtain ⟨origin, there, read⟩ := exists_find?_of_stored? (stored?_of_get looked)
              rw [Stored.metadata_of_read? read]
              obtain ⟨number, _, isNumber⟩ := versioned.given kind key origin there
              refine ⟨by rw [isNumber]; exact Option.some_ne_none _, ?_⟩
              intro stored here sameVersion
              exact elsewhere
                ⟨rfl, versioned.unique kind key place origin stored there here sameVersion⟩
  | list other namespaceName selector =>
      cases looked : store.list other namespaceName selector with
      | error error => simp [Call.sightings, answer, looked] at sighted
      | ok objects =>
          simp only [Call.sightings, answer, looked, List.mem_map] at sighted
          obtain ⟨live, _, same⟩ := sighted
          exact absurd (congrArg Sighting.kind same) elsewhere
  | create other namespaceName object => cases sighted
  | replace other key object => cases sighted
  | delete other key => cases sighted
  | patchStatus other key patch => cases sighted

theorem IsUnseen.append {later : List Sighting} (unseen : store.IsUnseen kind place seen)
    (unseenLater : store.IsUnseen kind place later) :
    store.IsUnseen kind place (seen ++ later) := by
  intro object sighted
  rcases List.mem_append.mp sighted with earlier | now
  · exact unseen object earlier
  · exact unseenLater object now

theorem IsUnseen.congr (unseen : store.IsUnseen kind place seen)
    (same : after.find? kind place = store.find? kind place) :
    after.IsUnseen kind place seen := by
  intro object sighted
  rw [same]
  exact unseen object sighted

end Store

/-! ## Runs -/

namespace Pass

variable {Result : Type} {images : ImageSource} {store : Store} {kind : Kind} {place : Key}
  {seen : List Sighting}

/-- A careful pass that works elsewhere leaves the place. -/
theorem exists_logs_elsewhere {pass : Pass Result} {ended : Result → List Sighting → Prop}
    (versioned : store.IsVersioned) (unseen : store.IsUnseen kind place seen)
    (elsewhere : pass.CallsOnly (Call.IsElsewhere kind place))
    (careful : pass.IsCareful ended seen) :
    ∃ entries, Logs store (pass.runOn images store).2 entries ∧
      ∀ entry ∈ entries, ¬ (entry.kind = kind ∧ entry.key = place) := by
  induction pass generalizing store seen with
  | done result => exact ⟨[], .refl, nofun⟩
  | fail error => exact ⟨[], .refl, nofun⟩
  | crash => exact ⟨[], .refl, nofun⟩
  | call request next inductionHypothesis =>
      obtain ⟨first, logsFirst, leavesFirst⟩ := unseen.exists_logs elsewhere.1 careful.1
      obtain ⟨_, _, evolves⟩ := store.exists_evolves_answer request
      have stillUnseen := (unseen.append (versioned.isUnseen_sightings elsewhere.1)).congr
        (logsFirst.elsewhere kind place leavesFirst)
      obtain ⟨rest, logsRest, leavesRest⟩ := inductionHypothesis _ (versioned.evolves evolves)
        stillUnseen (elsewhere.2 _) (careful.2 _)
      refine ⟨first ++ rest, logsFirst.trans logsRest, ?_⟩
      intro entry member
      rcases List.mem_append.mp member with now | later
      · exact leavesFirst entry now
      · exact leavesRest entry later
  | image request next inductionHypothesis =>
      exact inductionHypothesis (images request) versioned unseen (elsewhere _) (careful _)
  | note feature next inductionHypothesis =>
      exact inductionHypothesis versioned unseen elsewhere careful

/-! ## Features -/

theorem allowsKind_isElsewhere {other : Kind} (different : other ≠ kind) :
    AllowsKind (Call.IsElsewhere kind place) other where
  get _ here := different here.1
  list _ _ := different
  create _ _ here := different here.1
  replace _ _ := trivial
  delete _ here := different here.1

theorem allowsEnsuring_isElsewhere {namespaceName name : String} {desired : Object kind}
    (named : desired.metadata.name = some name) (different : name ≠ place.name) :
    AllowsEnsuring (Call.IsElsewhere kind place) namespaceName desired where
  get := by
    rintro ⟨_, rfl⟩
    exact different (by rw [Object.displayName, Metadata.displayName, named]; rfl)
  create := by
    rintro ⟨_, rfl⟩
    exact different (by rw [named]; rfl)
  replace _ _ := trivial

/-- No feature but the workload scanner works at the place of the scanner's deployment. -/
theorem isElsewhere_run (context : PassContext) {feature : Feature}
    (different : feature ≠ .workloads) :
    (feature.run context).CallsOnly (Call.IsElsewhere .deployment
      (context.key (Naming.workloadDeployment context.name))) := by
  have kinds : ∀ kind, kind ≠ .deployment → AllowsKind (Call.IsElsewhere .deployment
      (context.key (Naming.workloadDeployment context.name))) kind :=
    fun _ => allowsKind_isElsewhere
  have configMaps := kinds .configMap nofun
  have cronJobs := kinds .cronJob nofun
  have nodes := kinds .node nofun
  have registrations := kinds .webhookConfiguration nofun
  have secrets := kinds .secret nofun
  have services := kinds .service nofun
  have webhook : Naming.webhookDeployment context.name ≠ Naming.workloadDeployment context.name :=
    Naming.append_ne_append (by decide)
  have scanApi : Naming.scanApi context.name ≠ Naming.workloadDeployment context.name :=
    Naming.append_ne_append (by decide)
  rw [Feature.run]
  cases feature with
  | workloads => exact absurd rfl different
  | nodes =>
      split
      · exact callsOnly_nodes_reconcile context configMaps.toAllowsUpkeep cronJobs.toAllowsUpkeep
          nodes.toAllowsUpkeep cronJobs.delete
      · exact callsOnly_nodes_tearDown context (cronJobs.list _) cronJobs.delete
          (configMaps.delete _)
  | admission =>
      split
      · exact callsOnly_admission_reconcile context services.toAllowsUpkeep
          (callsOnly_ensureCluster (registrations.get _) (registrations.create _ _)
            (registrations.replace _))
          (fun _ => allowsEnsuring_isElsewhere rfl webhook) fun _ _ => trivial
      · exact callsOnly_admission_tearDown context (fun _ _ => trivial) (registrations.delete _)
          (fun here => webhook (congrArg Key.name here.2)) (services.delete _)
  | scanApi =>
      split
      · exact callsOnly_scanApi_reconcile context secrets.create
          (fun _ => allowsEnsuring_isElsewhere rfl scanApi) services.toAllowsUpkeep
      · exact callsOnly_scanApi_tearDown context (secrets.delete _)
          (fun here => scanApi (congrArg Key.name here.2)) (services.delete _)

/-- Looking after the scanner of an earlier release leaves the scanner of this one. -/
theorem exists_logs_settle (context : PassContext) (live : Deployment)
    (versioned : store.IsVersioned) :
    ∃ entries, Logs store ((Workloads.settle context live).runOn images store).2 entries ∧
      ∀ entry ∈ entries, ¬ (entry.kind = .deployment ∧
        entry.key = context.key (Naming.workloadDeployment context.name)) := by
  have different : Naming.legacyWorkloadDeployment context.name ≠
      Naming.workloadDeployment context.name := Naming.ne_append (by decide)
  have elsewhere : (Workloads.settle context live).CallsOnly (Call.IsElsewhere .deployment
      (context.key (Naming.workloadDeployment context.name))) :=
    callsOnly_workloads_settle context (fun here => different (congrArg Key.name here.2))
      (fun here => different (congrArg Key.name here.2)) live
  have unseen : store.IsUnseen .deployment
      (context.key (Naming.workloadDeployment context.name)) [] :=
    fun _ sighted => absurd sighted List.not_mem_nil
  exact exists_logs_elsewhere versioned unseen elsewhere (isCareful_workloads_settle context live)

/-- No feature but the workload scanner changes the scanner's deployment. -/
theorem exists_logs_run (context : PassContext) {feature : Feature}
    (different : feature ≠ .workloads) (versioned : store.IsVersioned) :
    ∃ entries, Logs store ((feature.run context).runOn images store).2 entries ∧
      ∀ entry ∈ entries, ¬ (entry.kind = .deployment ∧
        entry.key = context.key (Naming.workloadDeployment context.name)) := by
  have unseen : store.IsUnseen .deployment
      (context.key (Naming.workloadDeployment context.name))
      [⟨.auditConfig, context.config⟩] := by
    intro object sighted
    cases List.mem_singleton.mp sighted
  exact exists_logs_elsewhere versioned unseen (isElsewhere_run context different)
    (isCareful_run List.mem_cons_self feature)

end Pass

end ClusterAudit
