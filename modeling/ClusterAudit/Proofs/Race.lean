import ClusterAudit.Proofs.Pass.Paired
import ClusterAudit.Proofs.Pass.Turns

/-!
Passes over several configurations at the same time. A schedule tells whose turn it is, call by
call. Where no two configurations reach the same place, every pass ends as it does alone, whatever
the schedule is: with the same result, after the same changes, and with the same left behind.
-/

namespace ClusterAudit

open Store

/-- A cluster, what is left of the passes that run in it, and the changes that each has made. -/
structure Race (Runner : Type) where
  store : Store
  left : Runner → Pass Progress
  made : Runner → List LogEntry := fun _ => []

namespace Race

variable {Runner : Type}

/-- Passes over some configurations, each with a time and a token of its own, before the first
turn. -/
def start (store : Store) (policyName : String) (owner : Runner → Owner) (now : Runner → Instant)
    (token : Runner → String) : Race Runner where
  store
  left runner := Pass.reconcile policyName (owner runner).configKey (now runner) (token runner)

variable [DecidableEq Runner]

/-- One pass takes a turn. What it adds to the log is counted as its own. -/
def turn (images : ImageSource) (race : Race Runner) (runner : Runner) : Race Runner :=
  let (left, store) := Pass.turn images (race.left runner, race.store)
  { store
    left := Function.update race.left runner left
    made := Function.update race.made runner
      (race.made runner ++ store.log.drop race.store.log.length) }

/-- The passes take turns as a schedule tells. -/
def run (images : ImageSource) (race : Race Runner) (schedule : List Runner) : Race Runner :=
  schedule.foldl (turn images) race

/-! ## Races that are followed alone -/

section

variable {images : ImageSource} {owner : Runner → Owner} {before : Store} {race : Race Runner}
  {runner mover : Runner} {alone : Pass Progress × Store}

/-- A pass has come as far in a race as it has alone. -/
structure Tracks (images : ImageSource) (owner : Owner) (before : Store) (race : Race Runner)
    (runner : Runner) (alone : Pass Progress × Store) : Prop where
  together : ∃ written,
    Pass.Together images owner before written alone (race.left runner, race.store)
  log : alone.2.log = before.log ++ race.made runner

/-- A turn of the pass itself is one more turn alone. -/
theorem Tracks.turn_self {owner : Owner} (quiet : before.faults = [])
    (plain : Selector.isPlain owner.name = true)
    (tracks : Tracks images owner before race runner alone) :
    Tracks images owner before (race.turn images runner) runner (Pass.turn images alone) ∧
      owner.Touches before race.store (race.turn images runner).store := by
  obtain ⟨written, together⟩ := tracks.together
  obtain ⟨entries, follows⟩ := together.turn quiet plain
  refine ⟨{ together := ?_, log := ?_ }, follows.touches⟩
  · obtain ⟨later, still⟩ := follows.together
    refine ⟨later, ?_⟩
    simp only [turn, Function.update_self]
    exact still
  · have added : (Pass.turn images (race.left runner, race.store)).2.log.drop
        race.store.log.length = entries := by
      rw [follows.logsShared.log, List.drop_left]
    simp only [turn, Function.update_self, added]
    rw [follows.logsAlone.log, tracks.log, List.append_assoc]

/-- A turn of a pass that reaches other places does not hold the pass up. -/
theorem Tracks.turn_other (tracks : Tracks images (owner runner) before race runner alone)
    (touches : (owner mover).Touches before race.store (race.turn images mover).store)
    (different : runner ≠ mover)
    (apart : ∀ kind key, (owner runner).Reaches before kind key →
      ¬ (owner mover).Reaches before kind key) :
    Tracks images (owner runner) before (race.turn images mover) runner alone := by
  obtain ⟨written, together⟩ := tracks.together
  have elsewhere : (owner runner).configKey ≠ (owner mover).configKey := by
    intro same
    refine apart .auditConfig _ (.named _ .config) ?_
    rw [same]
    exact .named _ .config
  constructor
  · refine ⟨written, {
      inStep := ?_
      sinceAlone := together.sinceAlone
      sinceShared := together.sinceShared.others touches elsewhere apart
      alike := ?_ }⟩
    · simp only [turn, Function.update_of_ne different]
      exact together.inStep
    · intro kind key reached
      rw [touches.elsewhere kind key (apart kind key reached)]
      exact together.alike kind key reached
  · simp only [turn, Function.update_of_ne different]
    exact tracks.log

/-- Nothing has changed but what the configurations of the race reach, and each pass has come as far
as it has alone after as many turns. -/
structure IsApart (images : ImageSource) (owner : Runner → Owner) (before : Store)
    (race : Race Runner) (alone : Runner → Pass Progress × Store) : Prop where
  unreached : ∀ kind key, (∀ runner, ¬ (owner runner).Reaches before kind key) →
    race.store.find? kind key = before.find? kind key
  tracks : ∀ runner, Tracks images (owner runner) before race runner (alone runner)

section

variable (quiet : before.faults = [])
  (plain : ∀ runner, Selector.isPlain (owner runner).name = true)
  (apart : ∀ one two kind key, one ≠ two → (owner one).Reaches before kind key →
    ¬ (owner two).Reaches before kind key)

include quiet plain apart

theorem IsApart.turn {alone : Runner → Pass Progress × Store}
    (isApart : IsApart images owner before race alone) (mover : Runner) :
    IsApart images owner before (race.turn images mover)
      (Function.update alone mover (Pass.turn images (alone mover))) := by
  obtain ⟨moved, touches⟩ := (isApart.tracks mover).turn_self quiet (plain mover)
  constructor
  · intro kind key unreached
    rw [touches.elsewhere kind key (unreached mover)]
    exact isApart.unreached kind key unreached
  · intro runner
    by_cases same : runner = mover
    · rw [same, Function.update_self]
      exact moved
    · rw [Function.update_of_ne same]
      exact (isApart.tracks runner).turn_other touches same fun kind key =>
        apart runner mover kind key same

theorem IsApart.run {alone : Runner → Pass Progress × Store}
    (isApart : IsApart images owner before race alone) (schedule : List Runner) :
    IsApart images owner before (race.run images schedule) fun runner =>
      (Pass.turn images)^[schedule.count runner] (alone runner) := by
  induction schedule generalizing race alone with
  | nil => exact isApart
  | cons mover rest inductionHypothesis =>
      have followed := inductionHypothesis (isApart.turn quiet plain apart mover)
      refine { unreached := followed.unreached, tracks := ?_ }
      intro runner
      have tracked := followed.tracks runner
      by_cases same : runner = mover
      · subst same
        rw [Function.update_self, ← Function.iterate_succ_apply] at tracked
        rw [List.count_cons_self]
        exact tracked
      · rw [Function.update_of_ne same] at tracked
        rw [List.count_cons_of_ne (Ne.symm same)]
        exact tracked

end

omit [DecidableEq Runner] in
theorem isApart_start (images : ImageSource) (policyName : String) (quiet : before.faults = [])
    (plain : ∀ runner, Selector.isPlain (owner runner).name = true)
    (owned : ∀ runner config,
      before.stored? .auditConfig (owner runner).configKey = some config →
      Owner.of config = .ok (owner runner))
    (now : Runner → Instant) (time : Instant) (token : Runner → String) (fresh : String) :
    IsApart images owner before (start before policyName owner now token) fun runner =>
      (Pass.reconcile policyName (owner runner).configKey time fresh, before.drawn) where
  unreached _ _ _ := rfl
  tracks runner := {
    together := ⟨[], {
      inStep :=
        Pass.inStep_reconcile quiet (plain runner) (owned runner) time (now runner) fresh
          (token runner)
      sinceAlone := .drawn quiet
      sinceShared := .refl quiet
      alike := fun _ _ _ => .refl }⟩
    log := (List.append_nil _).symm }

/-- A pass has ended in a race with the same result, after the same changes in the same order, and
with the same left behind as alone. -/
structure Agrees (owner : Owner) (before : Store) (race : Race Runner) (runner : Runner)
    (alone : Ending Progress × Store) : Prop where
  ending : (race.left runner).ending? = some alone.1
  made : alone.2.log = before.log ++ race.made runner
  alike : ∀ kind key, owner.Reaches before kind key →
    Stored.Alike (before.find? kind key) (alone.2.find? kind key) (race.store.find? kind key)

end

end Race

variable {Runner : Type} [DecidableEq Runner]

/-- Passes over configurations that reach different places do not interfere. Whatever the schedule
is, nothing changes that none of them reaches, and a pass that has had enough turns has ended as it
ends alone, at any time and with any token. -/
theorem race_agrees {store : Store} {owner : Runner → Owner} (images : ImageSource)
    (policyName : String) (quiet : store.faults = [])
    (owned : ∀ runner config,
      store.stored? .auditConfig (owner runner).configKey = some config →
      Owner.of config = .ok (owner runner))
    (valid : ∀ runner, Naming.isValid (owner runner).name = true)
    (apart : ∀ one two kind key, one ≠ two → (owner one).Reaches store kind key →
      ¬ (owner two).Reaches store kind key)
    (now : Runner → Instant) (token : Runner → String) :
    (∀ schedule kind key, (∀ runner, ¬ (owner runner).Reaches store kind key) →
      ((Race.start store policyName owner now token).run images schedule).store.find? kind key =
        store.find? kind key) ∧
    ∀ runner time, ∃ enough, ∀ schedule : List Runner, enough ≤ schedule.count runner →
      ((Race.start store policyName owner now token).run images schedule).Agrees (owner runner)
        store runner (store.reconcile images policyName (owner runner).configKey time) := by
  have plain : ∀ runner, Selector.isPlain (owner runner).name = true :=
    fun runner => Naming.isPlain_of_isValid (valid runner)
  have isApart := fun (time : Instant) (schedule : List Runner) =>
    (Race.isApart_start images policyName quiet plain owned now time token
      store.freshIdentifier.1).run quiet plain apart schedule
  constructor
  · intro schedule
    exact (isApart { seconds := 0, nanos := 0 } schedule).unreached
  · intro runner time
    obtain ⟨enough, ended⟩ := Pass.exists_endsAfter images
      (Pass.reconcile policyName (owner runner).configKey time store.freshIdentifier.1) store.drawn
    refine ⟨enough, ?_⟩
    intro schedule within
    obtain ⟨ending, after⟩ := ended _ within
    have tracks := (isApart time schedule).tracks runner
    obtain ⟨written, together⟩ := tracks.together
    exact {
      ending := together.inStep.ending?_eq ending
      made := by rw [← tracks.log, after]; rfl
      alike := by
        intro kind key reached
        have alike := together.alike kind key reached
        rw [after] at alike
        exact alike }

/-! ## Two configurations -/

namespace Owner

/-- The places that belong to a configuration whatever is in the cluster. -/
def fixedPlaces (owner : Owner) : List (Kind × Key) :=
  (.auditConfig, owner.configKey) ::
    (.deployment, owner.key (Naming.legacyWorkloadDeployment owner.name)) ::
    (.webhookConfiguration,
      Key.ofCluster (Naming.webhookConfiguration owner.namespaceName owner.name)) ::
    Feature.all.flatMap fun feature =>
      (feature.parts owner.name).map fun part => (part.1, owner.key part.2)

variable {owner other : Owner} {store : Store} {kind : Kind} {key : Key}

theorem Names.mem_fixedPlaces_or (nodeless : store.among .node "" = [])
    (named : owner.Names store kind key) :
    (kind, key) ∈ owner.fixedPlaces ∨ kind = .cronJob ∧
      ∃ stored, store.find? .cronJob key = some stored ∧
        owner.marks .nodes stored.metadata = true := by
  cases named with
  | config => exact Or.inl List.mem_cons_self
  | legacy => exact Or.inl (List.mem_cons_of_mem _ List.mem_cons_self)
  | registration =>
      exact Or.inl (List.mem_cons_of_mem _ (List.mem_cons_of_mem _ List.mem_cons_self))
  | part feature kind name isPart =>
      have inAll : feature ∈ Feature.all := by cases feature <;> decide
      refine Or.inl (List.mem_cons_of_mem _ (List.mem_cons_of_mem _ (List.mem_cons_of_mem _
        (List.mem_flatMap.mpr ⟨feature, inAll, List.mem_map.mpr ⟨(kind, name), isPart, rfl⟩⟩))))
  | node node name among _ =>
      rw [nodeless] at among
      cases among
  | scan _ stored _ found marked => exact Or.inr ⟨rfl, stored, found, marked⟩

/-- Without nodes, nothing belongs to two configurations that have different names and share no
fixed place. -/
theorem Names.apart (nodeless : store.among .node "" = []) (different : owner.name ≠ other.name)
    (fixed : ∀ place ∈ owner.fixedPlaces, place ∉ other.fixedPlaces)
    (named : owner.Names store kind key) : ¬ other.Names store kind key := by
  have noScan : ∀ {owner : Owner} {key : Key}, (Kind.cronJob, key) ∉ owner.fixedPlaces := by
    intro owner key
    simp [fixedPlaces, Feature.all, Feature.parts]
  intro namedToo
  rcases named.mem_fixedPlaces_or nodeless with isFixed | ⟨rfl, stored, found, marked⟩
  · rcases namedToo.mem_fixedPlaces_or nodeless with isFixedToo | ⟨rfl, _⟩
    · exact fixed _ isFixed isFixedToo
    · exact noScan isFixed
  · rcases namedToo.mem_fixedPlaces_or nodeless with isFixed | ⟨_, storedToo, foundToo, markedToo⟩
    · exact noScan isFixed
    · cases found.symm.trans foundToo
      rw [marks_of_ne markedToo different] at marked
      cases marked

end Owner

/-- A configuration beside the bare one that asks for nothing either. -/
def rivalConfig : AuditConfig where
  metadata := {
    name := some "backup"
    namespaceName := some "security"
    uid := some "uid-backup"
    resourceVersion := some "2" }
  content := {}

def rivalOwner : Owner where
  name := "backup"
  namespaceName := "security"
  reference := { bareOwner.reference with name := "backup", uid := "uid-backup" }

def racers : Bool → Owner
  | false => bareOwner
  | true => rivalOwner

/-- A config map that the workload scanner of a configuration has left behind. -/
def leftoverMap (owner : Owner) : Stored .configMap where
  metadata := { name := some (Naming.workloadConfigMap owner.name) }
  content := {}
  status := none

/-- A cluster with two configurations that ask for nothing, and something left behind of each. -/
def leftoverCluster : Store where
  tables
    | .auditConfig =>
        .ofList [(bareOwner.configKey, Stored.ofObject bareConfig),
          (rivalOwner.configKey, Stored.ofObject rivalConfig)]
    | .configMap =>
        .ofList [(bareOwner.key (Naming.workloadConfigMap bareOwner.name), leftoverMap bareOwner),
          (rivalOwner.key (Naming.workloadConfigMap rivalOwner.name), leftoverMap rivalOwner)]
    | _ => Dictionary.empty
  version := 4

theorem racers_apart {store : Store} (nodeless : store.among .node "" = []) {one two : Bool}
    {kind : Kind} {key : Key} (different : one ≠ two) (named : (racers one).Names store kind key) :
    ¬ (racers two).Names store kind key := by
  have names : (racers one).name ≠ (racers two).name := by
    cases one <;> cases two <;> first | contradiction | decide
  have fixed : ∀ place ∈ (racers one).fixedPlaces, place ∉ (racers two).fixedPlaces := by
    cases one <;> cases two <;> first | contradiction | decide
  exact named.apart nodeless names fixed

/-- However the passes over these two configurations take turns, each deletes what is left behind of
it and nothing else. -/
theorem made_leftoverCluster :
    leftoverCluster.faults = [] ∧ (∀ runner, Naming.isValid (racers runner).name = true) ∧
      ∃ enough, ∀ schedule : List Bool, (∀ runner, enough ≤ schedule.count runner) →
        ∀ runner,
          ((Race.start leftoverCluster "default" racers (fun _ => { seconds := 0, nanos := 0 })
            fun _ => "token").run (fun _ => .ok "image") schedule).made runner = [{
              verb := .delete
              kind := .configMap
              key := (racers runner).key (Naming.workloadConfigMap (racers runner).name) }] := by
  have homed : ∀ kind key stored, kind.isNamespaced = true →
      leftoverCluster.find? kind key = some stored →
      stored.metadata.displayName = key.name := by
    intro kind key stored _ found
    have member := Dictionary.mem_entries_iff.mpr found
    cases kind with
    | auditConfig | configMap =>
        rcases List.mem_cons.mp member with first | second
        · cases first
          rfl
        · cases List.mem_singleton.mp second
          rfl
    | _ => cases member
  have owned : ∀ runner config,
      leftoverCluster.stored? .auditConfig (racers runner).configKey = some config →
      Owner.of config = .ok (racers runner) := by
    intro runner config current
    cases runner <;> cases current <;> rfl
  have valid : ∀ runner, Naming.isValid (racers runner).name = true := by decide
  have agrees := (race_agrees (fun _ => .ok "image") "default" rfl owned valid
    (fun one two kind key different reached reachedToo =>
      racers_apart rfl different (reached.names homed) (reachedToo.names homed))
    (fun _ => { seconds := 0, nanos := 0 }) fun _ => "token").2
  have alone : ∀ runner, (leftoverCluster.reconcile (fun _ => .ok "image") "default"
      (racers runner).configKey { seconds := 0, nanos := 0 }).2.log = [{
        verb := .delete
        kind := .configMap
        key := (racers runner).key (Naming.workloadConfigMap (racers runner).name) }] := by
    decide +kernel
  obtain ⟨first, agreesFirst⟩ := agrees false { seconds := 0, nanos := 0 }
  obtain ⟨second, agreesSecond⟩ := agrees true { seconds := 0, nanos := 0 }
  refine ⟨rfl, valid, max first second, ?_⟩
  intro schedule within runner
  rw [← alone runner]
  cases runner with
  | false =>
      have enough := Nat.le_trans (Nat.le_max_left first second) (within false)
      exact (agreesFirst schedule enough).made.symm
  | true =>
      have enough := Nat.le_trans (Nat.le_max_right first second) (within true)
      exact (agreesSecond schedule enough).made.symm

/-- A scan with the labels of a configuration that displays one name, whoever it belongs to. -/
def nightlyScan (owner : Owner) : Stored .cronJob where
  metadata := {
    name := some "nightly"
    labels := some (Labels.ofComponent owner.name .nodes) }
  content := none
  status := none

/-- A cluster with two configurations that ask for nothing. Each has a scan, and the one that is
stored under another name displays the name of the other. -/
def crossedCluster : Store where
  tables
    | .auditConfig => leftoverCluster.tables .auditConfig
    | .cronJob =>
        .ofList [(rivalOwner.key "nightly", nightlyScan rivalOwner),
          (bareOwner.key "stray", nightlyScan bareOwner)]
    | _ => Dictionary.empty
  version := 4

/-- Nothing belongs to both configurations, and yet a pass over the one does the work of a pass over
the other. -/
theorem exists_race_that_interferes :
    crossedCluster.faults = [] ∧
      (∀ runner config,
        crossedCluster.stored? .auditConfig (racers runner).configKey = some config →
        Owner.of config = .ok (racers runner)) ∧
      (∀ runner, Naming.isValid (racers runner).name = true) ∧
      (racers false).configKey ≠ (racers true).configKey ∧
      (racers false).reference.uid ≠ (racers true).reference.uid ∧
      (∀ kind key, (racers false).Names crossedCluster kind key →
        ¬ (racers true).Names crossedCluster kind key) ∧
      ∃ (schedule : List Bool) (race : Race Bool),
        race = (Race.start crossedCluster "default" racers (fun _ => { seconds := 0, nanos := 0 })
          fun _ => "token").run (fun _ => .ok "image") schedule ∧
        (∀ runner, (race.left runner).ending?.isSome = true) ∧
        race.made true = [] ∧
        (crossedCluster.reconcile (fun _ => .ok "image") "default" (racers true).configKey
          { seconds := 0, nanos := 0 }).2.log = [{
            verb := .delete
            kind := .cronJob
            key := rivalOwner.key "nightly" }] := by
  refine ⟨rfl, ?_, by decide, by decide, by decide, ?_,
    List.replicate 20 false ++ List.replicate 20 true, _, rfl, ?_⟩
  · intro runner config current
    cases runner <;> cases current <;> rfl
  · intro kind key named
    exact racers_apart rfl (by decide) named
  · decide +kernel

end ClusterAudit
