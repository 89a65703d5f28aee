import ClusterAudit.Proofs.Cluster.Store
import ClusterAudit.Proofs.Converged
import ClusterAudit.Proofs.Log
import ClusterAudit.World
import Mathlib.Logic.Relation

/-!
Passes over one configuration among everything else that happens in the cluster. Between any two
calls others may do what they like, as long as they spare the finalizer of the configuration and do
not register its webhook. Calls may fail, and a pass may be cut off at any point.
-/

namespace ClusterAudit

open Pass.Admission (isGuarded finalizer)

def Key.registration (key : Key) : Key :=
  Key.ofCluster (Naming.webhookConfiguration key.namespaceName key.name)

namespace Store

/-- The registration of the configuration at a place is there. -/
def isRegistered (store : Store) (key : Key) : Bool :=
  (store.find? .webhookConfiguration key.registration).isSome

/-- The registration of the configuration at a place is there only if the finalizer stands. -/
def IsSafe (key : Key) (store : Store) : Prop :=
  store.isRegistered key = true → isGuarded store key = true

/-- No call to delete a registration is told that there is none when that is only a fault. -/
def IsHonest (store : Store) : Prop :=
  ∀ error, store.fault? .delete .webhookConfiguration = some error → error.isNotFound = false

/-- A change of the cluster leaves the configuration at a place its finalizer, and does not register
its webhook. -/
structure Spares (key : Key) (before after : Store) : Prop where
  guard : isGuarded before key = true → isGuarded after key = true
  registration : before.isRegistered key = false → after.isRegistered key = false
  honest : before.IsHonest → after.IsHonest

end Store

/-! ## Situations -/

/-- The cluster, and what is left of the pass that runs, if one does. -/
structure Situation where
  store : Store
  running : Option (Pass Progress) := none

/-- What may happen next around the configuration at a place: a pass starts, or goes on by one step,
or ends, wherever it is, or others change the cluster. -/
inductive Situation.Step (key : Key) : Situation → Situation → Prop
  | start (store : Store) (policyName : String) (now : Instant) (token : String) :
      Step key { store } { store, running := some (Pass.reconcile policyName key now token) }
  | call (store : Store) (request : Call)
      (next : Except ClusterError request.Reply → Pass Progress) :
      Step key { store, running := some (.call request next) }
        { store := (store.answer request).2, running := some (next (store.answer request).1) }
  | image (store : Store) (request : ImageRequest)
      (next : Except ImageError String → Pass Progress) (reply : Except ImageError String) :
      Step key { store, running := some (.image request next) }
        { store, running := some (next reply) }
  | note (store : Store) (feature : Feature) (next : Pass Progress) :
      Step key { store, running := some (.note feature next) } { store, running := some next }
  | stop (store : Store) (pass : Pass Progress) : Step key { store, running := some pass } { store }
  | others (store after : Store) (running : Option (Pass Progress)) :
      store.Spares key after → Step key { store, running } { store := after, running }

/-! ## Changes that spare the finalizer -/

namespace Store

variable {key place : Key} {kind : Kind} {store before after last : Store}

namespace Spares

theorem refl : Spares key store store where
  guard := id
  registration := id
  honest := id

theorem trans (first : Spares key before after) (second : Spares key after last) :
    Spares key before last where
  guard := fun guarded => second.guard (first.guard guarded)
  registration := fun unregistered => second.registration (first.registration unregistered)
  honest := fun honest => second.honest (first.honest honest)

theorem isSafe (spares : Spares key before after) (safe : before.IsSafe key) :
    after.IsSafe key := by
  intro registered
  cases wasRegistered : before.isRegistered key with
  | true => exact spares.guard (safe wasRegistered)
  | false =>
      rw [spares.registration wasRegistered] at registered
      cases registered

end Spares

theorem IsHonest.of_faults (honest : before.IsHonest) (same : after.faults = before.faults) :
    after.IsHonest := by
  intro error found
  rw [fault?, same] at found
  exact honest error found

namespace Alters

variable {change : Option (Stored kind)}

theorem isGuarded (alters : Alters before after kind place change)
    (guarded : isGuarded before key = true)
    (here : kind = .auditConfig → place = key → change.any (fun stored =>
      (stored.metadata.finalizers.getD []).contains finalizer) = true) :
    isGuarded after key = true := by
  by_cases same : Kind.auditConfig = kind ∧ key = place
  · obtain ⟨sameKind, rfl⟩ := same
    subst sameKind
    rw [Pass.Admission.isGuarded, alters.here]
    exact here rfl rfl
  · rw [Pass.Admission.isGuarded, alters.elsewhere _ _ same]
    exact guarded

theorem isRegistered (alters : Alters before after kind place change)
    (unregistered : before.isRegistered key = false)
    (here : kind = .webhookConfiguration → before.find? kind place = none → change = none) :
    after.isRegistered key = false := by
  have absent := Option.isSome_eq_false_iff.mp unregistered
  rw [Option.isNone_iff_eq_none] at absent
  by_cases same : Kind.webhookConfiguration = kind ∧ key.registration = place
  · obtain ⟨sameKind, samePlace⟩ := same
    subst sameKind samePlace
    rw [Store.isRegistered, alters.here, here rfl absent, Option.isSome_none]
  · rw [Store.isRegistered, alters.elsewhere _ _ same]
    exact unregistered

end Alters

end Store

namespace Call

/-- The call cannot take the finalizer from any configuration. -/
def KeepsGuard : Call → Prop
  | .replace kind _ object =>
      kind = .auditConfig → (object.metadata.finalizers.getD []).contains finalizer = true
  | .delete kind _ => kind ≠ .auditConfig
  | _ => True

/-- The call cannot register a webhook. -/
def KeepsUnregistered : Call → Prop
  | .create kind _ _ => kind ≠ .webhookConfiguration
  | _ => True

/-- The call spares every configuration. -/
def IsTame (call : Call) : Prop :=
  call.KeepsGuard ∧ call.KeepsUnregistered

end Call

namespace Store

variable {key : Key} {store : Store} {request : Call}

theorem isGuarded_answer (keeps : request.KeepsGuard) (guarded : isGuarded store key = true) :
    isGuarded (store.answer request).2 key = true := by
  cases request with
  | get kind place => exact guarded
  | list kind namespaceName selector => exact guarded
  | create kind namespaceName object =>
      rcases store.create_cases kind namespaceName object with ⟨same, _⟩ | ⟨_, free, alters⟩
      · exact (congrArg (isGuarded · key) same).trans guarded
      · apply alters.isGuarded guarded
        intro isConfig here
        subst isConfig here
        rw [isGuarded, free] at guarded
        cases guarded
  | replace kind place object =>
      rcases store.replace_cases kind place object with ⟨same, _⟩ | ⟨_, _, alters⟩
      · exact (congrArg (isGuarded · key) same).trans guarded
      · exact alters.isGuarded guarded fun isConfig _ => keeps isConfig
  | delete kind place =>
      rcases store.delete_cases kind place with ⟨same, _⟩ | alters
      · exact (congrArg (isGuarded · key) same).trans guarded
      · exact alters.isGuarded guarded fun isConfig _ => absurd isConfig keeps
  | patchStatus kind place patch =>
      rcases store.patchStatus_cases kind place patch with ⟨same, _⟩ | ⟨_, found, alters⟩
      · exact (congrArg (isGuarded · key) same).trans guarded
      · apply alters.isGuarded guarded
        intro isConfig here
        subst isConfig here
        rw [isGuarded, found] at guarded
        exact guarded

theorem isRegistered_answer (keeps : request.KeepsUnregistered)
    (unregistered : store.isRegistered key = false) :
    (store.answer request).2.isRegistered key = false := by
  cases request with
  | get kind place => exact unregistered
  | list kind namespaceName selector => exact unregistered
  | create kind namespaceName object =>
      rcases store.create_cases kind namespaceName object with ⟨same, _⟩ | ⟨_, _, alters⟩
      · exact (congrArg (isRegistered · key) same).trans unregistered
      · exact alters.isRegistered unregistered fun isRegistration _ => absurd isRegistration keeps
  | replace kind place object =>
      rcases store.replace_cases kind place object with ⟨same, _⟩ | ⟨_, found, alters⟩
      · exact (congrArg (isRegistered · key) same).trans unregistered
      · apply alters.isRegistered unregistered
        intro _ free
        cases found.symm.trans free
  | delete kind place =>
      rcases store.delete_cases kind place with ⟨same, _⟩ | alters
      · exact (congrArg (isRegistered · key) same).trans unregistered
      · exact alters.isRegistered unregistered fun _ _ => rfl
  | patchStatus kind place patch =>
      rcases store.patchStatus_cases kind place patch with ⟨same, _⟩ | ⟨_, found, alters⟩
      · exact (congrArg (isRegistered · key) same).trans unregistered
      · apply alters.isRegistered unregistered
        intro _ free
        cases found.symm.trans free

theorem spares_answer (tame : request.IsTame) : Spares key store (store.answer request).2 where
  guard := isGuarded_answer tame.1
  registration := isRegistered_answer tame.2
  honest := fun honest => honest.of_faults (faults_answer store request)

end Store

/-! ## Passes that others interfere with -/

namespace Pass

open Store

variable {First Second Result : Type} {key : Key} {store : Store}

/-- A fact that no change spoils that spares the finalizer. -/
def IsStable (key : Key) (fact : Store → Prop) : Prop :=
  ∀ before after, Spares key before after → fact before → fact after

/-- Whatever others do before each call, the pass keeps the cluster safe, and a fact holds of what it
ends with. -/
def Protects (key : Key) (ended : Result → Store → Prop) : Pass Result → Store → Prop
  | .done result, store => ended result store
  | .fail _, _ => True
  | .crash, _ => True
  | .call request next, store => ∀ middle, Spares key store middle → middle.IsHonest →
      middle.IsSafe key → (middle.answer request).2.IsSafe key ∧
        Protects key ended (next (middle.answer request).1) (middle.answer request).2
  | .image _ next, store => ∀ reply, Protects key ended (next reply) store
  | .note _ next, store => Protects key ended next store

theorem protects_bind {first : Pass First} {second : First → Pass Second}
    {ended : Second → Store → Prop}
    (protects : first.Protects key (fun value => (second value).Protects key ended) store) :
    (first >>= second).Protects key ended store := by
  change (first.andThen second).Protects key ended store
  induction first generalizing store with
  | done value => exact protects
  | fail error => trivial
  | crash => trivial
  | call request next inductionHypothesis =>
      intro middle spares honest safe
      obtain ⟨stillSafe, rest⟩ := protects middle spares honest safe
      exact ⟨stillSafe, inductionHypothesis _ rest⟩
  | image request next inductionHypothesis =>
      exact fun reply => inductionHypothesis reply (protects reply)
  | note feature next inductionHypothesis => exact inductionHypothesis protects

theorem protects_attempt {request : Call}
    {ended : Except ClusterError request.Reply → Store → Prop}
    (answers : ∀ middle, Spares key store middle → middle.IsHonest → middle.IsSafe key →
      (middle.answer request).2.IsSafe key ∧
        ended (middle.answer request).1 (middle.answer request).2) :
    (attempt request).Protects key ended store :=
  answers

theorem protects_ask {request : Call} {ended : request.Reply → Store → Prop}
    (answers : ∀ middle, Spares key store middle → middle.IsHonest → middle.IsSafe key →
      (middle.answer request).2.IsSafe key ∧ ∀ reply,
        (middle.answer request).1 = .ok reply → ended reply (middle.answer request).2) :
    (ask request).Protects key ended store := by
  intro middle spares honest safe
  obtain ⟨stillSafe, holds⟩ := answers middle spares honest safe
  refine ⟨stillSafe, ?_⟩
  cases answered : (middle.answer request).1 with
  | error error => trivial
  | ok reply => exact holds reply answered

theorem Protects.mono {pass : Pass Result} {ended weaker : Result → Store → Prop}
    (protects : pass.Protects key ended store)
    (weakens : ∀ result after, ended result after → weaker result after) :
    pass.Protects key weaker store := by
  induction pass generalizing store with
  | done result => exact weakens _ _ protects
  | fail error => trivial
  | crash => trivial
  | call request next inductionHypothesis =>
      intro middle spares honest safe
      obtain ⟨stillSafe, rest⟩ := protects middle spares honest safe
      exact ⟨stillSafe, inductionHypothesis _ rest⟩
  | image request next inductionHypothesis =>
      exact fun reply => inductionHypothesis reply (protects reply)
  | note feature next inductionHypothesis => exact inductionHypothesis protects

/-- A pass that others interfere with now goes on as if they had done so at its next call. -/
theorem Protects.of_spares {pass : Pass Result} {ended : Result → Store → Prop} {after : Store}
    (protects : pass.Protects key ended store) (stable : ∀ result, IsStable key (ended result))
    (spares : Spares key store after) : pass.Protects key ended after := by
  induction pass generalizing store with
  | done result => exact stable result _ _ spares protects
  | fail error => trivial
  | crash => trivial
  | call request next inductionHypothesis =>
      intro middle sparesNext honest safe
      -- The call answers from a store that others have changed anyway, so nothing is left to show.
      exact protects middle (spares.trans sparesNext) honest safe
  | image request next inductionHypothesis =>
      exact fun reply => inductionHypothesis reply (protects reply) spares
  | note feature next inductionHypothesis => exact inductionHypothesis protects spares

/-- A fact that no allowed call spoils, whatever others did before it, holds to the end of a pass. -/
theorem protects_of_callsOnly {pass : Pass Result} {allowed : Call → Prop} {fact : Store → Prop}
    (calls : pass.CallsOnly allowed)
    (keeps : ∀ request before middle, allowed request → Spares key before middle → fact before →
      middle.IsSafe key →
      (middle.answer request).2.IsSafe key ∧ fact (middle.answer request).2)
    (holds : fact store) : pass.Protects key (fun _ => fact) store := by
  induction pass generalizing store with
  | done result => exact holds
  | fail error => trivial
  | crash => trivial
  | call request next inductionHypothesis =>
      intro middle spares honest safe
      obtain ⟨stillSafe, stillHolds⟩ := keeps request store middle calls.1 spares holds safe
      exact ⟨stillSafe, inductionHypothesis _ (calls.2 _) stillHolds⟩
  | image request next inductionHypothesis =>
      exact fun reply => inductionHypothesis reply (calls reply) holds
  | note feature next inductionHypothesis => exact inductionHypothesis calls holds

/-- A pass of tame calls spoils no stable fact. -/
theorem protects_of_isTame {pass : Pass Result} {fact : Store → Prop}
    (tame : pass.CallsOnly Call.IsTame) (stable : IsStable key fact) (holds : fact store) :
    pass.Protects key (fun _ => fact) store := by
  refine protects_of_callsOnly tame ?_ holds
  intro request before middle tameCall spares held safe
  have answered : Spares key middle (middle.answer request).2 := spares_answer tameCall
  exact ⟨answered.isSafe safe, stable _ _ (spares.trans answered) held⟩

/-- While the finalizer stands, a pass may do anything that does not take it away. -/
theorem protects_of_guarded {pass : Pass Result} (keeps : pass.CallsOnly Call.KeepsGuard)
    (guarded : isGuarded store key = true) :
    pass.Protects key (fun _ after => isGuarded after key = true) store := by
  refine protects_of_callsOnly keeps ?_ guarded
  intro request before middle keepsGuard spares held _
  have stillGuarded : isGuarded (middle.answer request).2 key = true :=
    isGuarded_answer keepsGuard (spares.guard held)
  exact ⟨fun _ => stillGuarded, stillGuarded⟩

end Pass

/-! ## Runs -/

namespace Situation

variable {key : Key}

/-- The cluster is safe and answers honestly, and the pass that runs will keep it safe. -/
structure IsProtected (key : Key) (situation : Situation) : Prop where
  honest : situation.store.IsHonest
  safe : situation.store.IsSafe key
  protects : ∀ pass, situation.running = some pass →
    pass.Protects key (fun _ _ => True) situation.store

/-- A step keeps the cluster safe if every pass does. -/
theorem IsProtected.step {before after : Situation}
    (reconciles : ∀ policyName now token store,
      (Pass.reconcile policyName key now token).Protects key (fun _ _ => True) store)
    (isProtected : before.IsProtected key) (step : Step key before after) :
    after.IsProtected key := by
  obtain ⟨honest, safe, protects⟩ := isProtected
  cases step with
  | start store policyName now token =>
      refine ⟨honest, safe, ?_⟩
      intro pass started
      cases started
      exact reconciles policyName now token store
  | call store request next =>
      obtain ⟨stillSafe, rest⟩ := protects _ rfl store .refl honest safe
      refine ⟨honest.of_faults (Store.faults_answer store request), stillSafe, ?_⟩
      intro pass followed
      cases followed
      exact rest
  | image store request next reply =>
      refine ⟨honest, safe, ?_⟩
      intro pass followed
      cases followed
      exact protects _ rfl reply
  | note store feature next =>
      refine ⟨honest, safe, ?_⟩
      intro pass followed
      cases followed
      exact protects (.note feature next) rfl
  | stop store pass => exact ⟨honest, safe, nofun⟩
  | others store after running spares =>
      refine ⟨spares.honest honest, spares.isSafe safe, ?_⟩
      intro pass runs
      exact (protects pass runs).of_spares (fun _ _ _ _ _ => trivial) spares

theorem IsProtected.steps {start reached : Situation}
    (reconciles : ∀ policyName now token store,
      (Pass.reconcile policyName key now token).Protects key (fun _ _ => True) store)
    (isProtected : start.IsProtected key)
    (steps : Relation.ReflTransGen (Step key) start reached) : reached.IsProtected key := by
  induction steps with
  | refl => exact isProtected
  | tail _ step inductionHypothesis => exact inductionHypothesis.step reconciles step

/-! ### The operator alone -/

theorem steps_run (pass : Pass Progress) (world : World) :
    Relation.ReflTransGen (Step key) { store := world.store, running := some pass }
      { store := (world.run pass).2.store } := by
  induction pass generalizing world with
  | done progress => exact .single (.stop _ _)
  | fail error => exact .single (.stop _ _)
  | crash => exact .single (.stop _ _)
  | call request next inductionHypothesis =>
      have first : Step key _ _ := Step.call world.store request next
      exact .head first (inductionHypothesis _ { world with
        store := (world.store.answer request).2 })
  | image request next inductionHypothesis =>
      have first : Step key _ _ :=
        Step.image world.store request next (world.catalog.resolve request).1
      have rest := inductionHypothesis (world.catalog.resolve request).1 { world with
        catalog := (world.catalog.resolve request).2 }
      rw [World.run]
      generalize world.catalog.resolve request = resolved at first rest ⊢
      exact .head first rest
  | note feature next inductionHypothesis =>
      have first : Step key _ _ := Step.note world.store feature next
      exact .head first (inductionHypothesis { world with
        metrics := world.metrics.recordMutation feature.name })

/-- A pass of the operator with nobody else at work is one of these runs. -/
theorem steps_reconcile (world : World) (now : Instant) :
    Relation.ReflTransGen (Step key) { store := world.store }
      { store := (world.reconcile key now).2.store } := by
  have draws : world.store.Spares key world.freshIdentifier.2.store :=
    { guard := id, registration := id, honest := id }
  have drawn : Step key _ _ :=
    Step.others world.store world.freshIdentifier.2.store none draws
  have started : Step key _ _ := Step.start world.freshIdentifier.2.store world.policyName now
    world.freshIdentifier.1
  have ran : Relation.ReflTransGen (Step key) _ _ := steps_run
    (Pass.reconcile world.policyName key now world.freshIdentifier.1) world.freshIdentifier.2
  have sameStore : (world.reconcile key now).2.store =
      (world.freshIdentifier.2.run
        (Pass.reconcile world.policyName key now world.freshIdentifier.1)).2.store := by
    simp only [World.reconcile, World.recordEnding]
    cases World.resultName _ <;> rfl
  rw [sameStore]
  exact .head drawn (.head started ran)

theorem steps_reconcileRepeatedly (world : World) (now : Instant) (passes : Nat) :
    Relation.ReflTransGen (Step key) { store := world.store }
      { store := (World.reconcileRepeatedly key now passes world).2.store } := by
  induction passes generalizing world with
  | zero => exact .refl
  | succ passes inductionHypothesis =>
      have first : Relation.ReflTransGen (Step key) _ _ := steps_reconcile world now
      simp only [World.reconcileRepeatedly]
      split
      · exact first.trans (inductionHypothesis _)
      · exact first

end Situation

end ClusterAudit
