import ClusterAudit.Proofs.Cluster.Store
import ClusterAudit.Proofs.Pass.Calls
import ClusterAudit.Proofs.Pass.Run
import Mathlib.Logic.Function.Iterate
import Mathlib.Logic.Relation

/-!
One configuration over a long time. Pass after pass runs over it, and between any two calls others
do what they may. Calls may fail in any way, and a pass may be cut off at any point. What every pass
guarantees from the configuration that it has loaded holds of all such runs.
-/

namespace ClusterAudit

open Store

/-! ## Passes that load their configuration -/

/-- The configuration that a call shows to a pass. -/
def Call.loads : (request : Call) → Except ClusterError request.Reply → List AuditConfig
  | .get .auditConfig _, .ok (some config) => [config]
  | _, _ => []

namespace Pass

/-- What a pass does with the configuration that it has loaded. -/
def proceed (policyName : String) (now : Instant) (token : String) (config : AuditConfig) :
    Pass Progress :=
  if config.metadata.deletionTimestamp.isSome then do
    Admission.finalize config
    return .done
  else reconcileFeatures policyName config now token

/-- What a pass does with the answer to its first call. -/
def loaded (policyName : String) (now : Instant) (token : String) :
    Except ClusterError (Option AuditConfig) → Pass Progress
  | .error error => fail (.cluster error)
  | .ok none => done .done
  | .ok (some config) => proceed policyName now token config

theorem reconcile_eq_call (policyName : String) (key : Key) (now : Instant) (token : String) :
    reconcile policyName key now token =
      call (.get .auditConfig key) (loaded policyName now token) := by
  rw [reconcile]
  change call _ _ = _
  congr 1
  funext reply
  cases reply with
  | error error => rfl
  | ok found => cases found <;> rfl

end Pass

/-! ## Runs -/

/-- The cluster, what is left of the pass that runs, if one does, and the configurations that passes
have loaded so far, the oldest first. -/
structure Chronicle where
  store : Store
  running : Option (Pass Progress) := none
  loaded : List AuditConfig := []

namespace Chronicle

/-- What may happen next: a pass over the configuration at a place starts, or goes on by one step,
or ends, wherever it is, or others change the cluster as they may. -/
inductive Step (key : Key) (others : Store → Store → Prop) : Chronicle → Chronicle → Prop
  | start (store : Store) (loaded : List AuditConfig) (policyName : String) (now : Instant)
      (token : String) :
      Step key others { store, loaded }
        { store, running := some (Pass.reconcile policyName key now token), loaded }
  | call (store : Store) (request : Call)
      (next : Except ClusterError request.Reply → Pass Progress) (loaded : List AuditConfig) :
      Step key others { store, running := some (.call request next), loaded } {
        store := (store.answer request).2
        running := some (next (store.answer request).1)
        loaded := loaded ++ request.loads (store.answer request).1 }
  | image (store : Store) (request : ImageRequest)
      (next : Except ImageError String → Pass Progress) (loaded : List AuditConfig)
      (reply : Except ImageError String) :
      Step key others { store, running := some (.image request next), loaded }
        { store, running := some (next reply), loaded }
  | note (store : Store) (feature : Feature) (next : Pass Progress) (loaded : List AuditConfig) :
      Step key others { store, running := some (.note feature next), loaded }
        { store, running := some next, loaded }
  | stop (store : Store) (pass : Pass Progress) (loaded : List AuditConfig) :
      Step key others { store, running := some pass, loaded } { store, loaded }
  | others (store after : Store) (running : Option (Pass Progress)) (loaded : List AuditConfig) :
      others store after → Step key others { store, running, loaded }
        { store := after, running, loaded }

abbrev Steps (key : Key) (others : Store → Store → Prop) : Chronicle → Chronicle → Prop :=
  Relation.ReflTransGen (Step key others)

variable {key : Key} {others : Store → Store → Prop} {before after : Chronicle}

theorem Step.loaded_extends (step : Step key others before after) :
    before.loaded <+: after.loaded := by
  cases step with
  | call store request next loaded => exact List.prefix_append ..
  | _ => exact List.prefix_refl _

theorem Steps.loaded_extends (steps : Steps key others before after) :
    before.loaded <+: after.loaded := by
  induction steps with
  | refl => exact List.prefix_refl _
  | tail _ step inductionHypothesis => exact inductionHypothesis.trans step.loaded_extends

/-! ## Steps of a pass -/

/-- A chronicle in which a pass starts, and the one that runs is cut off. -/
def begin (chronicle : Chronicle) (policyName : String) (key : Key) (now : Instant)
    (token : String) : Chronicle :=
  { chronicle with running := some (Pass.reconcile policyName key now token) }

theorem steps_begin (chronicle : Chronicle) (policyName : String) (now : Instant)
    (token : String) : Steps key others chronicle (chronicle.begin policyName key now token) := by
  obtain ⟨store, running, loaded⟩ := chronicle
  cases running with
  | none => exact .single (.start store loaded policyName now token)
  | some pass => exact .tail (.single (.stop store pass loaded)) (.start ..)

/-- A chronicle after the next step of its pass. -/
def advance (images : ImageSource) (chronicle : Chronicle) : Chronicle :=
  match chronicle.running with
  | some (.call request next) => {
      store := (chronicle.store.answer request).2
      running := some (next (chronicle.store.answer request).1)
      loaded := chronicle.loaded ++ request.loads (chronicle.store.answer request).1 }
  | some (.image request next) => { chronicle with running := some (next (images request)) }
  | some (.note _ next) => { chronicle with running := some next }
  | _ => chronicle

theorem steps_advance (images : ImageSource) (chronicle : Chronicle) :
    Steps key others chronicle (chronicle.advance images) := by
  obtain ⟨store, running, loaded⟩ := chronicle
  cases running with
  | none => exact .refl
  | some pass =>
      cases pass with
      | call request next => exact .single (.call ..)
      | image request next => exact .single (.image ..)
      | note feature next => exact .single (.note ..)
      | done progress => exact .refl
      | fail error => exact .refl
      | crash => exact .refl

theorem steps_advance_iterate (images : ImageSource) (chronicle : Chronicle) (number : Nat) :
    Steps key others chronicle ((advance images)^[number] chronicle) := by
  induction number generalizing chronicle with
  | zero => exact .refl
  | succ number inductionHypothesis =>
      exact .trans (steps_advance images chronicle) (inductionHypothesis _)

/-! ## What passes guarantee -/

variable {rest : AuditConfig → Store → Pass Progress → Prop}
  {kept : AuditConfig → Store → Store → Prop}

/-- A fact about what is left of a pass, the configuration that it has loaded and the cluster holds
from the loading on, whatever others do, and each call then keeps to a relation of the clusters
before and after it. -/
structure Guarantees (key : Key) (others : Store → Store → Prop)
    (rest : AuditConfig → Store → Pass Progress → Prop)
    (kept : AuditConfig → Store → Store → Prop) : Prop where
  loads : ∀ config store policyName now token, store.stored? .auditConfig key = some config →
    rest config store (Pass.proceed policyName now token config)
  call : ∀ config store request next, rest config store (.call request next) →
    kept config store (store.answer request).2 ∧
      rest config (store.answer request).2 (next (store.answer request).1)
  image : ∀ config store request next, rest config store (.image request next) →
    ∀ reply, rest config store (next reply)
  note : ∀ config store feature next, rest config store (.note feature next) →
    rest config store next
  others : ∀ config store after pass, others store after → rest config store pass →
    rest config after pass

/-- The pass that runs is about to load its configuration, or goes on from one that it has loaded,
or has no calls left. -/
def IsUnderway (key : Key) (rest : AuditConfig → Store → Pass Progress → Prop)
    (chronicle : Chronicle) : Prop :=
  ∀ pass, chronicle.running = some pass →
    (∃ policyName now token, pass = Pass.reconcile policyName key now token) ∨
    (∃ config ∈ chronicle.loaded, rest config chronicle.store pass) ∨
    pass.CallsOnly fun _ => False

theorem isUnderway_of_idle {store : Store} {loaded : List AuditConfig} :
    IsUnderway key rest { store, loaded } :=
  nofun

section Step

variable (guarantees : Guarantees key others rest kept) (underway : before.IsUnderway key rest)
  (stepped : Step key others before after)

include guarantees underway stepped

theorem IsUnderway.step : after.IsUnderway key rest := by
  cases stepped with
  | start store loaded policyName now token =>
      intro pass started
      cases started
      exact Or.inl ⟨policyName, now, token, rfl⟩
  | call store request next loaded =>
      intro pass followed
      cases followed
      rcases underway _ rfl with ⟨policyName, now, token, fresh⟩ | ⟨config, member, going⟩ | silent
      · rw [Pass.reconcile_eq_call] at fresh
        cases fresh
        cases looked : store.get .auditConfig key with
        | error error =>
            right; right
            simp only [answer, looked]
            trivial
        | ok found =>
            cases found with
            | none =>
                right; right
                simp only [answer, looked]
                trivial
            | some config =>
                right; left
                simp only [answer, looked]
                exact ⟨config, List.mem_append_right _ List.mem_cons_self,
                  guarantees.loads config store _ _ _ (stored?_of_get looked)⟩
      · have goesOn := (guarantees.call config store request next going).2
        exact Or.inr (Or.inl ⟨config, List.mem_append_left _ member, goesOn⟩)
      · exact absurd silent.1 id
  | image store request next loaded reply =>
      intro pass followed
      cases followed
      rcases underway _ rfl with ⟨policyName, now, token, fresh⟩ | ⟨config, member, going⟩ | silent
      · rw [Pass.reconcile_eq_call] at fresh
        cases fresh
      · exact Or.inr (Or.inl ⟨config, member, guarantees.image _ _ _ _ going reply⟩)
      · exact Or.inr (Or.inr (silent reply))
  | note store feature next loaded =>
      intro pass followed
      cases followed
      rcases underway _ rfl with ⟨policyName, now, token, fresh⟩ | ⟨config, member, going⟩ | silent
      · rw [Pass.reconcile_eq_call] at fresh
        cases fresh
      · exact Or.inr (Or.inl ⟨config, member, guarantees.note _ _ _ _ going⟩)
      · exact Or.inr (Or.inr silent)
  | stop store pass loaded => exact isUnderway_of_idle
  | others store changed running loaded may =>
      intro pass runs
      rcases underway pass runs with fresh | ⟨config, member, going⟩ | silent
      · exact Or.inl fresh
      · exact Or.inr (Or.inl ⟨config, member, guarantees.others _ _ _ _ may going⟩)
      · exact Or.inr (Or.inr silent)

/-- A step that changes the cluster is one of others, or keeps to what a pass guarantees from a
configuration that it has loaded. -/
theorem IsUnderway.store_cases :
    after.store = before.store ∨ others before.store after.store ∨
      ∃ config ∈ before.loaded, kept config before.store after.store := by
  cases stepped with
  | call store request next loaded =>
      rcases underway _ rfl with ⟨policyName, now, token, fresh⟩ | ⟨config, member, going⟩ | silent
      · rw [Pass.reconcile_eq_call] at fresh
        cases fresh
        exact Or.inl rfl
      · exact Or.inr (Or.inr ⟨config, member, (guarantees.call _ _ _ _ going).1⟩)
      · exact absurd silent.1 id
  | others store changed running loaded may => exact Or.inr (Or.inl may)
  | _ => exact Or.inl rfl

end Step

theorem IsUnderway.steps (guarantees : Guarantees key others rest kept)
    (underway : before.IsUnderway key rest) (steps : Steps key others before after) :
    after.IsUnderway key rest := by
  induction steps with
  | refl => exact underway
  | tail _ step inductionHypothesis => exact inductionHypothesis.step guarantees step

end Chronicle

end ClusterAudit
