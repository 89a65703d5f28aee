import ClusterAudit.Proofs.Chronicle
import ClusterAudit.Proofs.Naming
import ClusterAudit.Proofs.Reached
import ClusterAudit.Proofs.Work.Workloads
import ClusterAudit.Proofs.Writers

/-!
The scanner of an earlier release, while others write. A pass deletes it only right after a look
that has shown it to be owned, but what it deletes is what is stored by then. So one that the
configuration does not own goes only if others have written it between the look and the deletion.
-/

namespace ClusterAudit

/-- The answer to a call shows a deployment at a place that an identity owns. -/
def Call.ShowsOwned (place : Key) (uid : String) :
    (request : Call) → Except ClusterError request.Reply → Prop
  | .get .deployment key, .ok (some found) => key = place ∧ found.metadata.isOwnedBy uid = true
  | _, _ => False

/-- The call looks for no configuration. -/
def Call.LooksElsewhere : Call → Prop
  | .get kind _ => kind ≠ .auditConfig
  | .list kind _ _ => kind ≠ .auditConfig
  | _ => True

theorem Call.LooksElsewhere.kind_ne {request : Call} (elsewhere : request.LooksElsewhere)
    {reply : Except ClusterError request.Reply} {sighting : Sighting}
    (seen : sighting ∈ request.sightings reply) : sighting.kind ≠ .auditConfig := by
  cases request with
  | get kind key =>
      cases reply with
      | error error => cases seen
      | ok found =>
          cases found with
          | none => cases seen
          | some object =>
              cases List.mem_singleton.mp seen
              exact elsewhere
  | list kind namespaceName selector =>
      cases reply with
      | error error => cases seen
      | ok objects =>
          obtain ⟨object, _, rfl⟩ := List.mem_map.mp seen
          exact elsewhere
  | create kind namespaceName object => cases seen
  | replace kind key object => cases seen
  | delete kind key => cases seen
  | patchStatus kind key patch => cases seen

theorem Call.ShowsOwned.exists_look {place : Key} {uid : String} {store : Store} {request : Call}
    (shows : request.ShowsOwned place uid (store.answer request).1) :
    ∃ read, request = .get .deployment place ∧
      store.get .deployment place = .ok (some read) ∧ read.metadata.isOwnedBy uid = true := by
  cases request with
  | get kind key =>
      cases kind with
      | deployment =>
          cases found : store.get .deployment key with
          | error error => simp [Call.ShowsOwned, Store.answer, found] at shows
          | ok reply =>
              cases reply with
              | none => simp [Call.ShowsOwned, Store.answer, found] at shows
              | some read =>
                  have isOwned : key = place ∧ read.metadata.isOwnedBy uid = true := by
                    simpa [Call.ShowsOwned, Store.answer, found] using shows
                  obtain ⟨rfl, owned⟩ := isOwned
                  exact ⟨read, rfl, found, owned⟩
      | _ => cases shows
  | list kind namespaceName selector => cases shows
  | create kind namespaceName object => cases shows
  | replace kind key object => cases shows
  | delete kind key => cases shows
  | patchStatus kind key patch => cases shows

namespace Pass

variable {First Second Result : Type} {place : Key} {uid : String} {looked : Prop}

/-! ## Looks before deletions -/

/-- However its calls are answered, a pass deletes the deployment at a place only if its last call
was a look that has shown it to be owned. Whether that holds of the last call before is told by
`looked`. -/
def LooksFirst (place : Key) (uid : String) : Pass Result → (looked : Prop) → Prop
  | .done _, _ => True
  | .fail _, _ => True
  | .crash, _ => True
  | .call request next, looked => (request = .delete .deployment place → looked) ∧
      ∀ reply, LooksFirst place uid (next reply) (request.ShowsOwned place uid reply)
  | .image _ next, looked => ∀ reply, LooksFirst place uid (next reply) looked
  | .note _ next, looked => LooksFirst place uid next looked

theorem LooksFirst.mono {pass : Pass Result} {weaker : Prop}
    (looksFirst : pass.LooksFirst place uid looked) (weakens : looked → weaker) :
    pass.LooksFirst place uid weaker := by
  induction pass with
  | done result => trivial
  | fail error => trivial
  | crash => trivial
  | call request next _ => exact ⟨fun deletes => weakens (looksFirst.1 deletes), looksFirst.2⟩
  | image request next inductionHypothesis =>
      exact fun reply => inductionHypothesis reply (looksFirst reply)
  | note feature next inductionHypothesis => exact inductionHypothesis looksFirst

/-- A pass that never deletes the deployment needs no look. -/
theorem looksFirst_of_callsOnly {pass : Pass Result}
    (calls : pass.CallsOnly (· ≠ .delete .deployment place)) (looked : Prop) :
    pass.LooksFirst place uid looked := by
  induction pass generalizing looked with
  | done result => trivial
  | fail error => trivial
  | crash => trivial
  | call request next inductionHypothesis =>
      exact ⟨fun deletes => absurd deletes calls.1,
        fun reply => inductionHypothesis reply (calls.2 reply) _⟩
  | image request next inductionHypothesis =>
      exact fun reply => inductionHypothesis reply (calls reply) looked
  | note feature next inductionHypothesis => exact inductionHypothesis calls looked

theorem looksFirst_bind {first : Pass First} {second : First → Pass Second}
    (firstLooks : first.LooksFirst place uid looked)
    (secondLooks : ∀ value, (second value).LooksFirst place uid False) :
    (first >>= second).LooksFirst place uid looked := by
  change (first.andThen second).LooksFirst place uid looked
  induction first generalizing looked with
  | done value => exact (secondLooks value).mono False.elim
  | fail error => trivial
  | crash => trivial
  | call request next inductionHypothesis =>
      exact ⟨firstLooks.1, fun reply => inductionHypothesis reply (firstLooks.2 reply)⟩
  | image request next inductionHypothesis =>
      exact fun reply => inductionHypothesis reply (firstLooks reply)
  | note feature next inductionHypothesis => exact inductionHypothesis firstLooks

/-! ## Features -/

theorem allowsUpkeep_ne_delete (kind : Kind) :
    AllowsUpkeep (· ≠ .delete .deployment place) kind where
  get _ := nofun
  list _ _ := nofun
  create _ _ := nofun
  replace _ _ := nofun

theorem delete_ne_delete_deployment {kind : Kind} (other : kind ≠ .deployment) (key : Key) :
    Call.delete kind key ≠ .delete .deployment place :=
  fun same => other (Call.delete.inj same).1

section

variable (context : PassContext)

/-- The scanner of an earlier release, by its place. -/
abbrev legacyKey : Key :=
  context.key (Naming.legacyWorkloadDeployment context.name)

/-- No other deployment of a configuration has the name of the configuration itself. -/
theorem delete_ne_legacy {suffix : String} (filled : suffix ≠ "") :
    Call.delete .deployment (context.key (context.name ++ suffix)) ≠
      .delete .deployment (legacyKey context) := by
  intro same
  have sameName := congrArg Key.name (Call.delete.inj same).2
  exact Naming.ne_append filled sameName.symm

theorem looksFirst_removeLegacy :
    (Workloads.removeLegacy context).LooksFirst (legacyKey context) context.owner.reference.uid
      False := by
  refine ⟨nofun, ?_⟩
  intro reply
  cases reply with
  | error error => trivial
  | ok found =>
      cases found with
      | none => trivial
      | some legacy =>
          change (ite _ _ _ : Pass Bool).LooksFirst _ _ _
          split
          · rename_i owned
            refine ⟨fun _ => ⟨rfl, owned⟩, ?_⟩
            intro answer
            cases answer with
            | ok deleted => trivial
            | error error =>
                change (ite _ _ _ : Pass Bool).LooksFirst _ _ _
                split <;> trivial
          · trivial

theorem looksFirst_converge (live desired : Deployment) (inventory : String) :
    (Workloads.converge context live desired inventory).LooksFirst (legacyKey context)
      context.owner.reference.uid False := by
  have updates : ∀ object : Deployment, (update context.namespaceName object >>= fun _ =>
      (pure .changed : Pass Outcome)).LooksFirst (legacyKey context) context.owner.reference.uid
        False :=
    fun object => looksFirst_bind
      (looksFirst_of_callsOnly (callsOnly_update (allowsUpkeep_ne_delete .deployment) _ _) _)
      fun _ => trivial
  rw [Workloads.converge]
  split
  · exact updates _
  · dsimp only
    split
    · exact updates _
    · rw [Workloads.settle]
      split
      · trivial
      · exact looksFirst_bind (looksFirst_removeLegacy context) fun _ => trivial

theorem looksFirst_workloads_reconcile :
    (Workloads.reconcile context).LooksFirst (legacyKey context) context.owner.reference.uid
      False := by
  have configMaps : AllowsUpkeep (· ≠ .delete .deployment (legacyKey context)) .configMap :=
    allowsUpkeep_ne_delete .configMap
  apply looksFirst_bind (looksFirst_of_callsOnly (callsOnly_ensure (configMaps.ensuring _ _)) _)
  intro change
  split
  · trivial
  · apply looksFirst_bind (looksFirst_of_callsOnly (callsOnly_resolve _) _)
    intro image
    apply looksFirst_bind (looksFirst_of_callsOnly
      (callsOnly_createIfAbsent ((allowsUpkeep_ne_delete .deployment).ensuring _ _)) _)
    intro applied
    cases applied with
    | created object => trivial
    | existing live => exact looksFirst_converge context _ _ _

/-- Apart from the end of a pass over the scanner, no feature deletes the deployment that has the
name of the configuration. -/
theorem looksFirst_run (feature : Feature) :
    (feature.run context).LooksFirst (legacyKey context) context.owner.reference.uid False := by
  have upkeep : ∀ kind, AllowsUpkeep (· ≠ .delete .deployment (legacyKey context)) kind :=
    allowsUpkeep_ne_delete
  have others : ∀ kind, kind ≠ .deployment → ∀ key : Key,
      Call.delete kind key ≠ .delete .deployment (legacyKey context) :=
    fun _ other => delete_ne_delete_deployment other
  rw [Feature.run]
  cases feature with
  | workloads =>
      split
      · exact looksFirst_workloads_reconcile context
      · apply looksFirst_of_callsOnly
        exact callsOnly_workloads_tearDown context (delete_ne_legacy context (by decide))
          (others _ (by decide) _)
  | nodes =>
      apply looksFirst_of_callsOnly
      split
      · exact callsOnly_nodes_reconcile context (upkeep _) (upkeep _) (upkeep _)
          (others _ (by decide))
      · exact callsOnly_nodes_tearDown context ((upkeep _).list _) (others _ (by decide))
          (others _ (by decide) _)
  | admission =>
      apply looksFirst_of_callsOnly
      split
      · exact callsOnly_admission_reconcile context (upkeep _)
          (callsOnly_ensureCluster ((upkeep _).get _) ((upkeep _).create _ _)
            ((upkeep _).replace _))
          (fun _ => (upkeep _).ensuring _ _) fun _ _ => (upkeep _).replace _ _
      · exact callsOnly_admission_tearDown context (fun _ _ => (upkeep _).replace _ _)
          (others _ (by decide) _) (delete_ne_legacy context (by decide))
          (others _ (by decide) _)
  | scanApi =>
      apply looksFirst_of_callsOnly
      split
      · exact callsOnly_scanApi_reconcile context (upkeep _).create
          (fun _ => (upkeep _).ensuring _ _) (upkeep _)
      · exact callsOnly_scanApi_tearDown context (others _ (by decide) _)
          (delete_ne_legacy context (by decide)) (others _ (by decide) _)

theorem looksFirst_runFeatures (features : List Feature) :
    (runFeatures context features).LooksFirst (legacyKey context) context.owner.reference.uid
      False := by
  induction features with
  | nil => trivial
  | cons feature rest inductionHypothesis =>
      apply looksFirst_bind (looksFirst_run context feature)
      intro outcome
      cases outcome.progress with
      | requeue => trivial
      | done => exact looksFirst_bind inductionHypothesis fun _ => trivial

end

/-! ## Whole passes -/

variable {config : AuditConfig} {owner : Owner} {policyName : String} {now : Instant}
  {token : String}

/-- A pass over a configuration deletes the scanner of an earlier release only after a look. -/
theorem looksFirst_proceed (owned : Owner.of config = .ok owner) :
    (proceed policyName now token config).LooksFirst
      (owner.key (Naming.legacyWorkloadDeployment owner.name)) owner.reference.uid False := by
  rw [proceed]
  split
  · apply looksFirst_of_callsOnly
    exact callsOnly_bind (callsOnly_finalize (fun _ _ => nofun) fun _ _ => nofun) fun _ => trivial
  · apply looksFirst_bind
      (looksFirst_of_callsOnly (callsOnly_operatorPolicy policyName fun _ => nofun) _)
    intro policy
    rw [owned]
    apply looksFirst_bind (looksFirst_runFeatures { config, owner, policy, now, token } _)
    intro result
    apply looksFirst_of_callsOnly
    exact callsOnly_bind (callsOnly_persistStatus _ _ (fun _ _ => nofun) fun _ _ => nofun)
      fun _ => trivial

theorem allowsKind_looksElsewhere {kind : Kind} (notConfig : kind ≠ .auditConfig) :
    AllowsKind Call.LooksElsewhere kind where
  get _ := notConfig
  list _ _ := notConfig
  create _ _ := trivial
  replace _ _ := trivial
  delete _ := trivial

theorem looksElsewhere_proceed :
    (proceed policyName now token config).CallsOnly Call.LooksElsewhere := by
  rw [proceed]
  split
  · exact callsOnly_bind (callsOnly_finalize (fun _ _ => trivial) fun _ _ => trivial)
      fun _ => trivial
  · apply callsOnly_reconcileFeatures
    · exact fun _ => nofun
    · intro policy owner _
      exact callsOnly_run _ (fun _ notConfig => allowsKind_looksElsewhere notConfig)
        fun _ _ => trivial
    · exact fun _ _ => nofun
    · exact fun _ _ => trivial

end Pass

/-! ## Runs -/

namespace Session

variable {origin session before after : Session} {place : Key} {uid : String}

/-- Since the pass has looked at a place and found an owned deployment, only others have written. -/
def HasLooked (origin session : Session) (place : Key) (uid : String) : Prop :=
  ∃ looking next read,
    Relation.ReflTransGen Step origin looking ∧
    looking.rest = .call (.get .deployment place) next ∧
    looking.store.get .deployment place = .ok (some read) ∧
    read.metadata.isOwnedBy uid = true ∧
    Relation.ReflTransGen Store.Write looking.store session.store

/-- The pass deletes the deployment at a place only after a look. -/
def IsGuided (origin session : Session) (place : Key) (uid : String) : Prop :=
  ∃ looked, session.rest.LooksFirst place uid looked ∧ (looked → HasLooked origin session place uid)

theorem IsGuided.step (reached : Relation.ReflTransGen Step origin before)
    (isGuided : IsGuided origin before place uid) (step : Step before after) :
    IsGuided origin after place uid := by
  obtain ⟨looked, looksFirst, hasLooked⟩ := isGuided
  cases step with
  | call store request next seen =>
      refine ⟨_, looksFirst.2 _, ?_⟩
      intro shows
      obtain ⟨read, isLook, found, owned⟩ := shows.exists_look
      subst isLook
      exact ⟨_, next, read, reached, rfl, found, owned, .refl⟩
  | image store request next seen reply => exact ⟨looked, looksFirst reply, hasLooked⟩
  | note store feature next seen => exact ⟨looked, looksFirst, hasLooked⟩
  | write store after rest seen write =>
      refine ⟨looked, looksFirst, ?_⟩
      intro held
      obtain ⟨looking, next, read, steps, looks, found, owned, writes⟩ := hasLooked held
      exact ⟨looking, next, read, steps, looks, found, owned, writes.tail write⟩

/-- A pass that has yet to load its configuration, or that looks for no other one, and deletes only
after a look whatever configuration it has loaded. -/
def IsMindful (policyName : String) (key : Key) (now : Instant) (token : String)
    (origin session : Session) : Prop :=
  session.rest = Pass.reconcile policyName key now token ∧ session.seen = [] ∨
    session.rest.CallsOnly Call.LooksElsewhere ∧ ∀ config owner,
      ⟨.auditConfig, config⟩ ∈ session.seen → Owner.of config = .ok owner →
        IsGuided origin session (owner.key (Naming.legacyWorkloadDeployment owner.name))
          owner.reference.uid

variable {policyName : String} {key : Key} {now : Instant} {token : String}

/-- The first call of a pass loads its configuration. -/
theorem isMindful_of_loaded {store : Store} (reply : Except ClusterError (Option AuditConfig)) :
    IsMindful policyName key now token origin {
      store
      rest := Pass.loaded policyName now token reply
      seen := Call.sightings (.get .auditConfig key) reply } := by
  right
  cases reply with
  | error error =>
      refine ⟨trivial, ?_⟩
      intro config owner seen
      cases seen
  | ok found =>
      cases found with
      | none =>
          refine ⟨trivial, ?_⟩
          intro config owner seen
          cases seen
      | some config =>
          refine ⟨Pass.looksElsewhere_proceed, ?_⟩
          intro other owner seen owned
          cases List.mem_singleton.mp seen
          exact ⟨False, Pass.looksFirst_proceed owned, False.elim⟩

theorem IsMindful.step (reached : Relation.ReflTransGen Step origin before)
    (isMindful : IsMindful policyName key now token origin before) (step : Step before after) :
    IsMindful policyName key now token origin after := by
  rcases isMindful with ⟨atStart, unseen⟩ | ⟨elsewhere, isGuided⟩
  · rw [Pass.reconcile_eq_call] at atStart
    cases step with
    | call store request next seen =>
        cases atStart
        cases unseen
        exact isMindful_of_loaded _
    | image store request next seen reply => cases atStart
    | note store feature next seen => cases atStart
    | write store after rest seen write =>
        left
        exact ⟨atStart.trans (Pass.reconcile_eq_call ..).symm, unseen⟩
  · right
    have stillGuided : ∀ config owner, ⟨.auditConfig, config⟩ ∈ before.seen →
        Owner.of config = .ok owner → IsGuided origin after _ _ :=
      fun config owner seen owned => (isGuided config owner seen owned).step reached step
    cases step with
    | call store request next seen =>
        refine ⟨elsewhere.2 _, ?_⟩
        intro config owner member owned
        rcases List.mem_append.mp member with earlier | now
        · exact stillGuided config owner earlier owned
        · exact absurd rfl (elsewhere.1.kind_ne now)
    | image store request next seen reply => exact ⟨elsewhere reply, stillGuided⟩
    | note store feature next seen => exact ⟨elsewhere, stillGuided⟩
    | write store after rest seen write => exact ⟨elsewhere, stillGuided⟩

theorem isMindful_of_steps {store : Store}
    (steps : Relation.ReflTransGen Step (start store policyName key now token) session) :
    IsMindful policyName key now token (start store policyName key now token) session := by
  induction steps with
  | refl => exact Or.inl ⟨rfl, rfl⟩
  | tail steps step inductionHypothesis => exact inductionHypothesis.step steps step

end Session

theorem Store.Remembers.writes {before after : Store} {kind : Kind} {object : Object kind}
    (remembers : before.Remembers kind object)
    (writes : Relation.ReflTransGen Store.Write before after) : after.Remembers kind object := by
  induction writes with
  | refl => exact remembers
  | tail _ write inductionHypothesis =>
      obtain ⟨_, _, evolves⟩ := write.exists_evolves
      exact inductionHypothesis.evolves evolves

/-- Whatever others do between the calls of a pass, it deletes the scanner of an earlier release
only after a look that has shown it to be owned, and nobody but others has written since. If what is
stored by then still has the version that was seen, the configuration owns it. -/
theorem deletes_legacy_after_look {store : Store} {policyName : String} {key place : Key}
    {now : Instant} {token : String} {session : Session}
    {next : Except ClusterError Unit → Pass Progress} {config : AuditConfig} {owner : Owner}
    (reachable : store.IsReachable)
    (steps : Relation.ReflTransGen Session.Step (Session.start store policyName key now token)
      session)
    (loaded : ⟨.auditConfig, config⟩ ∈ session.seen) (owned : Owner.of config = .ok owner)
    (isLegacy : place = owner.key (Naming.legacyWorkloadDeployment owner.name))
    (deletes : session.rest = .call (.delete .deployment place) next) :
    ∃ looking goesOn read,
      Relation.ReflTransGen Session.Step (Session.start store policyName key now token) looking ∧
      looking.rest = .call (.get .deployment place) goesOn ∧
      looking.store.get .deployment place = .ok (some read) ∧
      read.metadata.isOwnedBy owner.reference.uid = true ∧
      Relation.ReflTransGen Store.Write looking.store session.store ∧
      ∀ current, session.store.find? .deployment place = some current →
        current.metadata.resourceVersion = read.metadata.resourceVersion →
          current.metadata.isOwnedBy owner.reference.uid = true := by
  subst isLegacy
  rcases Session.isMindful_of_steps steps with ⟨_, unseen⟩ | ⟨_, isGuided⟩
  · rw [unseen] at loaded
    cases loaded
  · obtain ⟨looked, looksFirst, hasLooked⟩ := isGuided config owner loaded owned
    rw [deletes] at looksFirst
    obtain ⟨looking, goesOn, read, before, looks, found, isOwned, writes⟩ :=
      hasLooked (looksFirst.1 rfl)
    refine ⟨looking, goesOn, read, before, looks, found, isOwned, writes, ?_⟩
    intro current there sameVersion
    have isSound := (Session.isSound_start reachable policyName key now token).steps before
    have remembers := (Store.remembers_of_stored? isSound.versioned
      (Store.stored?_of_get found)).writes writes
    obtain ⟨current', there', sameMetadata, _⟩ := (remembers.hasStill_iff there).mpr sameVersion
    cases there.symm.trans there'
    rw [sameMetadata]
    exact isOwned

/-! ## Passes that come to a deletion -/

namespace Pass

variable {First Second Result : Type} {images : ImageSource} {request : Call}
  {store middle reached : Store}

/-- Running alone, a pass comes to make a call, and finds the given store then. -/
def ComesTo (images : ImageSource) (request : Call) (reached : Store) :
    Pass Result → Store → Prop
  | .call other next, store => other = request ∧ store = reached ∨
      ComesTo images request reached (next (store.answer other).1) (store.answer other).2
  | .image other next, store => ComesTo images request reached (next (images other)) store
  | .note _ next, store => ComesTo images request reached next store
  | _, _ => False

theorem ComesTo.bind {first : Pass First} (comes : first.ComesTo images request reached store)
    (second : First → Pass Second) : (first >>= second).ComesTo images request reached store := by
  change (first.andThen second).ComesTo images request reached store
  induction first generalizing store with
  | done value => cases comes
  | fail error => cases comes
  | crash => cases comes
  | call other next inductionHypothesis => exact comes.imp id (inductionHypothesis _)
  | image other next inductionHypothesis => exact inductionHypothesis _ comes
  | note feature next inductionHypothesis => exact inductionHypothesis comes

/-- A sequence comes to what its second part comes to after the first one is done. -/
theorem comesTo_bind_of_done {first : Pass First} {second : First → Pass Second} {value : First}
    (ended : first.runOn images store = (.done value, middle))
    (comes : (second value).ComesTo images request reached middle) :
    (first >>= second).ComesTo images request reached store := by
  change (first.andThen second).ComesTo images request reached store
  induction first generalizing store with
  | done result =>
      cases ended
      exact comes
  | fail error => cases ended
  | crash => cases ended
  | call other next inductionHypothesis => exact Or.inr (inductionHypothesis _ ended)
  | image other next inductionHypothesis => exact inductionHypothesis _ ended
  | note feature next inductionHypothesis => exact inductionHypothesis ended

theorem ComesTo.exists_session {pass : Pass Progress}
    (comes : pass.ComesTo images request reached store) (seen : List Sighting) :
    ∃ next later, seen ⊆ later ∧ Relation.ReflTransGen Session.Step { store, rest := pass, seen }
      { store := reached, rest := .call request next, seen := later } := by
  induction pass generalizing store seen with
  | done result => cases comes
  | fail error => cases comes
  | crash => cases comes
  | call other next inductionHypothesis =>
      rcases comes with ⟨rfl, rfl⟩ | comes
      · exact ⟨next, seen, List.Subset.refl seen, .refl⟩
      · obtain ⟨last, later, includes, steps⟩ := inductionHypothesis _ comes
          (seen ++ other.sightings (store.answer other).1)
        exact ⟨last, later, List.Subset.trans (List.subset_append_left _ _) includes,
          .head (.call store other next seen) steps⟩
  | image other next inductionHypothesis =>
      obtain ⟨last, later, includes, steps⟩ := inductionHypothesis _ comes seen
      exact ⟨last, later, includes, .head (.image store other next seen _) steps⟩
  | note feature next inductionHypothesis =>
      obtain ⟨last, later, includes, steps⟩ := inductionHypothesis comes seen
      exact ⟨last, later, includes, .head (.note store feature next seen) steps⟩

/-- The scanner of a configuration is in place, and one of an earlier release is left that the
configuration owns. -/
structure Succeeds (context : PassContext) (images : ImageSource) (store : Store) : Prop where
  enabled : context.spec.workloads.enable = true
  cleans : context.policy.disableLegacyWorkloadCleanup = false
  configMap :
    store.holds Managed.sameConfigMap (context.key (Naming.workloadConfigMap context.name))
      (Template.Workloads.configMap context.owner (Workloads.inventory context.owner)) = true
  deployment :
    ∃ image live, images (Workloads.request (context.aim images)) = .ok image ∧
      store.stored? .deployment (context.key (Naming.workloadDeployment context.name)) =
        some live ∧
      Managed.sameDeploymentAndResources live (Template.Workloads.deployment context.spec
        context.owner image (Workloads.inventory context.owner)) = true ∧
      Template.Workloads.podRevision? live =
        some (Inventory.revision (Workloads.inventory context.owner))
  legacy :
    ∃ old, store.stored? .deployment (legacyKey context) = some old ∧
      old.metadata.isOwnedBy context.owner.reference.uid = true

namespace Succeeds

variable {context : PassContext} (quiet : store.faults = [])
  (succeeds : Succeeds context images store)

include quiet succeeds

theorem comesTo_converge {live desired : Deployment}
    (agree : Managed.sameDeploymentAndResources live desired = true)
    (current : Template.Workloads.podRevision? live =
      some (Inventory.revision (Workloads.inventory context.owner))) :
    (Workloads.converge context live desired (Workloads.inventory context.owner)).ComesTo images
      (.delete .deployment (legacyKey context)) store store := by
  obtain ⟨old, present, owned⟩ := succeeds.legacy
  simp only [Workloads.converge, agree, current, Workloads.settle, succeeds.cleans, Bool.not_true,
    bne_self_eq_false, Bool.false_eq_true, if_false]
  have looked : (get .deployment (legacyKey context)).runOn images store =
      (.done (some old), store) := (runOn_get_eq_done_iff quiet).mpr ⟨present, rfl⟩
  apply ComesTo.bind
  apply comesTo_bind_of_done looked
  simp only [owned, if_true]
  exact Or.inl ⟨rfl, rfl⟩

theorem comesTo_reconcile :
    (Workloads.reconcile context).ComesTo images (.delete .deployment (legacyKey context)) store
      store := by
  obtain ⟨image, live, answered, present, agree, current⟩ := succeeds.deployment
  apply comesTo_bind_of_done ((runOn_ensure_eq_unchanged_iff quiet).mpr ⟨succeeds.configMap, rfl⟩)
  apply comesTo_bind_of_done (runOn_resolve_eq_done_iff.mpr ⟨answered, rfl⟩)
  apply comesTo_bind_of_done ((runOn_createIfAbsent_eq_existing_iff quiet).mpr ⟨present, rfl⟩)
  exact succeeds.comesTo_converge quiet agree current

end Succeeds

/-- A pass over such a configuration comes to delete the scanner of the earlier release. -/
theorem comesTo_reconcileFeatures {policyName : String} {config : AuditConfig} {owner : Owner}
    {now : Instant} {token : String} (quiet : store.faults = [])
    (owned : Owner.of config = .ok owner)
    (succeeds : Succeeds { config, owner, policy := store.policy policyName, now, token } images
      store) :
    (reconcileFeatures policyName config now token).ComesTo images
      (.delete .deployment (owner.key (Naming.legacyWorkloadDeployment owner.name))) store
      store := by
  apply comesTo_bind_of_done (runOn_operatorPolicy quiet)
  apply comesTo_bind_of_done (runOn_configured_eq_done_iff.mpr ⟨owned, rfl⟩)
  apply ComesTo.bind
  apply ComesTo.bind
  rw [Feature.run]
  split
  · exact succeeds.comesTo_reconcile quiet
  · rename_i disabled
    exact absurd succeeds.enabled disabled

end Pass

/-- A pass that starts over such a configuration, with nobody else at work, is about to delete the
scanner of the earlier release at some point. -/
theorem Session.exists_deleting {store : Store} {images : ImageSource} {policyName : String}
    {key : Key} {config : AuditConfig} {owner : Owner} {now : Instant} {token : String}
    (quiet : store.faults = []) (current : store.stored? .auditConfig key = some config)
    (stays : config.metadata.deletionTimestamp = none) (owned : Owner.of config = .ok owner)
    (succeeds : Pass.Succeeds
      { config, owner, policy := store.policy policyName, now, token } images store) :
    ∃ next seen, ⟨.auditConfig, config⟩ ∈ seen ∧
      Relation.ReflTransGen Step (start store policyName key now token) {
        store
        rest := .call (.delete .deployment
          (owner.key (Naming.legacyWorkloadDeployment owner.name))) next
        seen } := by
  have answered : store.answer (.get .auditConfig key) = (.ok (some config), store) := by
    have looked : store.get .auditConfig key = .ok (some config) :=
      (Store.get_eq_ok_iff quiet).mpr current
    rw [Store.answer, looked]
  have comes := Pass.comesTo_reconcileFeatures quiet owned succeeds
  obtain ⟨next, later, includes, steps⟩ := comes.exists_session [⟨.auditConfig, config⟩]
  refine ⟨next, later, includes List.mem_cons_self, ?_⟩
  have loads : Step (start store policyName key now token) {
      store
      rest := Pass.reconcileFeatures policyName config now token
      seen := [⟨.auditConfig, config⟩] } := by
    have step := Step.call store (.get .auditConfig key) (Pass.loaded policyName now token) []
    rw [answered, ← Pass.reconcile_eq_call] at step
    have goesOn : Pass.loaded policyName now token (.ok (some config)) =
        Pass.reconcileFeatures policyName config now token := by
      simp only [Pass.loaded, Pass.proceed, stays, Option.isSome_none, Bool.false_eq_true, if_false]
    rw [goesOn] at step
    exact step
  exact .head loads steps

/-! ## A scanner that somebody else takes over -/

def scannerConfig : AuditConfig :=
  { bareConfig with content := { workloads := { enable := true } } }

/-- A deployment under the name that earlier releases used. -/
def oldScanner (owners : List OwnerReference) : Deployment where
  metadata := { name := some "audit", owners := some owners }
  content := none

/-- A cluster in which the scanner is in place and the one of an earlier release is left. -/
def upgradedStore : Store :=
  let configured := Store.empty.insert .auditConfig "security" scannerConfig
  let listed := configured.insert .configMap "security"
    (Template.Workloads.configMap bareOwner (Pass.Workloads.inventory bareOwner))
  let deployed := listed.insert .deployment "security"
    (Template.Workloads.deployment scannerConfig.content bareOwner "image"
      (Pass.Workloads.inventory bareOwner))
  deployed.insert .deployment "security" (oldScanner [bareOwner.reference])

theorem isReachable_upgradedStore : upgradedStore.IsReachable :=
  .tail (.tail (.tail (.single (.insert Store.empty .auditConfig "security" scannerConfig))
    (.insert _ _ _ _)) (.insert _ _ _ _)) (.insert _ _ _ _)

theorem succeeds_upgradedStore :
    Pass.Succeeds {
      config := scannerConfig
      owner := bareOwner
      policy := upgradedStore.policy "default"
      now := { seconds := 0, nanos := 0 }
      token := "token" } (fun _ => .ok "image") upgradedStore where
  enabled := rfl
  cleans := rfl
  configMap := by
    apply Store.holds_iff.mpr
    refine ⟨_, rfl, (Managed.settles_configMap _).created _ ?_⟩
    exact { owners := rfl, labels := rfl, content := rfl }
  deployment := by
    have settled := @Pass.Workloads.settled_of_created {
      spec := scannerConfig.content
      owner := bareOwner
      policy := upgradedStore.policy "default"
      images := fun _ => .ok "image" }
    refine ⟨"image", _, rfl, rfl, settled ?_⟩
    exact { owners := rfl, labels := rfl, content := rfl }
  legacy := ⟨_, rfl, by decide⟩

/-- The place of the scanner of the earlier release. -/
def oldPlace : Key :=
  bareOwner.key (Naming.legacyWorkloadDeployment bareOwner.name)

def upgrading : Session :=
  .start upgradedStore "default" bareOwner.configKey { seconds := 0, nanos := 0 } "token"

theorem exists_upgrading_deletes :
    ∃ next seen, ⟨.auditConfig, scannerConfig⟩ ∈ seen ∧
      Relation.ReflTransGen Session.Step upgrading
        { store := upgradedStore, rest := .call (.delete .deployment oldPlace) next, seen } := by
  have current : upgradedStore.stored? .auditConfig bareOwner.configKey = some scannerConfig := by
    with_unfolding_all rfl
  exact Session.exists_deleting rfl current rfl rfl succeeds_upgradedStore

/-- A pass over this cluster deletes the old scanner, which the configuration owns. -/
theorem deletes_legacy_upgradedStore :
    upgradedStore.IsReachable ∧ Owner.of scannerConfig = .ok bareOwner ∧
      ∃ session next, Relation.ReflTransGen Session.Step upgrading session ∧
        ⟨.auditConfig, scannerConfig⟩ ∈ session.seen ∧
        session.rest = .call (.delete .deployment oldPlace) next ∧
        ∃ looking goesOn read,
          Relation.ReflTransGen Session.Step upgrading looking ∧
          looking.rest = .call (.get .deployment oldPlace) goesOn ∧
          looking.store.get .deployment oldPlace = .ok (some read) ∧
          read.metadata.isOwnedBy bareOwner.reference.uid = true ∧
          Relation.ReflTransGen Store.Write looking.store session.store ∧
          ∀ current, session.store.find? .deployment oldPlace = some current →
            current.metadata.resourceVersion = read.metadata.resourceVersion →
              current.metadata.isOwnedBy bareOwner.reference.uid = true := by
  obtain ⟨next, seen, loaded, steps⟩ := exists_upgrading_deletes
  refine ⟨isReachable_upgradedStore, rfl, _, next, steps, loaded, rfl, ?_⟩
  exact deletes_legacy_after_look isReachable_upgradedStore steps loaded rfl rfl rfl

/-- Somebody else's deployment. -/
def foreignScanner : Deployment :=
  oldScanner [{ bareOwner.reference with name := "other", uid := "uid-other" }]

/-- Somebody else puts a deployment in the place of the old scanner after the pass has looked at it.
The pass deletes it all the same. -/
theorem exists_unowned_deleted :
    upgradedStore.IsReachable ∧ Owner.of scannerConfig = .ok bareOwner ∧
      ∃ session next, Relation.ReflTransGen Session.Step upgrading session ∧
        ⟨.auditConfig, scannerConfig⟩ ∈ session.seen ∧
        session.rest = .call (.delete .deployment oldPlace) next ∧
        (∃ current, session.store.find? .deployment oldPlace = some current ∧
          current.metadata.isOwnedBy bareOwner.reference.uid = false) ∧
        (session.store.delete .deployment oldPlace).1 = .ok () ∧
        (session.store.delete .deployment oldPlace).2.find? .deployment oldPlace = none := by
  obtain ⟨next, seen, loaded, steps⟩ := exists_upgrading_deletes
  have takenOver : Session.Step
      { store := upgradedStore, rest := .call (.delete .deployment oldPlace) next, seen } _ :=
    .write _ _ _ _ (.insert upgradedStore .deployment "security" foreignScanner)
  refine ⟨isReachable_upgradedStore, rfl, _, next, .tail steps takenOver, loaded, rfl,
    ⟨_, rfl, by decide⟩, rfl, ?_⟩
  exact Store.find?_erase_self

end ClusterAudit
