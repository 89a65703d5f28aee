import ClusterAudit.Proofs.Chronicle
import ClusterAudit.Proofs.Log
import ClusterAudit.Proofs.Reached

/-!
The token of the scan API. Every pass that brings the scan API into place offers a fresh one, and
none ever takes it: what is stored stays, for as long as the configuration needs the scan API.
-/

namespace ClusterAudit

open Store Pass

/-! ## Calls that leave secrets -/

/-- The call leaves the secrets that there are. It may offer another one. -/
def Call.SparesSecrets : Call → Prop
  | .replace kind _ _ => kind ≠ .secret
  | .delete kind _ => kind ≠ .secret
  | .patchStatus kind _ _ => kind ≠ .secret
  | _ => True

namespace Store

/-- A secret is offered in vain where there is one. -/
theorem find?_secret_answer {store : Store} {request : Call} {place : Key}
    {stored : Stored .secret} (spares : request.SparesSecrets)
    (found : store.find? .secret place = some stored) :
    (store.answer request).2.find? .secret place = some stored := by
  by_cases named : ∃ entry,
      request.entry? = some entry ∧ entry.kind = .secret ∧ entry.key = place
  · obtain ⟨entry, written, isSecret, rfl⟩ := named
    cases request with
    | get kind key => cases written
    | list kind namespaceName selector => cases written
    | replace kind key object =>
        cases written
        exact absurd isSecret spares
    | delete kind key =>
        cases written
        exact absurd isSecret spares
    | patchStatus kind key patch =>
        cases written
        exact absurd isSecret spares
    | create kind namespaceName object =>
        cases written
        cases isSecret
        rcases store.create_cases .secret namespaceName object with
          ⟨same, _⟩ | ⟨created, free, _⟩
        · rw [same]
          exact found
        · cases found.symm.trans free
  · exact (find?_answer_of_elsewhere named).trans found

end Store

/-! ## Passes that leave secrets -/

/-- A configuration that stays needs the scan API. -/
def AuditConfig.NeedsToken (config : AuditConfig) : Prop :=
  config.metadata.deletionTimestamp = none → config.content.scanApiEnabled = true

namespace Pass

variable {config : AuditConfig}

theorem sparesSecrets_run {context : PassContext}
    (enabled : context.config.content.scanApiEnabled = true) (feature : Feature) :
    (feature.run context).CallsOnly Call.SparesSecrets := by
  apply callsOnly_run_of_tokens
  · intro kind _ notSecret
    exact {
      get := fun _ => trivial
      list := fun _ _ => trivial
      create := fun _ _ => trivial
      replace := fun _ _ => notSecret
      delete := fun _ => notSecret }
  · exact fun _ _ => trivial
  · intro disabled
    rw [PassContext.spec, enabled] at disabled
    cases disabled
  · exact fun _ _ => nofun

theorem sparesSecrets_proceed (needsToken : config.NeedsToken) (policyName : String)
    (now : Instant) (token : String) :
    (proceed policyName now token config).CallsOnly Call.SparesSecrets := by
  rw [proceed]
  split
  · have finalizes : (Admission.finalize config).CallsOnly Call.SparesSecrets :=
      callsOnly_finalize (fun _ _ => nofun) fun _ _ => nofun
    exact callsOnly_bind finalizes fun _ => trivial
  · rename_i stays
    have enabled : config.content.scanApiEnabled = true :=
      needsToken (Option.not_isSome_iff_eq_none.mp stays)
    apply callsOnly_reconcileFeatures
    · exact fun _ => trivial
    · exact fun policy owner _ feature => sparesSecrets_run enabled feature
    · exact fun _ _ => trivial
    · exact fun _ _ => nofun

end Pass

/-! ## Runs -/

namespace Chronicle

variable {key : Key} {before after : Chronicle}

/-- All secrets that are stored before are stored after, as they were. -/
def KeepsSecrets (before after : Store) : Prop :=
  ∀ place stored, before.find? .secret place = some stored →
    after.find? .secret place = some stored

theorem guarantees_secrets (key : Key) (others : Store → Store → Prop) :
    Guarantees key others
      (fun config _ pass => config.NeedsToken → pass.CallsOnly Call.SparesSecrets)
      (fun config before after => config.NeedsToken → KeepsSecrets before after) where
  loads _ _ policyName now token _ needsToken :=
    sparesSecrets_proceed needsToken policyName now token
  call _ _ _ _ spares :=
    ⟨fun needsToken _ _ found => find?_secret_answer (spares needsToken).1 found,
      fun needsToken => (spares needsToken).2 _⟩
  image _ _ _ _ spares reply needsToken := spares needsToken reply
  note _ _ _ _ spares := spares
  others _ _ _ _ _ spares := spares

/-- Where the token of a configuration is stored. -/
def tokenPlace (key : Key) : Key where
  namespaceName := key.namespaceName
  name := Naming.scanApiSecret key.name

/-- What others may do that leaves the token of a configuration as it is, if there is one. -/
def LeavesToken (key : Key) (before after : Store) : Prop :=
  after.find? .secret (tokenPlace key) = before.find? .secret (tokenPlace key)

/-- The token of a configuration that needs the scan API whenever a pass has loaded it. Once it is
stored it stays, its value, its version and all, however passes end and whatever they are answered,
and whatever others do but to the token. -/
theorem token_stays {initial : Store} {middle last : Chronicle} {stored : Stored .secret}
    (earlier : Steps key (fun _ _ => True) { store := initial } middle)
    (given : middle.store.find? .secret (tokenPlace key) = some stored)
    (later : Steps key (LeavesToken key) middle last)
    (needed : ∀ config ∈ last.loaded, config.metadata.deletionTimestamp = none →
      config.content.scanApi.enable = true ∨ config.content.admission.enable = true) :
    last.store.find? .secret (tokenPlace key) = some stored := by
  have underway := isUnderway_of_idle.steps (guarantees_secrets key fun _ _ => True) earlier
  induction later with
  | refl => exact given
  | @tail before after moves step inductionHypothesis =>
      have neededBefore : ∀ config ∈ before.loaded, config.metadata.deletionTimestamp = none →
          config.content.scanApi.enable = true ∨ config.content.admission.enable = true :=
        fun config member => needed config (step.loaded_extends.subset member)
      have kept := inductionHypothesis neededBefore
      have guarantees := guarantees_secrets key (LeavesToken key)
      rcases (underway.steps guarantees moves).store_cases guarantees step with
        same | others | ⟨config, member, keeps⟩
      · rwa [same]
      · exact others.trans kept
      · refine keeps ?_ _ _ kept
        intro stays
        exact Bool.or_eq_true_iff.mpr (neededBefore config member stays)

/-! ## A token that is offered twice -/

/-- A configuration that asks for the scan API. -/
def scanApiConfig : AuditConfig :=
  { bareConfig with content := { scanApi := { enable := true } } }

/-- A pass over a new configuration has stored a token. -/
def tokenGiven : Chronicle :=
  (advance fun _ => .ok "image")^[11]
    (begin { store := Store.empty.insert .auditConfig "security" scanApiConfig } "default"
      bareOwner.configKey { seconds := 0, nanos := 0 } "first")

/-- Another pass has offered another token, and goes on. -/
def tokenOffered : Chronicle :=
  (advance fun _ => .ok "image")^[11]
    (tokenGiven.begin "default" bareOwner.configKey { seconds := 60, nanos := 0 } "second")

theorem loaded_tokenOffered :
    tokenOffered.loaded.map (fun config => config.content.scanApi.enable) = [true, true] := by
  decide +kernel

/-- The first token is still there. -/
theorem token_stays_tokenOffered : ∃ stored,
    stored.content = (Template.ScanApi.tokenSecret bareOwner "first").content ∧
      tokenGiven.store.find? .secret (tokenPlace bareOwner.configKey) = some stored ∧
      tokenOffered.store.find? .secret (tokenPlace bareOwner.configKey) = some stored := by
  obtain ⟨stored, given, isFirst⟩ : ∃ stored,
      tokenGiven.store.find? .secret (tokenPlace bareOwner.configKey) = some stored ∧
        stored.content = (Template.ScanApi.tokenSecret bareOwner "first").content :=
    ⟨_, rfl, rfl⟩
  have earlier : Steps bareOwner.configKey (fun _ _ => True)
      { store := Store.empty.insert .auditConfig "security" scanApiConfig } tokenGiven :=
    .trans (steps_begin _ _ _ _) (steps_advance_iterate _ _ _)
  have later : Steps bareOwner.configKey (LeavesToken bareOwner.configKey) tokenGiven
      tokenOffered :=
    .trans (steps_begin _ _ _ _) (steps_advance_iterate _ _ _)
  refine ⟨stored, isFirst, given, token_stays earlier given later ?_⟩
  intro config member _
  have shown : config.content.scanApi.enable ∈ [true, true] := by
    rw [← loaded_tokenOffered]
    exact List.mem_map_of_mem member
  exact Or.inl (by simpa using shown)

end Chronicle

end ClusterAudit
