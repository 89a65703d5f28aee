import ClusterAudit.Proofs.Pass.Reporting
import ClusterAudit.Proofs.Token

/-!
The conditions of a configuration over a long time. Whatever passes do and however they end, a list
of conditions holds one of each type at most, and only grows at its end; a condition of a feature is
there only if a pass has loaded the configuration while it asked for the feature.
-/

namespace ClusterAudit

open Json Store

/-! ## Conditions that are stored -/

/-- The type of a condition in its document. -/
def Condition.typeOf? (json : Json) : Option ConditionType := do
  let parts ← partsOf? partNames json
  required (fun json => json.variantName?.bind ConditionType.ofName?) parts "type"

/-- The types of the conditions in the document of a status, in their order. -/
def AuditConfigStatus.typesOf? (json : Json) : Option (List ConditionType) := do
  let parts ← partsOf? ["conditions", "pods"] json
  defaulted (asListOf? Condition.typeOf?) [] parts "conditions"

/-- The types of the conditions that a configuration is stored with. It may be stored without a
status. -/
def Stored.reported? (stored : Stored .auditConfig) : Option (List ConditionType) :=
  if stored.status.getD .null = .null then some []
  else AuditConfigStatus.typesOf? (stored.status.getD .null)

/-- The types of the conditions that are stored with the configuration at a place, if there is
one. -/
def Store.reported? (store : Store) (key : Key) : Option (List ConditionType) :=
  match store.find? .auditConfig key with
  | some stored => stored.reported?
  | none => some []

theorem Condition.typeOf?_toJson (condition : Condition) :
    typeOf? condition.toJson = some condition.type := by
  rw [typeOf?, toJson, partsOf?_ofMembers]
  refine (Option.bind_some ..).trans ?_
  rw [required_of_eq_some rfl (ConditionType.ofName?_name _)]

theorem Condition.typeOf?_of_ofJson? {json : Json} {condition : Condition}
    (read : ofJson? json = some condition) : typeOf? json = some condition.type := by
  simp only [ofJson?, Option.bind_eq_bind, Option.bind_eq_some_iff] at read
  obtain ⟨parts, readParts, type, readType, _, _, _, _, _, _, _, _, _, _, made⟩ := read
  cases made
  rw [typeOf?, readParts]
  exact readType

namespace AuditConfigStatus

variable {status : AuditConfigStatus}

theorem typesOf?_of_ofJson? {json : Json} (read : ofJson? json = some status) :
    typesOf? json = some (Condition.types status.conditions) := by
  simp only [ofJson?, Option.bind_eq_bind, Option.bind_eq_some_iff] at read
  obtain ⟨parts, readParts, conditions, readConditions, _, _, made⟩ := read
  cases made
  rw [typesOf?, readParts]
  change defaulted _ _ parts "conditions" = _
  rw [defaulted] at readConditions ⊢
  cases present : parts "conditions" with
  | none =>
      rw [present] at readConditions
      cases readConditions
      rfl
  | some items =>
      rw [present] at readConditions
      obtain ⟨documents, isArray, readAll⟩ := Option.bind_eq_some_iff.mp readConditions
      have types := mapM_eq_some_map readAll fun _ _ => Condition.typeOf?_of_ofJson?
      change asListOf? _ items = _
      rw [asListOf?, isArray]
      exact types

theorem asListOf?_conditions (conditions : List Condition) :
    asListOf? Condition.typeOf? (arr (conditions.map Condition.toJson)) =
      some (Condition.types conditions) :=
  asListOf?_arr_map fun condition _ => Condition.typeOf?_toJson condition

theorem typesOf?_toJson (status : AuditConfigStatus) :
    typesOf? status.toJson = some (Condition.types status.conditions) := by
  rw [toJson_eq]
  simp [typesOf?, partsOf?, defaulted, member?, asListOf?_conditions]

/-- The conditions of a status are found in the document that it was merged into, at whatever
instants they were set. -/
theorem typesOf?_mergePatch (status : AuditConfigStatus) (members : Members) :
    typesOf? (mergePatch (obj members) status.toJson) =
      some (Condition.types status.conditions) := by
  have podsOther : ("conditions" : String) ≠ "pods" := by decide
  rw [mergePatch_toJson]
  simp [typesOf?, partsOf?, defaulted, member?, lookup_insertEntry_self,
    lookup_insertEntry_of_ne podsOther, asListOf?_conditions]

theorem typesOf?_patchedStatus (current : Option Json) (status : AuditConfigStatus) :
    typesOf? (patchedStatus current status.toJson) = some (Condition.types status.conditions) := by
  unfold patchedStatus
  split <;> exact typesOf?_mergePatch status _

end AuditConfigStatus

namespace Stored

variable {stored : Stored .auditConfig}

theorem reported?_of_no_status (silent : stored.status = none) : stored.reported? = some [] := by
  rw [reported?, silent]
  rfl

theorem reported?_of_typesOf? {json : Json} {types : List ConditionType}
    (written : stored.status = some json)
    (read : AuditConfigStatus.typesOf? json = some types) : stored.reported? = some types := by
  have notNull : json ≠ .null := by
    rintro rfl
    cases read
  rw [reported?, written, Option.getD_some, if_neg notNull, read]

theorem reported?_congr {other : Stored .auditConfig} (same : other.status = stored.status) :
    other.reported? = stored.reported? := by
  rw [reported?, reported?, same]

/-- What is stored is what a pass loads. -/
theorem reported?_of_read? {config : AuditConfig} (read : stored.read? = some config) :
    stored.reported? = some config.reported := by
  obtain ⟨status, readStatus, rfl⟩ := Option.map_eq_some_iff.mp read
  rw [reported?]
  rw [Kind.readStatus?] at readStatus
  split at readStatus
  · rename_i null
    cases readStatus
    rw [if_pos null]
    rfl
  · rename_i notNull
    obtain ⟨value, readValue, rfl⟩ := Option.map_eq_some_iff.mp readStatus
    rw [if_neg notNull]
    exact AuditConfigStatus.typesOf?_of_ofJson? readValue

/-- An object takes the place of another one. The conditions stay, if the two have the same. -/
theorem reported?_succeed {object : AuditConfig} (current : stored.reported? = some object.reported)
    (key : Key) (version : Nat) :
    (stampedAt key version (succeed stored object)).reported? = some object.reported := by
  cases written : stored.status with
  | some json =>
      rw [← current]
      exact reported?_congr (by simp [stampedAt, succeed, written])
  | none =>
      cases loaded : object.status with
      | none =>
          have silent : (stampedAt key version (succeed stored object)).status = none := by
            simp [stampedAt, succeed, written, ofObject, Object.inSeconds, loaded]
          rw [reported?_of_no_status silent, AuditConfig.reported, loaded]
          rfl
      | some status =>
          have sent : (stampedAt key version (succeed stored object)).status =
              some status.toJson := by
            simp [stampedAt, succeed, written, ofObject, Object.inSeconds, loaded,
              Kind.statusInSeconds, Kind.statusJson]
          rw [reported?_of_typesOf? sent (AuditConfigStatus.typesOf?_toJson status),
            AuditConfig.reported, loaded]
          rfl

end Stored

namespace Store

variable {store after : Store} {key : Key} {config : AuditConfig}

theorem reported?_of_find? {stored : Stored .auditConfig}
    (found : store.find? .auditConfig key = some stored) :
    store.reported? key = stored.reported? := by
  rw [reported?, found]

theorem reported?_congr_find?
    (same : after.find? .auditConfig key = store.find? .auditConfig key) :
    after.reported? key = store.reported? key := by
  rw [reported?, reported?, same]

theorem reported?_of_stored? (loaded : store.stored? .auditConfig key = some config) :
    store.reported? key = some config.reported := by
  obtain ⟨stored, found, read⟩ := exists_find?_of_stored? loaded
  rw [reported?_of_find? found, Stored.reported?_of_read? read]

/-! ## Calls of a pass -/

/-- A call that replaces the configuration leaves its conditions, if they still are the ones that
were loaded. -/
theorem reported?_answer_of_keepsStatus {request : Call}
    (keeps : request.KeepsStatus config.status)
    (current : store.reported? key = some config.reported) :
    (store.answer request).2.reported? key = some config.reported := by
  by_cases named : ∃ entry,
      request.entry? = some entry ∧ entry.kind = .auditConfig ∧ entry.key = key
  · obtain ⟨entry, written, sameKind, rfl⟩ := named
    cases request with
    | get kind place => cases written
    | list kind namespaceName selector => cases written
    | create kind namespaceName object =>
        cases written
        exact absurd sameKind keeps
    | delete kind place =>
        cases written
        exact absurd sameKind keeps
    | patchStatus kind place patch =>
        cases written
        exact absurd sameKind keeps
    | replace kind place object =>
        cases written
        cases sameKind
        rcases store.replace_cases .auditConfig place object with
          ⟨same, _⟩ | ⟨present, there, enacts⟩
        · rw [same]
          exact current
        · have sameStatus : object.status = config.status := keeps
          have sameReport : AuditConfig.reported object = config.reported := by
            rw [AuditConfig.reported, AuditConfig.reported, sameStatus]
          rw [reported?_of_find? there, ← sameReport] at current
          change (store.replace .auditConfig place object).2.reported? place = _
          rw [reported?_of_find? enacts.here, ← sameReport]
          exact Stored.reported?_succeed current place _
  · rw [reported?_congr_find? (find?_answer_of_elsewhere named), current]

/-- A report that goes through takes the place of the conditions. One that does not changes
nothing. -/
theorem exists_reported?_answer {request : Call} (reports : request.Reports config)
    (current : store.reported? key = some config.reported) :
    ∃ later, (store.answer request).2.reported? key = some later ∧
      config.Extends config.reported later := by
  cases request with
  | patchStatus kind place patch =>
      cases kind with
      | auditConfig =>
          obtain ⟨next, rfl, extended⟩ := reports
          rcases store.patchStatus_cases .auditConfig place next.toJson with
            ⟨same, _⟩ | ⟨present, there, enacts⟩
          · rw [same]
            exact ⟨_, current, .refl⟩
          · change ∃ later, (store.patchStatus _ place _).2.reported? key = some later ∧ _
            by_cases here : key = place
            · subst here
              refine ⟨_, ?_, extended⟩
              rw [reported?_of_find? enacts.here]
              exact Stored.reported?_of_typesOf? rfl
                (AuditConfigStatus.typesOf?_patchedStatus _ next)
            · refine ⟨_, ?_, .refl⟩
              rw [reported?_congr_find? (enacts.otherPlace here), current]
      | _ => cases reports
  | _ => cases reports

end Store

/-! ## Runs -/

namespace Chronicle

variable {key : Key} {before after : Chronicle} {earlier : List ConditionType}

/-- Others may do what they like, but that the conditions of a configuration stay of the types that
they are. -/
def LeavesReport (key : Key) (before after : Store) : Prop :=
  after.reported? key = before.reported? key

/-- The rest of a pass may still report on its configuration, or makes no calls. -/
def MayReport (key : Key) (config : AuditConfig) (store : Store) (rest : Pass Progress) : Prop :=
  (store.reported? key = some config.reported ∧
    rest.ReportsLast (Call.KeepsStatus config.status) (Call.Reports config)) ∨
  rest.CallsOnly fun _ => False

/-- The conditions at a place are extended for a configuration. -/
def ExtendsReport (key : Key) (config : AuditConfig) (before after : Store) : Prop :=
  ∃ earlier later, before.reported? key = some earlier ∧ after.reported? key = some later ∧
    config.Extends earlier later

theorem guarantees_reports (key : Key) :
    Guarantees key (LeavesReport key) (MayReport key) (ExtendsReport key) where
  loads config _ policyName now token loaded :=
    Or.inl ⟨reported?_of_stored? loaded, Pass.reportsLast_proceed policyName now token config⟩
  call := by
    rintro config store request next
      (⟨current, ⟨isQuiet, later⟩ | ⟨isReport, noneLeft⟩⟩ | silent)
    · have same := reported?_answer_of_keepsStatus isQuiet current
      exact ⟨⟨_, _, current, same, .refl⟩, Or.inl ⟨same, later _⟩⟩
    · obtain ⟨types, written, extended⟩ := exists_reported?_answer isReport current
      exact ⟨⟨_, _, current, written, extended⟩, Or.inr (noneLeft _)⟩
    · exact absurd silent.1 id
  image := by
    rintro config store request next (⟨current, reports⟩ | silent) reply
    · exact Or.inl ⟨current, reports reply⟩
    · exact Or.inr (silent reply)
  note _ _ _ _ going := going
  others := by
    rintro config store after rest leaves (⟨current, reports⟩ | silent)
    · exact Or.inl ⟨leaves.trans current, reports⟩
    · exact Or.inr silent

/-- The conditions that are stored are of different types, and of features that the configuration
has asked for. -/
structure IsOrderly (key : Key) (chronicle : Chronicle) (types : List ConditionType) : Prop where
  reported : chronicle.store.reported? key = some types
  nodup : types.Nodup
  asked : ∀ feature : Feature, feature.conditionType ∈ types →
    ∃ config ∈ chronicle.loaded, config.AsksFor feature

theorem IsOrderly.step (orderly : before.IsOrderly key earlier)
    (underway : before.IsUnderway key (MayReport key))
    (step : Step key (LeavesReport key) before after) :
    ∃ later, earlier <+: later ∧ after.IsOrderly key later := by
  have asked : ∀ feature : Feature, feature.conditionType ∈ earlier →
      ∃ config ∈ after.loaded, config.AsksFor feature := by
    intro feature member
    obtain ⟨config, loaded, asks⟩ := orderly.asked feature member
    exact ⟨config, step.loaded_extends.subset loaded, asks⟩
  rcases underway.store_cases (guarantees_reports key) step with
    same | leaves | ⟨config, loaded, types, later, reported, written, extended⟩
  · refine ⟨earlier, List.prefix_refl _, ?_, orderly.nodup, asked⟩
    rw [same, orderly.reported]
  · exact ⟨earlier, List.prefix_refl _, leaves.trans orderly.reported, orderly.nodup, asked⟩
  · obtain rfl : earlier = types :=
      Option.some.inj (orderly.reported.symm.trans reported)
    refine ⟨later, extended.grown, written, extended.nodup orderly.nodup, ?_⟩
    intro feature member
    rcases extended.asked feature member with before | asks
    · exact asked feature before
    · exact ⟨config, step.loaded_extends.subset loaded, asks⟩

theorem IsOrderly.steps (orderly : before.IsOrderly key earlier)
    (underway : before.IsUnderway key (MayReport key))
    (steps : Steps key (LeavesReport key) before after) :
    ∃ later, earlier <+: later ∧ after.IsOrderly key later := by
  induction steps with
  | refl => exact ⟨earlier, List.prefix_refl _, orderly⟩
  | tail moves step inductionHypothesis =>
      obtain ⟨middle, grownFirst, orderlyMiddle⟩ := inductionHypothesis
      have underwayMiddle := underway.steps (guarantees_reports key) moves
      obtain ⟨later, grownLast, orderlyLast⟩ := orderlyMiddle.step underwayMiddle step
      exact ⟨later, grownFirst.trans grownLast, orderlyLast⟩

theorem isOrderly_of_silent {initial : Store}
    (silent : ∀ stored, initial.find? .auditConfig key = some stored → stored.status = none) :
    IsOrderly key { store := initial } [] where
  reported := by
    cases found : initial.find? .auditConfig key with
    | none => rw [Store.reported?, found]
    | some stored =>
        rw [reported?_of_find? found, Stored.reported?_of_no_status (silent stored found)]
  nodup := List.nodup_nil
  asked _ := nofun

/-- From a configuration without a status on, its conditions are at every point of different types,
those at an earlier point come first at a later one, in the same order, and each is of a feature
that the configuration asked for when some pass had loaded it. Calls may fail, passes may end in any
way or be cut off, and others may change all but the types of the conditions. -/
theorem reported_grows {initial : Store} {middle last : Chronicle}
    (silent : ∀ stored, initial.find? .auditConfig key = some stored → stored.status = none)
    (first : Steps key (LeavesReport key) { store := initial } middle)
    (later : Steps key (LeavesReport key) middle last) :
    ∃ types grown, middle.store.reported? key = some types ∧
      last.store.reported? key = some grown ∧ types <+: grown ∧ grown.Nodup ∧
      ∀ feature : Feature, feature.conditionType ∈ grown →
        ∃ config ∈ last.loaded, config.metadata.deletionTimestamp = none ∧
          feature.isEnabled config.content = true := by
  obtain ⟨types, _, orderly⟩ := (isOrderly_of_silent silent).steps isUnderway_of_idle first
  have underway := isUnderway_of_idle.steps (guarantees_reports key) first
  obtain ⟨grown, joined, orderlyLast⟩ := orderly.steps underway later
  exact ⟨types, grown, orderly.reported, orderlyLast.reported, joined, orderlyLast.nodup,
    orderlyLast.asked⟩

/-- A pass over a new configuration has brought the scan API into place. -/
def scanApiMade : Chronicle :=
  (advance fun _ => .ok "image")^[20]
    (begin { store := Store.empty.insert .auditConfig "security" scanApiConfig } "default"
      bareOwner.configKey { seconds := 0, nanos := 0 } "first")

/-- Another pass has reported on it. -/
def scanApiReported : Chronicle :=
  (advance fun _ => .ok "image")^[20]
    (scanApiMade.begin "default" bareOwner.configKey { seconds := 60, nanos := 0 } "second")

/-- The first condition is of the scan API, which the configuration has asked for. -/
theorem reported_grows_scanApiReported :
    scanApiMade.store.reported? bareOwner.configKey = some [] ∧
      scanApiReported.store.reported? bareOwner.configKey = some [.scanApiDegraded] ∧
      ∃ config ∈ scanApiReported.loaded, config.metadata.deletionTimestamp = none ∧
        Feature.scanApi.isEnabled config.content = true := by
  have silent : ∀ stored, (Store.empty.insert .auditConfig "security" scanApiConfig).find?
      .auditConfig bareOwner.configKey = some stored → stored.status = none := by
    intro stored found
    cases found
    rfl
  have first : Steps bareOwner.configKey (LeavesReport bareOwner.configKey)
      { store := Store.empty.insert .auditConfig "security" scanApiConfig } scanApiMade :=
    .trans (steps_begin _ _ _ _) (steps_advance_iterate _ _ _)
  have later : Steps bareOwner.configKey (LeavesReport bareOwner.configKey) scanApiMade
      scanApiReported :=
    .trans (steps_begin _ _ _ _) (steps_advance_iterate _ _ _)
  have made : scanApiMade.store.reported? bareOwner.configKey = some [] := by decide +kernel
  have reported : scanApiReported.store.reported? bareOwner.configKey =
      some [.scanApiDegraded] := by
    decide +kernel
  obtain ⟨types, grown, _, written, _, _, asked⟩ := reported_grows silent first later
  rw [reported] at written
  cases written
  exact ⟨made, reported, asked .scanApi (List.mem_singleton_self _)⟩

end Chronicle

end ClusterAudit
