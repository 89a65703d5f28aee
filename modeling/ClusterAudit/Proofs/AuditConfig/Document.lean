import ClusterAudit.Proofs.AuditConfig.Status

/-!
What a user asks for, and what the operator reports, read back from their documents. A part is left
out of a document only where the reader puts the same value in its place, so that nothing is lost,
and a document that has been read and written once stays the same when that is done again.
-/

namespace ClusterAudit

namespace Json

/-! ## Parts of a record -/

/-- A record whose parts have different names shows each of them under its name. -/
theorem exists_partsOf?_record (json : Json) {written : List (String × Option Json)}
    (isRecord : json = record written []) (distinct : (written.map Prod.fst).Nodup)
    (names : List String) :
    ∃ parts, partsOf? names json = some parts ∧
      ∀ name, parts name = (written.lookup name).join := by
  subst isRecord
  rw [record, List.nil_append, partsOf?_ofMembers]
  refine ⟨_, rfl, ?_⟩
  intro name
  induction written with
  | nil => rfl
  | cons part rest inductionHypothesis =>
      obtain ⟨other, json⟩ := part
      obtain ⟨notLater, distinctRest⟩ := List.nodup_cons.mp distinct
      have later := inductionHypothesis distinctRest
      by_cases same : name = other
      · subst same
        have absent : rest.lookup name = none := by
          rw [List.lookup_eq_none_iff]
          intro entry member
          refine bne_iff_ne.mpr fun sameName => notLater ?_
          rw [sameName]
          exact List.mem_map.mpr ⟨entry, member, rfl⟩
        rw [absent] at later
        cases json with
        | none => simpa using later
        | some json => simp [List.lookup_append, later]
      · rw [lookup_cons_of_ne same, ← later]
        cases json with
        | none => simp
        | some json => simp [List.lookup_append, lookup_cons_of_ne same]

section Parts

variable {Value : Type} {read : Json → Option Value} {parts : Parts} {name : String}

theorem defaulted_of_eq_some {default value : Value} {json : Json}
    (present : parts name = some json) (reads : read json = some value) :
    defaulted read default parts name = some value := by
  rw [defaulted, present]
  exact reads

/-- A part that is left out when it is the default is read as the default. -/
theorem defaulted_of_eq_ite {default value : Value} {isDefault : Prop} [Decidable isDefault]
    {json : Json} (written : parts name = if isDefault then none else some json)
    (same : isDefault → value = default) (reads : ¬ isDefault → read json = some value) :
    defaulted read default parts name = some value := by
  by_cases leftOut : isDefault
  · rw [defaulted, written, if_pos leftOut, same leftOut]
  · rw [if_neg leftOut] at written
    exact defaulted_of_eq_some written (reads leftOut)

/-- A part that may be missing is read back, since null is no value of it. -/
theorem optional_of_eq_map {write : Value → Json} {value : Option Value}
    (written : parts name = value.map write) (noNull : read null = none)
    (reads : ∀ present ∈ value, read (write present) = some present) :
    optional read parts name = some value := by
  cases value with
  | none => rw [optional, written, Option.map_none]
  | some present =>
      have readsBack := reads present rfl
      rw [optional, written, Option.map_some]
      cases json : write present with
      | null =>
          rw [json, noNull] at readsBack
          cases readsBack
      | _ =>
          rw [json] at readsBack
          simp only [readsBack, Option.map_some]

theorem exists_of_optional {value : Value}
    (present : optional read parts name = some (some value)) :
    ∃ json, read json = some value := by
  rw [optional] at present
  split at present
  · cases present
  · cases present
  · rename_i json _ _
    obtain ⟨found, reads, same⟩ := Option.map_eq_some_iff.mp present
    cases same
    exact ⟨json, reads⟩

end Parts

theorem bounds_of_asInt32? {json : Json} {value : Int} (reads : asInt32? json = some value) :
    -2147483648 ≤ value ∧ value ≤ 2147483647 := by
  cases json with
  | int number =>
      obtain ⟨within, same⟩ := Option.ite_none_right_eq_some.mp reads
      cases same
      exact within
  | _ => cases reads

/-- A table of texts is read back. -/
theorem asTexts?_ofTexts (table : Dictionary String String) :
    asTexts? (ofTexts table) = some table := by
  have texts : (table.entries.map fun entry => (entry.1, str entry.2)).mapM
      (fun entry => (asString? entry.2).map fun text => (entry.1, text)) =
        some table.entries := by
    rw [mapM_eq_some_iff, List.map_map]
    rfl
  rw [asTexts?, ofTexts, asMembers?]
  simp only [Option.bind_eq_bind, Option.bind_some, texts, Dictionary.ofList_entries]
  rfl

end Json

open Json

/-! ## Parts of a configuration -/

/-- A text that is left out when it is empty is read back. -/
theorem defaulted_textUnlessEmpty {parts : Parts} {name text : String}
    (written : parts name = textUnlessEmpty text) :
    defaulted asString? "" parts name = some text :=
  defaulted_of_eq_ite written id fun _ => rfl

theorem SecretReference.ofJson?_toJson (reference : SecretReference) :
    ofJson? reference.toJson = some reference := by
  obtain ⟨parts, shown, under⟩ :=
    exists_partsOf?_record reference.toJson rfl (by simp) ["name"]
  have name : required asString? parts "name" = some reference.name :=
    required_of_eq_some (under "name") rfl
  rw [ofJson?, shown]
  simp only [Option.bind_eq_bind, Option.bind_some, name]
  rfl

theorem ImageSpec.ofJson?_toJson (image : ImageSpec) : ofJson? image.toJson = some image := by
  obtain ⟨parts, shown, under⟩ :=
    exists_partsOf?_record image.toJson rfl (by simp) ["name", "tag"]
  have name := defaulted_textUnlessEmpty (under "name")
  have tag := defaulted_textUnlessEmpty (under "tag")
  rw [ofJson?, shown]
  simp only [Option.bind_eq_bind, Option.bind_some, name, tag]
  rfl

namespace ResourceSpec

theorem eq_empty_of_isEmpty {table : Texts} (isEmpty : table.isEmpty = true) :
    table = Dictionary.empty := by
  obtain ⟨entries, increase⟩ := table
  obtain rfl := List.isEmpty_iff.mp isEmpty
  rfl

theorem defaulted_tableUnlessEmpty {parts : Parts} {name : String} {table : Texts}
    (written : parts name = tableUnlessEmpty table) :
    defaulted asTexts? Dictionary.empty parts name = some table :=
  defaulted_of_eq_ite written eq_empty_of_isEmpty fun _ => asTexts?_ofTexts table

/-- Resources are left out when neither limits nor requests are set, which is what is read then. -/
theorem defaulted_toJson? {parts : Parts} {name : String} {resources : ResourceSpec}
    (written : parts name = resources.toJson?) :
    defaulted ofJson? {} parts name = some resources := by
  refine defaulted_of_eq_ite written ?_ ?_
  · intro isEmpty
    obtain ⟨limitsEmpty, requestsEmpty⟩ := Bool.and_eq_true_iff.mp isEmpty
    have limits := eq_empty_of_isEmpty limitsEmpty
    have requests := eq_empty_of_isEmpty requestsEmpty
    cases resources
    cases limits
    cases requests
    rfl
  · intro _
    obtain ⟨parts, shown, under⟩ := exists_partsOf?_record
      (record [("limits", tableUnlessEmpty resources.limits),
        ("requests", tableUnlessEmpty resources.requests)] []) rfl (by simp)
      ["limits", "requests"]
    have limits := defaulted_tableUnlessEmpty (under "limits")
    have requests := defaulted_tableUnlessEmpty (under "requests")
    rw [ofJson?, shown]
    simp only [Option.bind_eq_bind, Option.bind_some, limits, requests]
    rfl

end ResourceSpec

/-! ## Features -/

theorem WorkloadsSpec.ofJson?_toJson (workloads : WorkloadsSpec) :
    ofJson? workloads.toJson = some workloads := by
  obtain ⟨parts, shown, under⟩ := exists_partsOf?_record workloads.toJson rfl (by simp)
    ["enable", "image", "resources", "serviceAccountName"]
  have enable : defaulted asBool? false parts "enable" = some workloads.enable :=
    defaulted_of_eq_some (under "enable") rfl
  have image : defaulted ImageSpec.ofJson? {} parts "image" = some workloads.image :=
    defaulted_of_eq_some (under "image") workloads.image.ofJson?_toJson
  have resources := ResourceSpec.defaulted_toJson? (under "resources")
  have serviceAccountName :
      optional asString? parts "serviceAccountName" = some workloads.serviceAccountName :=
    optional_of_eq_map (under "serviceAccountName") rfl fun _ _ => rfl
  rw [ofJson?, shown]
  simp only [Option.bind_eq_bind, Option.bind_some, enable, image, resources, serviceAccountName]
  rfl

theorem NodesSpec.ofJson?_toJson (nodes : NodesSpec) : ofJson? nodes.toJson = some nodes := by
  obtain ⟨parts, shown, under⟩ := exists_partsOf?_record nodes.toJson rfl (by simp)
    ["enable", "image", "resources", "schedule"]
  have enable : defaulted asBool? false parts "enable" = some nodes.enable :=
    defaulted_of_eq_some (under "enable") rfl
  have image : defaulted ImageSpec.ofJson? {} parts "image" = some nodes.image :=
    defaulted_of_eq_some (under "image") nodes.image.ofJson?_toJson
  have resources := ResourceSpec.defaulted_toJson? (under "resources")
  have schedule : optional asString? parts "schedule" = some nodes.schedule :=
    optional_of_eq_map (under "schedule") rfl fun _ _ => rfl
  rw [ofJson?, shown]
  simp only [Option.bind_eq_bind, Option.bind_some, enable, image, resources, schedule]
  rfl

theorem AdmissionMode.ofJson?_name (mode : AdmissionMode) :
    ofJson? (str mode.name) = some mode := by
  cases mode <;> decide

namespace AdmissionSpec

/-- The number of replicas, if there is one, has 32 bits. -/
def IsBounded (admission : AdmissionSpec) : Prop :=
  ∀ replicas ∈ admission.replicas, -2147483648 ≤ replicas ∧ replicas ≤ 2147483647

theorem ofJson?_toJson {admission : AdmissionSpec} (bounded : admission.IsBounded) :
    ofJson? admission.toJson = some admission := by
  obtain ⟨parts, shown, under⟩ := exists_partsOf?_record admission.toJson rfl (by simp)
    ["enable", "image", "mode", "replicas"]
  have enable : defaulted asBool? false parts "enable" = some admission.enable :=
    defaulted_of_eq_some (under "enable") rfl
  have image : defaulted ImageSpec.ofJson? {} parts "image" = some admission.image :=
    defaulted_of_eq_some (under "image") admission.image.ofJson?_toJson
  have mode : defaulted AdmissionMode.ofJson? .permissive parts "mode" = some admission.mode :=
    defaulted_of_eq_some (under "mode") admission.mode.ofJson?_name
  have replicas : optional asInt32? parts "replicas" = some admission.replicas := by
    refine optional_of_eq_map (under "replicas") rfl ?_
    intro count present
    rw [asInt32?, if_pos (bounded count present)]
  rw [ofJson?, shown]
  simp only [Option.bind_eq_bind, Option.bind_some, enable, image, mode, replicas]
  rfl

theorem isBounded_of_ofJson? {json : Json} {admission : AdmissionSpec}
    (read : ofJson? json = some admission) : admission.IsBounded := by
  simp only [ofJson?, Option.bind_eq_bind, Option.bind_eq_some_iff] at read
  obtain ⟨parts, _, enable, _, image, _, mode, _, replicas, readReplicas, made⟩ := read
  cases made
  intro count present
  obtain rfl : replicas = some count := present
  obtain ⟨json, readCount⟩ := exists_of_optional readReplicas
  exact bounds_of_asInt32? readCount

end AdmissionSpec

theorem ScanApiSpec.ofJson?_toJson (scanApi : ScanApiSpec) :
    ofJson? scanApi.toJson = some scanApi := by
  obtain ⟨parts, shown, under⟩ := exists_partsOf?_record scanApi.toJson rfl (by simp)
    ["enable", "image", "resources"]
  have enable : defaulted asBool? false parts "enable" = some scanApi.enable :=
    defaulted_of_eq_some (under "enable") rfl
  have image : defaulted ImageSpec.ofJson? {} parts "image" = some scanApi.image :=
    defaulted_of_eq_some (under "image") scanApi.image.ofJson?_toJson
  have resources := ResourceSpec.defaulted_toJson? (under "resources")
  rw [ofJson?, shown]
  simp only [Option.bind_eq_bind, Option.bind_some, enable, image, resources]
  rfl

/-! ## Whole documents -/

namespace AuditConfigSpec

theorem ofJson?_toJson {spec : AuditConfigSpec} (bounded : spec.admission.IsBounded) :
    ofJson? spec.toJson = some spec := by
  obtain ⟨parts, shown, under⟩ := exists_partsOf?_record spec.toJson rfl (by simp)
    ["credentialsSecretRef", "workloads", "nodes", "admission", "scanApi"]
  have credentials : optional SecretReference.ofJson? parts "credentialsSecretRef" =
      some spec.credentialsSecretRef :=
    optional_of_eq_map (under "credentialsSecretRef") rfl fun reference _ =>
      reference.ofJson?_toJson
  have workloads : defaulted WorkloadsSpec.ofJson? {} parts "workloads" = some spec.workloads :=
    defaulted_of_eq_some (under "workloads") spec.workloads.ofJson?_toJson
  have nodes : defaulted NodesSpec.ofJson? {} parts "nodes" = some spec.nodes :=
    defaulted_of_eq_some (under "nodes") spec.nodes.ofJson?_toJson
  have admission : defaulted AdmissionSpec.ofJson? {} parts "admission" = some spec.admission :=
    defaulted_of_eq_some (under "admission") (AdmissionSpec.ofJson?_toJson bounded)
  have scanApi : defaulted ScanApiSpec.ofJson? {} parts "scanApi" = some spec.scanApi :=
    defaulted_of_eq_some (under "scanApi") spec.scanApi.ofJson?_toJson
  rw [ofJson?, shown]
  simp only [Option.bind_eq_bind, Option.bind_some, credentials, workloads, nodes, admission,
    scanApi]
  rfl

theorem isBounded_of_ofJson? {json : Json} {spec : AuditConfigSpec}
    (read : ofJson? json = some spec) : spec.admission.IsBounded := by
  simp only [ofJson?, Option.bind_eq_bind, Option.bind_eq_some_iff] at read
  obtain ⟨parts, _, credentials, _, workloads, _, nodes, _, admission, readAdmission, scanApi, _,
    made⟩ := read
  cases made
  rw [defaulted] at readAdmission
  split at readAdmission
  · cases readAdmission
    intro replicas present
    cases present
  · exact AdmissionSpec.isBounded_of_ofJson? readAdmission

end AuditConfigSpec

theorem AuditConfigStatus.ofJson?_toJson {status : AuditConfigStatus} (civil : status.IsCivil) :
    ofJson? status.toJson = some status := by
  obtain ⟨parts, shown, under⟩ :=
    exists_partsOf?_record status.toJson rfl (by simp) ["conditions", "pods"]
  have conditions :
      defaulted (asListOf? Condition.ofJson?) [] parts "conditions" = some status.conditions := by
    apply defaulted_of_eq_some (under "conditions")
    apply asListOf?_arr
    intro condition member
    exact Condition.ofJson?_toJson (civil condition member)
  have pods : defaulted asStrings? [] parts "pods" = some status.pods :=
    defaulted_of_eq_some (under "pods") (asStrings?_ofStrings status.pods)
  rw [ofJson?, shown]
  simp only [Option.bind_eq_bind, Option.bind_some, conditions, pods]
  rfl

theorem OperatorPolicy.ofJson?_toJson (policy : OperatorPolicy) :
    ofJson? policy.toJson = some policy := by
  obtain ⟨parts, shown, under⟩ := exists_partsOf?_record policy.toJson rfl (by simp)
    ["skipContainerResolution", "disableLegacyWorkloadCleanup"]
  have skip : defaulted asBool? false parts "skipContainerResolution" =
      some policy.skipContainerResolution :=
    defaulted_of_eq_some (under "skipContainerResolution") rfl
  have disable : defaulted asBool? false parts "disableLegacyWorkloadCleanup" =
      some policy.disableLegacyWorkloadCleanup :=
    defaulted_of_eq_some (under "disableLegacyWorkloadCleanup") rfl
  rw [ofJson?, shown]
  simp only [Option.bind_eq_bind, Option.bind_some, skip, disable]
  rfl

/-! ## Reading and writing again -/

namespace Json

variable {Value : Type} {read : Json → Option Value} {write : Value → Json}

/-- The document that is written of what a document was read as. -/
def rewritten? (read : Json → Option Value) (write : Value → Json) (json : Json) : Option Json :=
  (read json).map write

/-- If all values that can be read are read back, a document is as it stays once it was rewritten. -/
theorem rewritten?_again {Fits : Value → Prop}
    (back : ∀ value, Fits value → read (write value) = some value)
    (fits : ∀ json value, read json = some value → Fits value) {json again : Json}
    (written : rewritten? read write json = some again) :
    rewritten? read write again = some again := by
  obtain ⟨value, reads, rfl⟩ := Option.map_eq_some_iff.mp written
  rw [rewritten?, back value (fits json value reads), Option.map_some]

end Json

/-- What a user asks for, what the operator reports and the policy are read back from their documents
as they were, and a document that was rewritten is rewritten as it is. A number of replicas has 32
bits, and the instants of a report are those that have a text, from the year -262143 to 262142. -/
theorem documents_read_back :
    (∀ spec : AuditConfigSpec, spec.admission.IsBounded →
      AuditConfigSpec.ofJson? spec.toJson = some spec) ∧
    (∀ status : AuditConfigStatus, status.IsCivil →
      AuditConfigStatus.ofJson? status.toJson = some status) ∧
    (∀ policy : OperatorPolicy, OperatorPolicy.ofJson? policy.toJson = some policy) ∧
    (∀ json again,
      rewritten? AuditConfigSpec.ofJson? AuditConfigSpec.toJson json = some again →
      rewritten? AuditConfigSpec.ofJson? AuditConfigSpec.toJson again = some again) ∧
    (∀ json again,
      rewritten? AuditConfigStatus.ofJson? AuditConfigStatus.toJson json = some again →
      rewritten? AuditConfigStatus.ofJson? AuditConfigStatus.toJson again = some again) ∧
    (∀ json again,
      rewritten? OperatorPolicy.ofJson? OperatorPolicy.toJson json = some again →
      rewritten? OperatorPolicy.ofJson? OperatorPolicy.toJson again = some again) := by
  refine ⟨fun _ => AuditConfigSpec.ofJson?_toJson, fun _ => AuditConfigStatus.ofJson?_toJson,
    OperatorPolicy.ofJson?_toJson, ?_, ?_, ?_⟩
  · intro json again
    exact rewritten?_again (fun _ => AuditConfigSpec.ofJson?_toJson)
      fun _ _ => AuditConfigSpec.isBounded_of_ofJson?
  · intro json again
    exact rewritten?_again (fun _ => AuditConfigStatus.ofJson?_toJson)
      fun _ _ => AuditConfigStatus.isCivil_of_ofJson?
  · intro json again
    exact rewritten?_again (fun policy (_ : True) => policy.ofJson?_toJson)
      fun _ _ _ => trivial

/-! ## A configuration with some of its parts -/

/-- Some parts of this configuration are set, some are empty, and some are missing. -/
def partialSpec : AuditConfigSpec where
  credentialsSecretRef := some { name := "" }
  workloads := { image := { tag := "1.4.0" }, serviceAccountName := some "" }
  nodes := { resources := { limits := Dictionary.ofList [("cpu", "100m")] } }
  admission := { enable := true, mode := .enforcing, replicas := some (-1) }

/-- A status of the last second of the year 9999. -/
def lateStatus : AuditConfigStatus where
  conditions := [{
    type := .scanApiDegraded
    status := .unknown
    reason := ""
    message := "late"
    lastUpdate := { seconds := 253402300799, nanos := 999999999 }
    lastTransition := { seconds := -62167219200, nanos := 0 } }]
  pods := ["scanner"]

/-- A policy that was written as a list of its first part only. -/
def shortPolicy : Json :=
  .arr [.bool true]

theorem documents_read_back_partialSpec :
    partialSpec.admission.IsBounded ∧
      AuditConfigSpec.ofJson? partialSpec.toJson = some partialSpec ∧
      lateStatus.IsCivil ∧ AuditConfigStatus.ofJson? lateStatus.toJson = some lateStatus ∧
      ∃ again, rewritten? OperatorPolicy.ofJson? OperatorPolicy.toJson shortPolicy = some again ∧
        again ≠ shortPolicy ∧
        rewritten? OperatorPolicy.ofJson? OperatorPolicy.toJson again = some again := by
  have bounded : partialSpec.admission.IsBounded := by
    intro replicas present
    cases present
    decide
  have civil : lateStatus.IsCivil := by
    intro condition member
    cases List.mem_singleton.mp member
    exact {
      lastUpdate := { named := by decide, nanos := Or.inl (by decide) }
      lastTransition := { named := by decide, nanos := Or.inl (by decide) } }
  obtain ⟨specs, statuses, _, _, _, policies⟩ := documents_read_back
  exact ⟨bounded, specs partialSpec bounded, civil, statuses lateStatus civil, _, rfl, nofun,
    policies shortPolicy _ rfl⟩

end ClusterAudit
