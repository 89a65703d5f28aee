import ClusterAudit.AuditConfig.Document
import ClusterAudit.Json.MergePatch
import ClusterAudit.Proofs.Dictionary
import ClusterAudit.Proofs.Instant

/-!
Statuses are read back from their documents, also when a document is merged into another one as a
patch. This needs the instants of their conditions to be civil, as all instants are that were read.
-/

namespace ClusterAudit

open Json

namespace Json

/-! ## Members -/

/-- Of the members that an object is made of, the last one of a name is found. -/
theorem lookup_foldl_insertEntry (members present : Members) (name : String) :
    (members.foldl (fun members entry => insertEntry entry.1 entry.2 members) present).lookup
        name =
      (members.reverse.lookup name).or (present.lookup name) := by
  induction members generalizing present with
  | nil => simp
  | cons entry rest inductionHypothesis =>
      obtain ⟨other, value⟩ := entry
      rw [List.foldl_cons, inductionHypothesis, List.reverse_cons, List.lookup_append]
      by_cases same : name = other
      · rw [same, lookup_insertEntry_self, Option.or_assoc]
        simp
      · rw [lookup_insertEntry_of_ne same, List.lookup_cons, beq_false_of_ne same]
        simp

theorem partsOf?_ofMembers (names : List String) (members : Members) :
    partsOf? names (ofMembers members) = some fun name => members.reverse.lookup name := by
  have found : member? (members.foldl (fun members entry => insertEntry entry.1 entry.2 members) []) =
      fun name => members.reverse.lookup name := by
    funext name
    rw [member?, lookup_foldl_insertEntry, List.lookup_nil, Option.or_none]
  rw [ofMembers, partsOf?, found]

theorem required_of_eq_some {Value : Type} {read : Json → Option Value} {parts : Parts}
    {name : String} {json : Json} {value : Value} (present : parts name = some json)
    (reads : read json = some value) : required read parts name = some value := by
  rw [required, present]
  exact reads

/-- An array of written values shows a part of each of them. -/
theorem asListOf?_arr_map {Value Part : Type} {read : Json → Option Part} {write : Value → Json}
    {part : Value → Part} {values : List Value}
    (reads : ∀ value ∈ values, read (write value) = some (part value)) :
    asListOf? read (arr (values.map write)) = some (values.map part) := by
  have items : (values.map write).mapM read = some (values.map part) := by
    apply mapM_eq_some_iff.mpr
    rw [List.map_map, List.map_map]
    exact List.map_congr_left reads
  exact items

theorem asListOf?_arr {Value : Type} {read : Json → Option Value} {write : Value → Json}
    {values : List Value} (reads : ∀ value ∈ values, read (write value) = some value) :
    asListOf? read (arr (values.map write)) = some values := by
  rw [asListOf?_arr_map reads, List.map_id']

theorem asStrings?_ofStrings (texts : List String) : asStrings? (ofStrings texts) = some texts := by
  apply asListOf?_arr
  intro text _
  rfl

/-! ## Patches -/

theorem mergePatch_obj (members changes : Members) :
    mergePatch (obj members) (obj changes) = obj (mergeMembers members changes) := by
  rw [mergePatch]

/-- An array takes the place of what was there. -/
theorem mergeMembers_cons_arr (members : Members) (name : String) (items : List Json)
    (rest : Members) :
    mergeMembers members ((name, arr items) :: rest) =
      mergeMembers (insertEntry name (arr items) members) rest := by
  have replaced : ∀ target, mergePatch target (arr items) = arr items := by
    intro target
    cases target <;> rfl
  rw [mergeMembers, replaced]
  intro none
  cases none

end Json

/-! ## Conditions -/

theorem ConditionType.ofName?_name (type : ConditionType) : ofName? type.name = some type := by
  cases type <;> decide

theorem ConditionStatus.ofName?_name (status : ConditionStatus) :
    ofName? status.name = some status := by
  cases status <;> decide

theorem Instant.ofJson?_toText {instant : Instant} (civil : instant.IsCivil) :
    ofJson? (str instant.toText) = some instant := by
  rw [ofJson?, asString?, Option.bind_some, ofText?_toText civil]

namespace Condition

/-- Both instants of a condition have a text. -/
structure IsCivil (condition : Condition) : Prop where
  lastUpdate : condition.lastUpdate.IsCivil
  lastTransition : condition.lastTransition.IsCivil

theorem ofJson?_toJson {condition : Condition} (civil : condition.IsCivil) :
    ofJson? condition.toJson = some condition := by
  rw [ofJson?, toJson, partsOf?_ofMembers]
  refine (Option.bind_some ..).trans ?_
  rw [required_of_eq_some rfl (ConditionType.ofName?_name _),
    required_of_eq_some rfl (ConditionStatus.ofName?_name _),
    required_of_eq_some rfl (Instant.ofJson?_toText civil.lastUpdate),
    required_of_eq_some rfl (Instant.ofJson?_toText civil.lastTransition)]
  rfl

theorem isCivil_of_ofJson? {json : Json} {condition : Condition}
    (read : ofJson? json = some condition) : condition.IsCivil := by
  have ofInstant : ∀ {parts : Parts} {name : String} {instant : Instant},
      required Instant.ofJson? parts name = some instant → instant.IsCivil := by
    intro parts name instant read
    obtain ⟨json, _, readInstant⟩ := Option.bind_eq_some_iff.mp read
    obtain ⟨text, _, readText⟩ := Option.bind_eq_some_iff.mp readInstant
    exact Instant.isCivil_of_ofText? readText
  simp only [ofJson?, Option.bind_eq_bind, Option.bind_eq_some_iff] at read
  obtain ⟨parts, _, type, _, status, _, reason, _, message, _, lastUpdate, readUpdate,
    lastTransition, readTransition, made⟩ := read
  cases made
  exact { lastUpdate := ofInstant readUpdate, lastTransition := ofInstant readTransition }

/-! ## Conditions that are set -/

theorem isCivil_set {conditions : List Condition} {update : ConditionUpdate}
    {policy : UpdatePolicy} {now : Instant} (nowCivil : now.IsCivil)
    (civil : ∀ condition ∈ conditions, condition.IsCivil) :
    ∀ condition ∈ set conditions update policy now, condition.IsCivil := by
  have freshCivil : (fresh update now).IsCivil :=
    { lastUpdate := nowCivil, lastTransition := nowCivil }
  induction conditions with
  | nil =>
      intro condition member
      rw [set, List.mem_singleton] at member
      rw [member]
      exact freshCivil
  | cons head rest inductionHypothesis =>
      obtain ⟨headCivil, restCivil⟩ := List.forall_mem_cons.mp civil
      have updatedCivil : (head.updated update policy now).IsCivil := by
        rw [updated]
        split
        · exact freshCivil
        · split
          · exact { lastUpdate := nowCivil, lastTransition := headCivil.lastTransition }
          · exact headCivil
      rw [set]
      split
      · exact List.forall_mem_cons.mpr ⟨updatedCivil, restCivil⟩
      · exact List.forall_mem_cons.mpr ⟨headCivil, inductionHypothesis restCivil⟩

theorem isCivil_applyUpdates {conditions : List Condition} {updates : List ConditionUpdate}
    {now : Instant} (nowCivil : now.IsCivil)
    (civil : ∀ condition ∈ conditions, condition.IsCivil) :
    ∀ condition ∈ applyUpdates conditions updates now, condition.IsCivil := by
  induction updates generalizing conditions with
  | nil => exact civil
  | cons update rest inductionHypothesis => exact inductionHypothesis (isCivil_set nowCivil civil)

end Condition

/-! ## Statuses -/

namespace AuditConfigStatus

/-- All conditions of a status are civil. -/
def IsCivil (status : AuditConfigStatus) : Prop :=
  ∀ condition ∈ status.conditions, condition.IsCivil

theorem isCivil_of_ofJson? {json : Json} {status : AuditConfigStatus}
    (read : ofJson? json = some status) : status.IsCivil := by
  simp only [ofJson?, Option.bind_eq_bind, Option.bind_eq_some_iff] at read
  obtain ⟨parts, _, conditions, readConditions, pods, _, made⟩ := read
  cases made
  intro condition member
  rw [defaulted] at readConditions
  split at readConditions
  · cases readConditions
    cases member
  · obtain ⟨items, _, readItems⟩ := Option.bind_eq_some_iff.mp readConditions
    obtain ⟨item, _, readItem⟩ := exists_of_mem_values_of_mapM readItems member
    exact Condition.isCivil_of_ofJson? readItem

theorem toJson_eq (status : AuditConfigStatus) :
    status.toJson =
      obj [("conditions", arr (status.conditions.map Condition.toJson)),
        ("pods", ofStrings status.pods)] := by
  have order : compare "pods" "conditions" = .gt := by decide
  simp [toJson, record, ofMembers, insertEntry, order]

/-- The conditions and the pods of a status take the place of what they are merged into. -/
theorem mergePatch_toJson (status : AuditConfigStatus) (members : Members) :
    mergePatch (obj members) status.toJson =
      obj (insertEntry "pods" (ofStrings status.pods)
        (insertEntry "conditions" (arr (status.conditions.map Condition.toJson)) members)) := by
  -- Both members are arrays, so that nothing of what was there is left in them.
  rw [toJson_eq, mergePatch_obj, ofStrings, mergeMembers_cons_arr, mergeMembers_cons_arr,
    mergeMembers]

/-- A status is read back from its document, whatever that was merged into. -/
theorem ofJson?_mergePatch {status : AuditConfigStatus} (civil : status.IsCivil)
    (members : Members) :
    ofJson? (mergePatch (obj members) status.toJson) = some status := by
  have conditions : asListOf? Condition.ofJson?
      (arr (status.conditions.map Condition.toJson)) = some status.conditions := by
    apply asListOf?_arr
    intro condition member
    exact Condition.ofJson?_toJson (civil condition member)
  have podsOther : ("conditions" : String) ≠ "pods" := by decide
  rw [mergePatch_toJson]
  simp [ofJson?, partsOf?, defaulted, member?, lookup_insertEntry_self,
    lookup_insertEntry_of_ne podsOther, conditions, asStrings?_ofStrings]

end AuditConfigStatus

end ClusterAudit
