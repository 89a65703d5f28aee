import ClusterAudit.Object.Pod
import ClusterAudit.Proofs.Instant

/-!
Documents cut to whole seconds. What has been cut stays as it is, as does a document whose schema has
no instants, and the signs of zeros have nothing to do with instants.
-/

namespace ClusterAudit

open Json

namespace Schema

/-! ## Documents without instants -/

mutual

/-- No part of a document of the schema is an instant. -/
def isTimeless : Schema → Bool
  | instant => false
  | list item => isTimeless item
  | table value => isTimeless value
  | record parts => areTimeless parts
  | _ => true

def areTimeless : List (String × Bool × Schema) → Bool
  | [] => true
  | (_, _, schema) :: rest => isTimeless schema && areTimeless rest

end

/-- No part of the member of a record with a given name is an instant. -/
def isTimelessAt (name : String) : List (String × Bool × Schema) → Bool
  | [] => true
  | (other, _, schema) :: rest =>
      if other = name then isTimeless schema else isTimelessAt name rest

mutual

theorem inSeconds_of_isTimeless {schema : Schema} (timeless : schema.isTimeless = true)
    (json : Json) : schema.inSeconds json = json := by
  cases schema with
  | instant => cases timeless
  | list item =>
      have sameItem : ∀ json, inSeconds json item = json := inSeconds_of_isTimeless timeless
      cases json <;> simp [inSeconds, sameItem]
  | table value =>
      have sameValue : ∀ json, inSeconds json value = json := inSeconds_of_isTimeless timeless
      cases json <;> simp [inSeconds, sameValue]
  | record parts =>
      have samePart := partInSeconds_of_areTimeless timeless
      cases json <;> simp [inSeconds, samePart]
  | _ => simp [inSeconds]

theorem partInSeconds_of_areTimeless {parts : List (String × Bool × Schema)}
    (timeless : areTimeless parts = true) (name : String) (json : Json) :
    partInSeconds name json parts = json := by
  cases parts with
  | nil => rw [partInSeconds]
  | cons part rest =>
      obtain ⟨other, isRequired, schema⟩ := part
      rw [areTimeless, Bool.and_eq_true] at timeless
      rw [partInSeconds]
      split
      · exact inSeconds_of_isTimeless timeless.1 json
      · exact partInSeconds_of_areTimeless timeless.2 name json

end

theorem partInSeconds_of_isTimelessAt {name : String} {parts : List (String × Bool × Schema)}
    (timeless : isTimelessAt name parts = true) (json : Json) :
    partInSeconds name json parts = json := by
  induction parts with
  | nil => rw [partInSeconds]
  | cons part rest inductionHypothesis =>
      obtain ⟨other, isRequired, schema⟩ := part
      rw [isTimelessAt] at timeless
      rw [partInSeconds]
      by_cases here : other = name
      · rw [if_pos here] at timeless ⊢
        exact inSeconds_of_isTimeless timeless json
      · rw [if_neg here] at timeless ⊢
        exact inductionHypothesis timeless

theorem membersInSeconds_record {parts : List (String × Bool × Schema)} {members : Members} :
    (record parts).membersInSeconds members =
      members.map fun entry => (entry.1, partInSeconds entry.1 entry.2 parts) := by
  rw [membersInSeconds, inSeconds]
  rfl

/-- Members that hold no instants stay as they are. -/
theorem membersInSeconds_of_isTimelessAt {parts : List (String × Bool × Schema)}
    {members : Members}
    (timeless : ∀ entry ∈ members, isTimelessAt entry.1 parts = true) :
    (record parts).membersInSeconds members = members := by
  have same : ∀ entry ∈ members,
      (entry.1, partInSeconds entry.1 entry.2 parts) = id entry := by
    intro entry member
    rw [partInSeconds_of_isTimelessAt (timeless entry member)]
    rfl
  rw [membersInSeconds_record, List.map_congr_left same, List.map_id]

/-! ## Documents that have been cut -/

theorem inSeconds_instant_again (json : Json) :
    instant.inSeconds (instant.inSeconds json) = instant.inSeconds json := by
  cases read : Instant.ofJson? json with
  | none => simp only [inSeconds, read, Option.map_none, Option.getD_none]
  | some time =>
      obtain ⟨text, _, readText⟩ := Option.bind_eq_some_iff.mp read
      have civil : time.inSeconds.IsCivil := (Instant.isCivil_of_ofText? readText).inSeconds
      have again : Instant.ofJson? (.str time.inSeconds.toText) = some time.inSeconds := by
        simp only [Instant.ofJson?, asString?, Option.bind_some, Instant.ofText?_toText civil]
      simp only [inSeconds, read, again, Option.map_some, Option.getD_some,
        Instant.inSeconds_inSeconds]

mutual

theorem inSeconds_inSeconds (schema : Schema) (json : Json) :
    schema.inSeconds (schema.inSeconds json) = schema.inSeconds json := by
  cases schema with
  | instant => exact inSeconds_instant_again json
  | list item =>
      have sameItem := inSeconds_inSeconds item
      cases json <;> simp [inSeconds, sameItem]
  | table value =>
      have sameValue := inSeconds_inSeconds value
      cases json <;> simp [inSeconds, sameValue]
  | record parts =>
      have samePart := partInSeconds_partInSeconds parts
      cases json <;> simp [inSeconds, samePart]
  | _ => simp [inSeconds]

theorem partInSeconds_partInSeconds (parts : List (String × Bool × Schema)) (name : String)
    (json : Json) :
    partInSeconds name (partInSeconds name json parts) parts = partInSeconds name json parts := by
  cases parts with
  | nil => rw [partInSeconds, partInSeconds]
  | cons part rest =>
      obtain ⟨other, isRequired, schema⟩ := part
      simp only [partInSeconds]
      split
      · exact inSeconds_inSeconds schema json
      · exact partInSeconds_partInSeconds rest name json

end

theorem membersInSeconds_membersInSeconds (parts : List (String × Bool × Schema))
    (members : Members) :
    (record parts).membersInSeconds ((record parts).membersInSeconds members) =
      (record parts).membersInSeconds members := by
  simp only [membersInSeconds_record, List.map_map, Function.comp_def,
    partInSeconds_partInSeconds]

/-! ## Zeros -/

theorem plainItemZeros_eq_map (items : List Json) :
    plainItemZeros items = items.map plainZeros := by
  induction items with
  | nil => rw [plainItemZeros, List.map_nil]
  | cons item rest inductionHypothesis =>
      rw [plainItemZeros, inductionHypothesis, List.map_cons]

theorem plainMemberZeros_eq_map (members : Members) :
    plainMemberZeros members = members.map fun entry => (entry.1, plainZeros entry.2) := by
  induction members with
  | nil => rw [plainMemberZeros, List.map_nil]
  | cons entry rest inductionHypothesis =>
      rw [plainMemberZeros, inductionHypothesis, List.map_cons]

theorem ofJson?_plainZeros (json : Json) :
    Instant.ofJson? (plainZeros json) = Instant.ofJson? json := by
  cases json <;> simp [plainZeros, Instant.ofJson?, asString?]

mutual

theorem plainZeros_inSeconds (schema : Schema) (json : Json) :
    plainZeros (schema.inSeconds json) = schema.inSeconds (plainZeros json) := by
  cases schema with
  | instant =>
      rw [inSeconds, inSeconds, ofJson?_plainZeros]
      cases Instant.ofJson? json with
      | none => rfl
      | some instant => simp [plainZeros]
  | list item =>
      have sameItem := plainZeros_inSeconds item
      cases json <;> simp [inSeconds, plainZeros, plainItemZeros_eq_map, sameItem]
  | table value =>
      have sameValue := plainZeros_inSeconds value
      cases json <;> simp [inSeconds, plainZeros, plainMemberZeros_eq_map, sameValue]
  | record parts =>
      have samePart := plainZeros_partInSeconds parts
      cases json <;> simp [inSeconds, plainZeros, plainMemberZeros_eq_map, samePart]
  | _ => simp [inSeconds]

theorem plainZeros_partInSeconds (parts : List (String × Bool × Schema)) (name : String)
    (json : Json) :
    plainZeros (partInSeconds name json parts) = partInSeconds name (plainZeros json) parts := by
  cases parts with
  | nil => rw [partInSeconds, partInSeconds]
  | cons part rest =>
      obtain ⟨other, isRequired, schema⟩ := part
      rw [partInSeconds, partInSeconds]
      split
      · exact plainZeros_inSeconds schema json
      · exact plainZeros_partInSeconds rest name json

end

/-- Cutting members to whole seconds does not change the signs of their zeros. -/
theorem plainMemberZeros_membersInSeconds (parts : List (String × Bool × Schema))
    (members : Members) :
    plainMemberZeros ((record parts).membersInSeconds members) =
      (record parts).membersInSeconds (plainMemberZeros members) := by
  simp only [membersInSeconds_record, plainMemberZeros_eq_map, List.map_map, Function.comp_def,
    plainZeros_partInSeconds]

end Schema

/-! ## Volumes -/

namespace Volume

/-- The kinds of volumes that hold no instants. -/
def isTimeless (type : String) : Bool :=
  match Schema.volume with
  | .record parts => Schema.isTimelessAt type parts
  | _ => false

theorem inSeconds_of_isTimeless {type : String} (timeless : isTimeless type = true) (name : String)
    (json : Json) :
    inSeconds { name, source := [(type, json)] } = { name, source := [(type, json)] } := by
  have kept : Schema.volume.membersInSeconds [(type, json)] = [(type, json)] := by
    apply Schema.membersInSeconds_of_isTimelessAt
    intro entry member
    rw [List.mem_singleton.mp member]
    exact timeless
  rw [inSeconds, kept]

theorem inSeconds_inSeconds (volume : Volume) : volume.inSeconds.inSeconds = volume.inSeconds := by
  rw [inSeconds, inSeconds, Schema.volume, Schema.membersInSeconds_membersInSeconds]

theorem plainZeros_inSeconds (volume : Volume) :
    volume.inSeconds.plainZeros = volume.plainZeros.inSeconds := by
  rw [plainZeros, plainZeros, inSeconds, inSeconds, Schema.volume,
    Schema.plainMemberZeros_membersInSeconds]

end Volume

end ClusterAudit
