import ClusterAudit.Proofs.Condition
import Mathlib.Data.List.Induction

/-!
Conditions as records of their history. After any settings of conditions, of any types in any order,
each entry tells when its status last turned and what was last written to it, and the settings of
other types do not matter to it.
-/

namespace ClusterAudit

theorem Instant.isBefore_self (instant : Instant) : instant.isBefore instant = false := by
  simp [isBefore]

namespace Condition

/-! ## Settings -/

/-- A setting of a condition: what it is to be, when this is written, and at what time. -/
structure Setting where
  update : ConditionUpdate
  policy : UpdatePolicy
  now : Instant

/-- The type of the condition that is set. -/
def Setting.type (setting : Setting) : ConditionType :=
  setting.update.type

/-- The conditions after settings in their order, when there were none before. -/
def after (settings : List Setting) : List Condition :=
  settings.foldl
    (fun conditions setting => set conditions setting.update setting.policy setting.now) []

/-- A setting turns the status of its condition, or is the first of its type. -/
def Turns (before : List Setting) (setting : Setting) : Prop :=
  ∀ entry, find? (after before) setting.type = some entry → entry.status ≠ setting.update.status

/-- A setting is written: it is the first of its type, turns the status, is to be written always, or
is to be written where it differs and has another reason or message. -/
def IsWritten (before : List Setting) (setting : Setting) : Prop :=
  ∀ entry, find? (after before) setting.type = some entry →
    entry.status ≠ setting.update.status ∨ setting.policy = .always ∨
      setting.policy = .ifReasonOrMessageChange ∧
        (entry.reason ≠ setting.update.reason ∨ entry.message ≠ setting.update.message)

/-- The last setting of a type that has a property, given the settings before it. -/
def IsLast (property : List Setting → Setting → Prop) (type : ConditionType)
    (settings : List Setting) (last : Setting) : Prop :=
  ∃ before later, settings = before ++ last :: later ∧ last.type = type ∧ property before last ∧
    ∀ middle other rest, later = middle ++ other :: rest → other.type = type →
      ¬ property (before ++ last :: middle) other

/-- What an entry tells of the settings that have led to it. -/
structure Tells (settings : List Setting) (entry : Condition) : Prop where
  status : ∃ last, IsLast (fun _ _ => True) entry.type settings last ∧
    entry.status = last.update.status
  turned : ∃ last, IsLast Turns entry.type settings last ∧ entry.lastTransition = last.now
  written : ∃ last, IsLast IsWritten entry.type settings last ∧
    entry.reason = last.update.reason ∧ entry.message = last.update.message ∧
      entry.lastUpdate = last.now

section

variable {settings before : List Setting} {setting last : Setting} {type : ConditionType}
  {entry existing : Condition} {property : List Setting → Setting → Prop}

theorem Turns.isWritten (turns : Turns before setting) : IsWritten before setting :=
  fun entry found => Or.inl (turns entry found)

theorem Turns.of_none (unset : find? (after before) setting.type = none) :
    Turns before setting := by
  intro entry found
  rw [unset] at found
  cases found

/-! ## The last setting with a property -/

theorem IsLast.concat_self (sameType : setting.type = type) (holds : property settings setting) :
    IsLast property type (settings ++ [setting]) setting := by
  refine ⟨settings, [], rfl, sameType, holds, ?_⟩
  intro middle other rest none
  simp at none

theorem IsLast.concat (isLast : IsLast property type settings last)
    (passedOver : setting.type = type → ¬ property settings setting) :
    IsLast property type (settings ++ [setting]) last := by
  obtain ⟨before, later, rfl, sameType, holds, isOver⟩ := isLast
  refine ⟨before, later ++ [setting], by simp, sameType, holds, ?_⟩
  intro middle other rest split otherType
  rcases List.eq_nil_or_concat rest with rfl | ⟨rest, final, rfl⟩
  · obtain ⟨rfl, same⟩ := List.append_inj' split rfl
    cases same
    exact passedOver otherType
  · rw [List.concat_eq_append, ← List.cons_append, ← List.append_assoc] at split
    exact isOver middle other rest (List.append_inj' split rfl).1 otherType

/-! ## One more setting -/

theorem after_concat :
    after (settings ++ [setting]) =
      set (after settings) setting.update setting.policy setting.now := by
  rw [after, List.foldl_append]
  rfl

theorem find?_after_concat_self :
    find? (after (settings ++ [setting])) setting.type =
      some (next (find? (after settings) setting.type) setting.update setting.policy
        setting.now) := by
  rw [after_concat]
  exact find?_set_self

theorem find?_after_concat_of_ne (different : type ≠ setting.type) :
    find? (after (settings ++ [setting])) type = find? (after settings) type := by
  rw [after_concat]
  exact find?_set_of_ne different

/-- A setting that is new or turns the status is told in full. -/
theorem tells_fresh (turns : Turns settings setting) :
    Tells (settings ++ [setting]) (fresh setting.update setting.now) where
  status := ⟨setting, IsLast.concat_self rfl trivial, rfl⟩
  turned := ⟨setting, IsLast.concat_self rfl turns, rfl⟩
  written := ⟨setting, IsLast.concat_self rfl turns.isWritten, rfl, rfl, rfl⟩

theorem takesUpdate_iff :
    existing.takesUpdate setting.update setting.policy = true ↔
      setting.policy = .always ∨ setting.policy = .ifReasonOrMessageChange ∧
        (existing.reason ≠ setting.update.reason ∨ existing.message ≠ setting.update.message) := by
  cases policy : setting.policy <;> simp [takesUpdate]

/-- An entry that is set again tells of the new setting what the setting has written to it, and of
the earlier ones what it has told before. -/
theorem Tells.updated (tells : Tells settings existing)
    (found : find? (after settings) setting.type = some existing) :
    Tells (settings ++ [setting])
      (existing.updated setting.update setting.policy setting.now) := by
  have sameType : existing.type = setting.type := type_of_find? found
  rw [Condition.updated]
  by_cases sameStatus : existing.status = setting.update.status
  · rw [if_neg (by simp [sameStatus])]
    have notTurned : ¬ Turns settings setting := fun turns => turns existing found sameStatus
    have status : ∃ last, IsLast (fun _ _ => True) existing.type (settings ++ [setting]) last ∧
        existing.status = last.update.status :=
      ⟨setting, IsLast.concat_self sameType.symm trivial, sameStatus⟩
    obtain ⟨turn, isLastTurn, turnedAt⟩ := tells.turned
    have turned := isLastTurn.concat fun _ => notTurned
    by_cases takes : existing.takesUpdate setting.update setting.policy = true
    · have written : IsWritten settings setting := by
        intro entry foundEntry
        cases found.symm.trans foundEntry
        exact Or.inr (takesUpdate_iff.mp takes)
      rw [if_pos takes]
      exact ⟨status, ⟨turn, turned, turnedAt⟩,
        ⟨setting, IsLast.concat_self sameType.symm written, rfl, rfl, rfl⟩⟩
    · have notWritten : ¬ IsWritten settings setting := by
        intro written
        rcases written existing found with otherStatus | takesToo
        · exact otherStatus sameStatus
        · exact takes (takesUpdate_iff.mpr takesToo)
      obtain ⟨write, isLastWrite, writes⟩ := tells.written
      rw [if_neg takes]
      exact ⟨status, ⟨turn, turned, turnedAt⟩,
        ⟨write, isLastWrite.concat fun _ => notWritten, writes⟩⟩
  · rw [if_pos (bne_iff_ne.mpr sameStatus)]
    apply tells_fresh
    intro entry foundEntry
    cases found.symm.trans foundEntry
    exact sameStatus

/-- A setting of another type is no part of what an entry tells. -/
theorem Tells.of_ne (tells : Tells settings entry) (different : setting.type ≠ entry.type) :
    Tells (settings ++ [setting]) entry where
  status := by
    obtain ⟨last, isLast, same⟩ := tells.status
    exact ⟨last, isLast.concat fun sameType => absurd sameType different, same⟩
  turned := by
    obtain ⟨last, isLast, same⟩ := tells.turned
    exact ⟨last, isLast.concat fun sameType => absurd sameType different, same⟩
  written := by
    obtain ⟨last, isLast, same⟩ := tells.written
    exact ⟨last, isLast.concat fun sameType => absurd sameType different, same⟩

end

/-! ## All settings -/

theorem tells_of_find? (settings : List Setting) (type : ConditionType) (entry : Condition)
    (found : find? (after settings) type = some entry) : Tells settings entry := by
  induction settings using List.reverseRecOn generalizing type entry with
  | nil => cases found
  | append_singleton settings setting inductionHypothesis =>
      by_cases sameType : type = setting.type
      · subst sameType
        rw [find?_after_concat_self] at found
        cases Option.some.inj found
        cases before : find? (after settings) setting.type with
        | none => exact tells_fresh (Turns.of_none before)
        | some existing =>
            exact (inductionHypothesis setting.type existing before).updated before
      · rw [find?_after_concat_of_ne sameType] at found
        have entryType : setting.type ≠ entry.type := by
          rw [type_of_find? found]
          exact fun same => sameType same.symm
        exact (inductionHypothesis type entry found).of_ne entryType

theorem eraseDups_concat {Item : Type} [DecidableEq Item] (items : List Item) (item : Item) :
    (items ++ [item]).eraseDups =
      if item ∈ items then items.eraseDups else items.eraseDups ++ [item] := by
  rw [List.eraseDups_append, List.removeAll]
  by_cases present : item ∈ items
  · simp [present]
  · simp [present, List.eraseDups_cons]

/-- There is one entry for each type that was set, in the order in which they were first set. -/
theorem types_after (settings : List Setting) :
    types (after settings) = (settings.map Setting.type).eraseDups := by
  induction settings using List.reverseRecOn with
  | nil => rfl
  | append_singleton settings setting inductionHypothesis =>
      have sameMembers : setting.type ∈ types (after settings) ↔
          setting.type ∈ settings.map Setting.type := by
        rw [inductionHypothesis, List.mem_eraseDups]
      rw [List.map_append, List.map_singleton, eraseDups_concat, after_concat, types_set,
        ← inductionHypothesis]
      simp only [← sameMembers]
      rfl

theorem nodup_types_after (settings : List Setting) : (types (after settings)).Nodup := by
  induction settings using List.reverseRecOn with
  | nil => exact List.nodup_nil
  | append_singleton settings setting inductionHypothesis =>
      rw [after_concat]
      exact nodup_types_set inductionHypothesis

/-- The entry of a type is what the settings of that type alone would have led to. -/
theorem find?_after_filter (settings : List Setting) (type : ConditionType) :
    find? (after (settings.filter fun setting => setting.type == type)) type =
      find? (after settings) type := by
  induction settings using List.reverseRecOn with
  | nil => rfl
  | append_singleton settings setting inductionHypothesis =>
      rw [List.filter_append]
      by_cases sameType : setting.type = type
      · subst sameType
        simp only [List.filter_cons, List.filter_nil, beq_self_eq_true, if_true]
        rw [find?_after_concat_self, find?_after_concat_self, inductionHypothesis]
      · have otherType : (setting.type == type) = false := beq_eq_false_iff_ne.mpr sameType
        simp only [List.filter_cons, List.filter_nil, otherType, Bool.false_eq_true, if_false,
          List.append_nil]
        rw [find?_after_concat_of_ne fun same => sameType same.symm, inductionHypothesis]

/-- The status never turned after the last time that something was written. -/
theorem Tells.isBefore_eq_false {settings : List Setting} {entry : Condition}
    (tells : Tells settings entry)
    (increase : settings.Pairwise fun earlier later => later.now.isBefore earlier.now = false) :
    entry.lastUpdate.isBefore entry.lastTransition = false := by
  obtain ⟨turn, ⟨before, later, split, turnType, turns, _⟩, turnedAt⟩ := tells.turned
  obtain ⟨write, ⟨writeBefore, writeLater, writeSplit, _, _, isLast⟩, _, _, writtenAt⟩ :=
    tells.written
  rw [turnedAt, writtenAt]
  subst split
  rcases List.append_eq_append_iff.mp writeSplit with ⟨between, rfl, rest⟩ | ⟨between, rfl, rest⟩
  · rcases List.cons_eq_append_iff.mp rest with ⟨rfl, isTurn⟩ | ⟨between, rfl, rfl⟩
    · cases isTurn
      exact Instant.isBefore_self _
    · -- The turn comes before the last writing.
      have afterTurn := (List.pairwise_cons.mp (List.pairwise_append.mp increase).2.1).1
      exact afterTurn write (List.mem_append_right between List.mem_cons_self)
  · rcases List.cons_eq_append_iff.mp rest with ⟨rfl, isTurn⟩ | ⟨between, rfl, rfl⟩
    · cases isTurn
      exact Instant.isBefore_self _
    · -- A turn after the last writing would have been written.
      exact absurd turns.isWritten (isLast between turn later rfl turnType)

/-- The law of conditions. The entries are those of the types that were set, each once, in the order
in which the types were first set. Each is what the settings of its type alone lead to, and tells of
them when the status last turned, and what was written last. While time does not run backwards, no
status turns later than the last writing. -/
theorem tells_history (settings : List Setting) :
    types (after settings) = (settings.map Setting.type).eraseDups ∧
    (types (after settings)).Nodup ∧
    (∀ type, find? (after (settings.filter fun setting => setting.type == type)) type =
      find? (after settings) type) ∧
    (∀ entry ∈ after settings, Tells settings entry) ∧
    ((settings.Pairwise fun earlier later => later.now.isBefore earlier.now = false) →
      ∀ entry ∈ after settings, entry.lastUpdate.isBefore entry.lastTransition = false) := by
  have tells : ∀ entry ∈ after settings, Tells settings entry := by
    intro entry member
    exact tells_of_find? settings entry.type entry
      (find?_of_mem (nodup_types_after settings) member)
  refine ⟨types_after settings, nodup_types_after settings, find?_after_filter settings, tells, ?_⟩
  intro increase entry member
  exact (tells entry member).isBefore_eq_false increase

/-- The webhook fails, and goes on failing, while the scan API is well. The failure is set again with
another message, which is not written the first time. -/
def troubledWebhook : List Setting := [
  { update := .ofDegraded .admissionDegraded true "WebhookDown" "no pods"
    policy := .ifReasonOrMessageChange
    now := { seconds := 10, nanos := 0 } },
  { update := .ofDegraded .scanApiDegraded false "ScanApiAvailable" "ready"
    policy := .ifReasonOrMessageChange
    now := { seconds := 10, nanos := 5 } },
  { update := .ofDegraded .admissionDegraded true "WebhookDown" "one pod"
    policy := .never
    now := { seconds := 20, nanos := 0 } },
  { update := .ofDegraded .admissionDegraded true "WebhookDown" "one pod"
    policy := .ifReasonOrMessageChange
    now := { seconds := 30, nanos := 0 } },
  { update := .ofDegraded .scanApiDegraded false "ScanApiAvailable" "ready"
    policy := .always
    now := { seconds := 40, nanos := 0 } }]

/-- The failure has lasted since it was first set, and its message was written later. -/
theorem tells_troubledWebhook :
    (troubledWebhook.Pairwise fun earlier later => later.now.isBefore earlier.now = false) ∧
    (after troubledWebhook).map Condition.lastTransition =
      [{ seconds := 10, nanos := 0 }, { seconds := 10, nanos := 5 }] ∧
    (after troubledWebhook).map Condition.lastUpdate =
      [{ seconds := 30, nanos := 0 }, { seconds := 40, nanos := 0 }] ∧
    ∀ entry ∈ after troubledWebhook, entry.lastUpdate.isBefore entry.lastTransition = false := by
  have increase : troubledWebhook.Pairwise fun earlier later =>
      later.now.isBefore earlier.now = false := by decide
  exact ⟨increase, by decide, by decide, (tells_history troubledWebhook).2.2.2.2 increase⟩

end Condition

end ClusterAudit
