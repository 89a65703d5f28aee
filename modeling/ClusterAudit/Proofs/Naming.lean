import ClusterAudit.Naming
import ClusterAudit.Proofs.Labels
import ClusterAudit.Text.Decimal

/-!
Names of configurations. A name that the cluster accepts can be written into a selector as it is,
and the names that are made of it by different endings are different.
-/

namespace ClusterAudit.Naming

open Text

/-! ## Valid names -/

/-- A small letter or a decimal digit. -/
def isAlphanumeric (character : Char) : Bool :=
  ('a' ≤ character && character ≤ 'z') || isDigit character

/-- Letters, digits and dashes, with a letter or a digit at both ends. -/
def isLabel (part : List Char) : Bool :=
  part.head?.any isAlphanumeric && part.getLast?.any isAlphanumeric &&
    part.all fun character => isAlphanumeric character || character == '-'

/-- The names that the cluster accepts for objects: at most 253 characters, in parts between
points. -/
def isValid (name : String) : Bool :=
  name.toList.length ≤ 253 && (Selector.split '.' name.toList).all isLabel

theorem exists_mem_split {separator character : Char} {text : List Char}
    (member : character ∈ text) (inside : character ≠ separator) :
    ∃ part ∈ Selector.split separator text, character ∈ part := by
  induction text with
  | nil => cases member
  | cons first rest inductionHypothesis =>
      rw [Selector.split]
      by_cases parted : first = separator
      · rw [if_pos parted]
        rcases List.mem_cons.mp member with same | later
        · exact absurd (same.trans parted) inside
        · obtain ⟨part, partMember, found⟩ := inductionHypothesis later
          exact ⟨part, List.mem_cons_of_mem [] partMember, found⟩
      · rw [if_neg parted]
        cases parts : Selector.split separator rest with
        | nil =>
            rcases List.mem_cons.mp member with same | later
            · exact ⟨[first], by simp, by simp [same]⟩
            · obtain ⟨part, partMember, _⟩ := inductionHypothesis later
              rw [parts] at partMember
              cases partMember
        | cons head others =>
            rcases List.mem_cons.mp member with same | later
            · exact ⟨first :: head, List.mem_cons_self, by simp [same]⟩
            · obtain ⟨part, partMember, found⟩ := inductionHypothesis later
              rw [parts] at partMember
              rcases List.mem_cons.mp partMember with isHead | isOther
              · refine ⟨first :: head, List.mem_cons_self, ?_⟩
                rw [← isHead]
                exact List.mem_cons_of_mem first found
              · exact ⟨part, List.mem_cons_of_mem _ isOther, found⟩

theorem code_of_isAlphanumeric {character : Char} (plain : isAlphanumeric character = true) :
    48 ≤ character.toNat ∧ character.toNat ≤ 57 ∨ 97 ≤ character.toNat ∧ character.toNat ≤ 122 := by
  have letters : ∀ low high : Char, low ≤ character ∧ character ≤ high →
      low.toNat ≤ character.toNat ∧ character.toNat ≤ high.toNat := by
    intro low high between
    exact between
  simp only [isAlphanumeric, isDigit, Bool.or_eq_true, Bool.and_eq_true, decide_eq_true_eq]
    at plain
  rcases plain with letter | digit
  · exact Or.inr (letters 'a' 'z' letter)
  · exact Or.inl (letters '0' '9' digit)

theorem isPlain_of_isValid {name : String} (valid : isValid name = true) :
    Selector.isPlain name = true := by
  rw [isValid, Bool.and_eq_true, List.all_eq_true] at valid
  apply Selector.isPlain_iff.mpr
  intro character member
  have code : (48 ≤ character.toNat ∧ character.toNat ≤ 57 ∨
      97 ≤ character.toNat ∧ character.toNat ≤ 122) ∨ character = '-' ∨ character = '.' := by
    by_cases point : character = '.'
    · exact Or.inr (Or.inr point)
    · obtain ⟨part, partMember, found⟩ := exists_mem_split member point
      have label := valid.2 part partMember
      rw [isLabel, Bool.and_eq_true, List.all_eq_true] at label
      have allowed := label.2 character found
      rw [Bool.or_eq_true, beq_iff_eq] at allowed
      rcases allowed with alphanumeric | dash
      · exact Or.inl (code_of_isAlphanumeric alphanumeric)
      · exact Or.inr (Or.inl dash)
  rcases code with alphanumeric | dash | point
  · have comma : (',' : Char).toNat = 44 := by decide
    have equals : ('=' : Char).toNat = 61 := by decide
    refine ⟨?_, ?_, ?_⟩
    · intro same
      rw [same] at alphanumeric
      omega
    · intro same
      rw [same] at alphanumeric
      omega
    · simp only [isBlank, Bool.or_eq_false_iff, Bool.and_eq_false_iff, decide_eq_false_iff_not,
        beq_eq_false_iff_ne]
      omega
  · rw [dash]
    decide
  · rw [point]
    decide

/-! ## Different names -/

theorem append_ne_append {config left right : String} (different : left ≠ right) :
    config ++ left ≠ config ++ right := by
  intro same
  apply different
  have texts := congrArg String.toList same
  rw [String.toList_append, String.toList_append] at texts
  exact String.toList_inj.mp (List.append_cancel_left texts)

theorem ne_append {config ending : String} (filled : ending ≠ "") : config ≠ config ++ ending := by
  intro same
  have whole : config ++ "" = config ++ ending := by
    rw [String.append_empty]
    exact same
  exact append_ne_append filled.symm whole

theorem append_ne_empty {config ending : String} (filled : ending ≠ "") :
    config ++ ending ≠ "" := by
  intro empty
  have none : config.toList ++ ending.toList = [] := by
    rw [← String.toList_append, empty, String.toList_empty]
  exact filled (String.toList_eq_nil_iff.mp (List.append_eq_nil_iff.mp none).2)

theorem nodeCronJob?_ne_empty {config node name : String}
    (named : nodeCronJob? config node = some name) : name ≠ "" := by
  rw [nodeCronJob?] at named
  split at named
  · cases named
    rw [String.append_assoc]
    refine append_ne_empty ?_
    intro empty
    have texts := congrArg String.toList empty
    simp at texts
  · obtain ⟨kept, _, rfl⟩ := Option.map_eq_some_iff.mp named
    intro empty
    have texts := congrArg String.toList empty
    simp at texts

end ClusterAudit.Naming
