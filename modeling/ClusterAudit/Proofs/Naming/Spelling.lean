import ClusterAudit.Proofs.Naming
import Mathlib.Data.List.Chain
import Mathlib.Data.List.DropRight

/-!
The spelling of names. A name consists of labels between points; read character by character, it
starts and ends with a letter or a digit, and every point in it stands between letters or digits.
In this form it is plain that names joined by a dash are a name again, and so is the beginning of a
name without the dashes and points at its end.
-/

namespace ClusterAudit.Naming

/-- Labels between points. Only the length of a valid name is left open. -/
def isSubdomain (name : String) : Bool :=
  (Selector.split '.' name.toList).all isLabel

theorem isValid_iff {name : String} :
    isValid name = true ↔ name.toList.length ≤ 253 ∧ isSubdomain name = true := by
  simp [isValid, isSubdomain]

/-- The characters that names are made of. -/
def isNameCharacter (character : Char) : Bool :=
  isAlphanumeric character || character == '-' || character == '.'

/-- Of two characters side by side, one is a point only if the other is a letter or a digit. -/
def MayAdjoin (first second : Char) : Prop :=
  (first = '.' → isAlphanumeric second = true) ∧ (second = '.' → isAlphanumeric first = true)

/-- A text that is spelled like a name. -/
structure IsSpelled (text : List Char) : Prop where
  known : ∀ character ∈ text, isNameCharacter character = true
  starts : text.head?.any isAlphanumeric = true
  ends : text.getLast?.any isAlphanumeric = true
  spaced : text.IsChain MayAdjoin

theorem isAlphanumeric_of_ne {character : Char} (known : isNameCharacter character = true)
    (notDash : character ≠ '-') (notPoint : character ≠ '.') : isAlphanumeric character = true := by
  simpa [isNameCharacter, notDash, notPoint] using known

/-! ## Neighbours -/

section Neighbours

variable {first second : Char}

theorem ne_point_of_isAlphanumeric (plain : isAlphanumeric first = true) : first ≠ '.' := by
  rintro rfl
  exact absurd plain (by decide)

theorem mayAdjoin_of_ne_point (firstInside : first ≠ '.') (secondInside : second ≠ '.') :
    MayAdjoin first second :=
  ⟨fun point => absurd point firstInside, fun point => absurd point secondInside⟩

theorem mayAdjoin_of_isAlphanumeric_left (plain : isAlphanumeric first = true) :
    MayAdjoin first second :=
  ⟨fun point => absurd point (ne_point_of_isAlphanumeric plain), fun _ => plain⟩

theorem mayAdjoin_of_isAlphanumeric_right (plain : isAlphanumeric second = true) :
    MayAdjoin first second :=
  ⟨fun _ => plain, fun point => absurd point (ne_point_of_isAlphanumeric plain)⟩

theorem isChain_of_forall_ne_point {text : List Char}
    (inside : ∀ character ∈ text, character ≠ '.') : text.IsChain MayAdjoin := by
  induction text with
  | nil => exact List.IsChain.nil
  | cons initial rest inductionHypothesis =>
      have restInside : ∀ character ∈ rest, character ≠ '.' := by
        intro character member
        exact inside character (List.mem_cons_of_mem initial member)
      refine List.isChain_cons.mpr ⟨?_, inductionHypothesis restInside⟩
      intro next isNext
      exact mayAdjoin_of_ne_point (inside initial List.mem_cons_self)
        (restInside next (List.mem_of_mem_head? isNext))

end Neighbours

/-! ## Separators at the end -/

theorem withoutSeparatorsAtEnd_isPrefix (text : List Char) : withoutSeparatorsAtEnd text <+: text :=
  List.rdropWhile_prefix _ text

theorem withoutSeparatorsAtEnd_ne_nil {text : List Char} {character : Char}
    (member : character ∈ text) (plain : isAlphanumeric character = true) :
    withoutSeparatorsAtEnd text ≠ [] := by
  intro empty
  have isSeparator := List.rdropWhile_eq_nil_iff.mp empty character member
  rw [Bool.or_eq_true, beq_iff_eq, beq_iff_eq] at isSeparator
  rcases isSeparator with rfl | rfl
  · exact absurd plain (by decide)
  · exact absurd plain (by decide)

theorem getLast_withoutSeparatorsAtEnd {text : List Char}
    (filled : withoutSeparatorsAtEnd text ≠ []) :
    (withoutSeparatorsAtEnd text).getLast filled ≠ '-' ∧
      (withoutSeparatorsAtEnd text).getLast filled ≠ '.' := by
  have kept := List.rdropWhile_last_not _ text filled
  rw [Bool.or_eq_true, beq_iff_eq, beq_iff_eq] at kept
  exact not_or.mp kept

/-! ## Joining and cutting -/

namespace IsSpelled

variable {text first second : List Char} {mark : Char}

theorem exists_cons (spelled : IsSpelled text) :
    ∃ initial rest, text = initial :: rest ∧ isAlphanumeric initial = true := by
  have starts := spelled.starts
  cases text with
  | nil => exact absurd starts (by decide)
  | cons initial rest => exact ⟨initial, rest, rfl, starts⟩

theorem exists_concat (spelled : IsSpelled text) :
    ∃ others last, text = others ++ [last] ∧ isAlphanumeric last = true := by
  have ends := spelled.ends
  induction text using List.reverseRecOn with
  | nil => exact absurd ends (by decide)
  | append_singleton others last _ =>
      rw [List.getLast?_concat] at ends
      exact ⟨others, last, rfl, ends⟩

/-- Two names with a dash or a point between them. -/
theorem join (firstSpelled : IsSpelled first) (secondSpelled : IsSpelled second)
    (known : isNameCharacter mark = true) : IsSpelled (first ++ mark :: second) where
  known := by
    intro character member
    rcases List.mem_append.mp member with inFirst | inSecond
    · exact firstSpelled.known character inFirst
    · rcases List.mem_cons.mp inSecond with rfl | later
      · exact known
      · exact secondSpelled.known character later
  starts := by
    obtain ⟨initial, rest, rfl, plain⟩ := firstSpelled.exists_cons
    exact plain
  ends := by
    obtain ⟨others, last, rfl, plain⟩ := secondSpelled.exists_concat
    rw [← List.cons_append, ← List.append_assoc, List.getLast?_concat]
    exact plain
  spaced := by
    refine List.isChain_append.mpr ⟨firstSpelled.spaced, ?_, ?_⟩
    · refine List.isChain_cons.mpr ⟨?_, secondSpelled.spaced⟩
      obtain ⟨initial, rest, rfl, plain⟩ := secondSpelled.exists_cons
      rintro _ ⟨⟩
      exact mayAdjoin_of_isAlphanumeric_right plain
    · obtain ⟨others, last, rfl, plain⟩ := firstSpelled.exists_concat
      rw [List.getLast?_concat]
      rintro _ ⟨⟩ _ _
      exact mayAdjoin_of_isAlphanumeric_left plain

theorem of_join_left (spelled : IsSpelled (first ++ '.' :: second)) : IsSpelled first := by
  obtain ⟨firstSpaced, _, meets⟩ := List.isChain_append.mp spelled.spaced
  have starts := spelled.starts
  induction first using List.reverseRecOn with
  | nil =>
      have point : isAlphanumeric '.' = true := starts
      exact absurd point (by decide)
  | append_singleton others last _ =>
      refine ⟨?_, ?_, ?_, firstSpaced⟩
      · intro character member
        exact spelled.known character (List.mem_append_left _ member)
      · cases others with
        | nil => exact starts
        | cons initial rest => exact starts
      · rw [List.getLast?_concat] at meets ⊢
        exact (meets last rfl '.' rfl).2 rfl

theorem of_join_right (spelled : IsSpelled (first ++ '.' :: second)) : IsSpelled second := by
  obtain ⟨_, pointSpaced, _⟩ := List.isChain_append.mp spelled.spaced
  obtain ⟨follows, secondSpaced⟩ := List.isChain_cons.mp pointSpaced
  have ends := spelled.ends
  cases second with
  | nil =>
      rw [List.getLast?_concat] at ends
      exact absurd ends (by decide)
  | cons initial rest =>
      refine ⟨?_, ?_, ?_, secondSpaced⟩
      · intro character member
        exact spelled.known character
          (List.mem_append_right first (List.mem_cons_of_mem '.' member))
      · exact (follows initial rfl).1 rfl
      · rwa [List.getLast?_append_cons, List.getLast?_cons_cons] at ends

/-- The beginning of a name, up to a letter or a digit. -/
theorem of_isPrefix (spelled : IsSpelled text) (begins : first <+: text)
    (ends : first.getLast?.any isAlphanumeric = true) : IsSpelled first where
  known := by
    intro character member
    exact spelled.known character (begins.subset member)
  starts := by
    obtain ⟨rest, rfl⟩ := begins
    have starts := spelled.starts
    cases first with
    | nil => exact absurd ends (by decide)
    | cons initial others => exact starts
  ends := ends
  spaced := List.IsChain.prefix spelled.spaced begins

/-- A beginning of a name, which may end anywhere, without the separators at its end. -/
theorem withoutSeparatorsAtEnd_take (spelled : IsSpelled text) {size : Nat} (positive : 0 < size) :
    IsSpelled (withoutSeparatorsAtEnd (text.take size)) := by
  have taken : text.take size <+: text := List.take_prefix size text
  have begins := (withoutSeparatorsAtEnd_isPrefix (text.take size)).trans taken
  refine spelled.of_isPrefix begins ?_
  obtain ⟨initial, rest, rfl, plain⟩ := spelled.exists_cons
  obtain ⟨less, rfl⟩ := Nat.exists_eq_succ_of_ne_zero positive.ne'
  have filled : withoutSeparatorsAtEnd ((initial :: rest).take (less + 1)) ≠ [] :=
    withoutSeparatorsAtEnd_ne_nil List.mem_cons_self plain
  have inside := getLast_withoutSeparatorsAtEnd filled
  have known := spelled.known _ (begins.subset (List.getLast_mem filled))
  rw [List.getLast?_eq_some_getLast filled]
  exact isAlphanumeric_of_ne known inside.1 inside.2

end IsSpelled

/-! ## Labels -/

theorem isLabel_iff {part : List Char} :
    isLabel part = true ↔
      part.head?.any isAlphanumeric = true ∧ part.getLast?.any isAlphanumeric = true ∧
        ∀ character ∈ part, isAlphanumeric character = true ∨ character = '-' := by
  simp [isLabel, and_assoc]

theorem isSpelled_iff_isLabel {part : List Char} (inside : ∀ character ∈ part, character ≠ '.') :
    IsSpelled part ↔ isLabel part = true := by
  rw [isLabel_iff]
  constructor
  · intro spelled
    refine ⟨spelled.starts, spelled.ends, ?_⟩
    intro character member
    have known := spelled.known character member
    simpa [isNameCharacter, inside character member] using known
  · rintro ⟨starts, ends, allowed⟩
    refine ⟨?_, starts, ends, isChain_of_forall_ne_point inside⟩
    intro character member
    rcases allowed character member with plain | rfl
    · simp [isNameCharacter, plain]
    · decide

theorem isSpelled_of_forall_isAlphanumeric {text : List Char} (filled : text ≠ [])
    (plain : ∀ character ∈ text, isAlphanumeric character = true) : IsSpelled text where
  known := by
    intro character member
    simp [isNameCharacter, plain character member]
  starts := by
    rw [List.head?_eq_some_head filled]
    exact plain _ (List.head_mem filled)
  ends := by
    rw [List.getLast?_eq_some_getLast filled]
    exact plain _ (List.getLast_mem filled)
  spaced := isChain_of_forall_ne_point fun character member =>
    ne_point_of_isAlphanumeric (plain character member)

/-- A text is spelled like a name exactly if all its parts between points are labels. -/
theorem all_split_iff {text : List Char} :
    (Selector.split '.' text).all isLabel = true ↔ IsSpelled text := by
  by_cases pointed : '.' ∈ text
  · obtain ⟨part, rest, rfl, notMember⟩ := List.eq_append_cons_of_mem pointed
    have inside : ∀ character ∈ part, character ≠ '.' := by
      rintro character member rfl
      exact notMember member
    rw [Selector.split_append_cons inside, List.all_cons, Bool.and_eq_true, all_split_iff,
      ← isSpelled_iff_isLabel inside]
    constructor
    · rintro ⟨partSpelled, restSpelled⟩
      exact partSpelled.join restSpelled (by decide)
    · intro spelled
      exact ⟨spelled.of_join_left, spelled.of_join_right⟩
  · have inside : ∀ character ∈ text, character ≠ '.' := by
      rintro character member rfl
      exact pointed member
    rw [Selector.split_of_forall_ne inside, isSpelled_iff_isLabel inside, List.all_cons,
      List.all_nil, Bool.and_true]
termination_by text.length

theorem isSubdomain_iff {name : String} : isSubdomain name = true ↔ IsSpelled name.toList :=
  all_split_iff

end ClusterAudit.Naming
