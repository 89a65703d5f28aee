import ClusterAudit.Text.Blank
import Mathlib.Data.List.DropRight

/-!
Blanks at the ends of texts. What stands behind a character that is no blank is all that its end can
lose, and a blank in front of such a character is not at the end.
-/

namespace ClusterAudit.Text

theorem trimEnd_append_cons {first rest : List Char} {mark : Char}
    (solid : isBlank mark = false) :
    trimEnd (first ++ mark :: rest) = first ++ mark :: trimEnd rest := by
  -- `trimEnd` is by definition what the library calls `rdropWhile`, of which it has the laws.
  change List.rdropWhile isBlank _ = first ++ mark :: List.rdropWhile isBlank rest
  induction rest using List.reverseRecOn with
  | nil => exact List.rdropWhile_concat_neg isBlank first mark (by simp [solid])
  | append_singleton others last inductionHypothesis =>
      rw [← List.cons_append, ← List.append_assoc, List.rdropWhile_concat, List.rdropWhile_concat]
      cases isBlank last with
      | true => exact inductionHypothesis
      | false => simp

/-- A blank in front of anything else is not at the end. -/
theorem mem_trimEnd_cons {first solid : Char} {rest : List Char} (member : solid ∈ rest)
    (isSolid : isBlank solid = false) : first ∈ trimEnd (first :: rest) := by
  obtain ⟨before, after, rfl⟩ := List.append_of_mem member
  rw [← List.cons_append, trimEnd_append_cons isSolid]
  exact List.mem_append_left _ List.mem_cons_self

theorem exists_solid_of_trimEnd_ne_nil {text : List Char} (filled : trimEnd text ≠ []) :
    ∃ character ∈ text, isBlank character = false := by
  by_contra allBlank
  apply filled
  apply List.rdropWhile_eq_nil_iff.mpr
  intro character member
  by_contra solid
  exact allBlank ⟨character, member, Bool.eq_false_iff.mpr solid⟩

theorem exists_solid_of_trim_ne_empty {text : String} (filled : trim text ≠ "") :
    ∃ character ∈ text.toList, isBlank character = false := by
  have remains : trimEnd (trimStart text.toList) ≠ [] := by
    intro nothing
    apply filled
    rw [trim, trimmed, nothing]
  obtain ⟨character, member, solid⟩ := exists_solid_of_trimEnd_ne_nil remains
  exact ⟨character, (List.dropWhile_suffix isBlank).subset member, solid⟩

theorem trimStart_of_solid {text : List Char} (solid : text.head?.any isBlank = false) :
    trimStart text = text := by
  cases text with
  | nil => rfl
  | cons first rest =>
      have firstSolid : isBlank first = false := solid
      exact List.dropWhile_cons_of_neg (by simp [firstSolid])

theorem toList_trim_of_solid {text : String} (solid : text.toList.head?.any isBlank = false) :
    (trim text).toList = trimEnd text.toList := by
  rw [trim, String.toList_ofList, trimmed, trimStart_of_solid solid]

/-- A blank in front of a text that is not blank throughout. -/
theorem exists_blank_mem_trimEnd {text : String} (filled : trim text ≠ "")
    (blank : text.toList.head?.any isBlank = true) :
    ∃ character ∈ trimEnd text.toList, isBlank character = true := by
  obtain ⟨solid, member, isSolid⟩ := exists_solid_of_trim_ne_empty filled
  cases start : text.toList with
  | nil =>
      rw [start] at member
      cases member
  | cons first rest =>
      rw [start] at blank member
      have firstBlank : isBlank first = true := blank
      rcases List.mem_cons.mp member with rfl | later
      · exact absurd firstBlank (by simp [isSolid])
      · exact ⟨first, mem_trimEnd_cons later isSolid, firstBlank⟩

theorem trimEnd_cons {rest : List Char} {mark : Char} (solid : isBlank mark = false) :
    trimEnd (mark :: rest) = mark :: trimEnd rest :=
  @trimEnd_append_cons [] rest mark solid

theorem isBlank_of_trimStart_eq_cons {text rest : List Char} {first : Char}
    (start : trimStart text = first :: rest) : isBlank first = false := by
  have notBlank := List.head?_dropWhile_not isBlank text
  rw [← trimStart, start] at notBlank
  simpa using notBlank

/-- What has no blanks at its ends is not trimmed any further. -/
theorem trim_trim (text : String) : trim (trim text) = trim text := by
  have again : trimmed (trimmed text.toList) = trimmed text.toList := by
    cases start : trimStart text.toList with
    | nil =>
        have empty : trimmed text.toList = [] := by
          rw [trimmed, start]
          rfl
        rw [empty]
        rfl
    | cons first rest =>
        have solid := isBlank_of_trimStart_eq_cons start
        have atEnd : trimmed text.toList = first :: trimEnd rest := by
          rw [trimmed, start, trimEnd_cons solid]
        have kept : trimStart (first :: trimEnd rest) = first :: trimEnd rest :=
          List.dropWhile_cons_of_neg (by simp [solid])
        have twice : trimEnd (trimEnd rest) = trimEnd rest :=
          List.rdropWhile_idempotent isBlank rest
        rw [atEnd, trimmed, kept, trimEnd_cons solid, twice]
  rw [trim, trim, String.toList_ofList, again]

/-! ## Texts without blanks at their ends -/

/-- A text neither starts nor ends with a blank. -/
def HasSolidEnds (text : List Char) : Prop :=
  text.head?.any isBlank = false ∧ text.getLast?.any isBlank = false

instance (text : List Char) : Decidable (HasSolidEnds text) :=
  inferInstanceAs (Decidable (_ ∧ _))

theorem trimmed_of_hasSolidEnds {text : List Char} (ends : HasSolidEnds text) :
    trimmed text = text := by
  have reversed : text.reverse.head?.any isBlank = false := by
    rw [List.head?_reverse]
    exact ends.2
  rw [trimmed, trimStart_of_solid ends.1, trimEnd]
  change (trimStart text.reverse).reverse = text
  rw [trimStart_of_solid reversed, List.reverse_reverse]

theorem hasSolidEnds_of_forall {text : List Char}
    (solid : ∀ character ∈ text, isBlank character = false) : HasSolidEnds text := by
  constructor
  · rw [Option.any_eq_false_iff_get]
    intro filled
    exact solid _ (List.mem_of_mem_head? (Option.get_mem filled))
  · rw [Option.any_eq_false_iff_get]
    intro filled
    exact solid _ (List.mem_of_mem_getLast? (Option.get_mem filled))

theorem trimmed_eq_self {text : List Char}
    (solid : ∀ character ∈ text, isBlank character = false) : trimmed text = text :=
  trimmed_of_hasSolidEnds (hasSolidEnds_of_forall solid)

/-! ## Blanks around a text -/

section Around

variable {text blanks : List Char}

theorem trimEnd_append_of_blank (blank : ∀ character ∈ blanks, isBlank character = true) :
    trimEnd (text ++ blanks) = trimEnd text := by
  have reversed : ∀ character ∈ blanks.reverse, isBlank character = true := by
    simpa using blank
  rw [trimEnd, List.reverse_append, List.dropWhile_append_of_pos reversed, trimEnd]

theorem trimmed_append_of_blank (blank : ∀ character ∈ blanks, isBlank character = true) :
    trimmed (text ++ blanks) = trimmed text := by
  rw [trimmed, trimmed, trimStart, trimStart, List.dropWhile_append]
  split
  · next empty =>
      rw [List.dropWhile_eq_nil_iff.mpr blank, List.isEmpty_iff.mp empty]
  · exact trimEnd_append_of_blank blank

theorem trimmed_of_blank_append (blank : ∀ character ∈ blanks, isBlank character = true) :
    trimmed (blanks ++ text) = trimmed text := by
  rw [trimmed, trimmed, trimStart, trimStart, List.dropWhile_append_of_pos blank]

end Around

/-- What is lost at the end of a text are blanks. -/
theorem exists_trimEnd_append (text : List Char) :
    ∃ blanks, trimEnd text ++ blanks = text ∧ ∀ character ∈ blanks, isBlank character = true :=
  ⟨text.rtakeWhile isBlank, List.rdropWhile_append_rtakeWhile,
    fun _ member => List.mem_rtakeWhile_imp member⟩

/-- What stands in front of anything but blanks is not at the end. -/
theorem trimEnd_append_of_solid {first rest : List Char}
    (solid : ∃ character ∈ rest, isBlank character = false) :
    trimEnd (first ++ rest) = first ++ trimEnd rest := by
  obtain ⟨mark, member, isSolid⟩ := solid
  obtain ⟨before, after, rfl⟩ := List.append_of_mem member
  rw [← List.append_assoc, trimEnd_append_cons isSolid, trimEnd_append_cons isSolid,
    List.append_assoc]

/-- Of the characters of plain text only the space is blank. -/
theorem isBlank_of_visible {character : Char} (afterSpace : ' ' < character)
    (visible : character ≤ '~') : isBlank character = false := by
  have lower : 32 < character.toNat := by
    simpa [Char.lt_def, UInt32.lt_iff_toNat_lt] using afterSpace
  have upper : character.toNat ≤ 126 := by
    simpa [Char.le_def, UInt32.le_iff_toNat_le] using visible
  simp only [isBlank, Bool.or_eq_false_iff, Bool.and_eq_false_iff, decide_eq_false_iff_not,
    beq_eq_false_iff_ne]
  omega

end ClusterAudit.Text
