import Mathlib.Data.List.TakeWhile

/-!
Texts that are parted at the first place of a mark. What stands before it is taken, and what is left
starts with it; a text without the mark is taken as a whole.
-/

namespace ClusterAudit.Text

variable {mark : Char} {first rest text : List Char}

theorem bne_of_notMem (absent : mark ∉ text) :
    ∀ character ∈ text, (character != mark) = true := by
  intro character member
  exact bne_iff_ne.mpr fun isMark => absent (isMark ▸ member)

theorem takeWhile_bne_of_notMem (absent : mark ∉ text) : text.takeWhile (· != mark) = text :=
  List.takeWhile_eq_self_iff.mpr (bne_of_notMem absent)

theorem dropWhile_bne_of_notMem (absent : mark ∉ text) : text.dropWhile (· != mark) = [] :=
  List.dropWhile_eq_nil_iff.mpr (bne_of_notMem absent)

theorem takeWhile_bne_append_cons (absent : mark ∉ first) :
    (first ++ mark :: rest).takeWhile (· != mark) = first := by
  rw [List.takeWhile_append_of_pos (bne_of_notMem absent)]
  simp

theorem dropWhile_bne_append_cons (absent : mark ∉ first) :
    (first ++ mark :: rest).dropWhile (· != mark) = mark :: rest := by
  rw [List.dropWhile_append_of_pos (bne_of_notMem absent)]
  simp

end ClusterAudit.Text
