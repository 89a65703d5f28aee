import ClusterAudit.Digest.Uuid
import ClusterAudit.Proofs.Naming

/-!
The digits of digests. The identifier of a name has 32 of them, and all are letters or digits that
names may have anywhere.
-/

namespace ClusterAudit

open Text

namespace Digest

theorem length_hexDigits (width value : Nat) : (hexDigits width value).length = width := by
  induction width generalizing value with
  | zero => rfl
  | succ width inductionHypothesis =>
      rw [hexDigits, List.length_append, inductionHypothesis, List.length_singleton]

theorem length_bigEndian (width value : Nat) : (bigEndian width value).length = width := by
  rw [bigEndian, List.length_map, List.length_range]

theorem length_sha1 (message : List UInt8) : (sha1 message).length = 20 := by
  simp [sha1, Sha1State.words, length_bigEndian]

theorem length_nameDigits (name : String) : (nameDigits name).length = 32 := by
  simp [nameDigits, nameIdentifier, length_hexDigits, length_sha1, List.map_const']

end Digest

namespace Naming

theorem isAlphanumeric_hexDigit : ∀ value < 16, isAlphanumeric (hexDigit value) = true := by
  decide

theorem isAlphanumeric_of_mem_hexDigits {width value : Nat} {character : Char}
    (member : character ∈ hexDigits width value) : isAlphanumeric character = true := by
  induction width generalizing value with
  | zero => cases member
  | succ width inductionHypothesis =>
      rcases List.mem_append.mp member with earlier | last
      · exact inductionHypothesis earlier
      · rw [List.mem_singleton.mp last]
        exact isAlphanumeric_hexDigit (value % 16) (Nat.mod_lt value (by decide))

theorem isAlphanumeric_of_mem_nameDigits {name : String} {character : Char}
    (member : character ∈ Digest.nameDigits name) : isAlphanumeric character = true := by
  obtain ⟨byte, _, isDigit⟩ := List.mem_flatMap.mp member
  exact isAlphanumeric_of_mem_hexDigits isDigit

end Naming

end ClusterAudit
