import ClusterAudit.Proofs.Digest
import ClusterAudit.Proofs.Naming.Spelling
import ClusterAudit.Proofs.Quantity.Words

/-!
Names of node scans. The name of a scan is made of the names of its configuration and its node, and
is cut if it is long. It is always a valid name that leaves room for the suffixes of jobs. Two scans
share a name if the name of the one configuration runs into that of the other's node, and also if a
cut makes their names the same; in no other case do two scans share one.
-/

namespace ClusterAudit.Naming

open Quantity.Words (bytes length_bytes_cons takeBytes?_append utf8ByteSize_eq)

/-- The scan of a node for a configuration, both by their names. -/
structure Scan where
  config : String
  node : String
deriving DecidableEq, Repr

namespace Scan

/-- Both names are spelled as the cluster asks for. -/
def IsNamed (scan : Scan) : Prop :=
  isSubdomain scan.config = true ∧ isSubdomain scan.node = true

/-- Both names are ones that the cluster accepts. -/
def IsValid (scan : Scan) : Prop :=
  isValid scan.config = true ∧ isValid scan.node = true

/-- The name of the scan if there is room for it. -/
def fullName (scan : Scan) : String :=
  scan.config ++ "-node-" ++ scan.node

def IsLong (scan : Scan) : Prop :=
  nodeScanMost < scan.fullName.utf8ByteSize

instance (scan : Scan) : Decidable scan.IsLong :=
  inferInstanceAs (Decidable (_ < _))

/-- What is left of a long name. -/
def stem (scan : Scan) : List Char :=
  withoutSeparatorsAtEnd (scan.fullName.toList.take (nodeScanMost - 9))

/-- The digits that stand for all of a long name. -/
def mark (scan : Scan) : List Char :=
  (Digest.nameDigits scan.fullName).take 8

def shortName (scan : Scan) : String :=
  String.ofList (scan.stem ++ '-' :: scan.mark)

/-- The name of the second configuration goes on where that of the first one ends, by as much as the
first node has before the second one. The separators in the two names share a dash or stand
apart. -/
def RunsInto (first second : Scan) : Prop :=
  (second.config = first.config ++ "-node" ∧ first.node = "node-" ++ second.node) ∨
    ∃ middle, second.config = first.config ++ "-node-" ++ middle ∧
      first.node = middle ++ "-node-" ++ second.node

/-- Both names are long, and the cut leaves nothing of what tells them apart. -/
def SharesCut (first second : Scan) : Prop :=
  first.IsLong ∧ second.IsLong ∧ first.stem = second.stem ∧ first.mark = second.mark

/-- The first name is not long, and it is what the second one is cut to. -/
def IsCutOf (first second : Scan) : Prop :=
  ¬ first.IsLong ∧ second.IsLong ∧ first.fullName = second.shortName

end Scan

/-! ## Bytes of names -/

theorem utf8Size_of_isNameCharacter {character : Char} (known : isNameCharacter character = true) :
    character.utf8Size = 1 := by
  apply Char.utf8Size_eq_one_iff.mpr
  change character.toNat ≤ 127
  simp only [isNameCharacter, Bool.or_eq_true, beq_iff_eq] at known
  rcases known with (plain | rfl) | rfl
  · have code := code_of_isAlphanumeric plain
    omega
  · decide
  · decide

theorem length_bytes_of_known {text : List Char}
    (known : ∀ character ∈ text, isNameCharacter character = true) :
    (bytes text).length = text.length := by
  induction text with
  | nil => rfl
  | cons first rest inductionHypothesis =>
      have restKnown : ∀ character ∈ rest, isNameCharacter character = true := by
        intro character member
        exact known character (List.mem_cons_of_mem first member)
      rw [length_bytes_cons, inductionHypothesis restKnown, List.length_cons,
        utf8Size_of_isNameCharacter (known first List.mem_cons_self), Nat.add_comm]

theorem takeBytes?_of_known {text : List Char} {size : Nat}
    (known : ∀ character ∈ text, isNameCharacter character = true) (long : size ≤ text.length) :
    takeBytes? size text = some (text.take size) := by
  have takenKnown : ∀ character ∈ text.take size, isNameCharacter character = true := by
    intro character member
    exact known character (List.mem_of_mem_take member)
  have taken := takeBytes?_append (text.take size) (text.drop size)
  rwa [length_bytes_of_known takenKnown, List.length_take_of_le long, List.take_append_drop]
    at taken

theorem isValid_of_isSpelled {name : String} (spelled : IsSpelled name.toList)
    (short : name.toList.length ≤ nodeScanMost) :
    isValid name = true ∧ name.utf8ByteSize ≤ nodeScanMost := by
  constructor
  · exact isValid_iff.mpr ⟨short.trans (by decide), isSubdomain_iff.mpr spelled⟩
  · rwa [utf8ByteSize_eq, length_bytes_of_known spelled.known]

/-! ## Valid names -/

namespace Scan

variable {scan first second : Scan}

theorem isSpelled_fullName (named : scan.IsNamed) : IsSpelled scan.fullName.toList := by
  have dash : isNameCharacter '-' = true := by decide
  have middle : IsSpelled "node".toList := all_split_iff.mp (by decide)
  have joined := (isSubdomain_iff.mp named.1).join
    (middle.join (isSubdomain_iff.mp named.2) dash) dash
  simpa [fullName] using joined

theorem length_mark (scan : Scan) : scan.mark.length = 8 := by
  rw [mark, List.length_take, Digest.length_nameDigits]
  decide

theorem isSpelled_mark (scan : Scan) : IsSpelled scan.mark := by
  apply isSpelled_of_forall_isAlphanumeric
  · intro empty
    have length := scan.length_mark
    rw [empty, List.length_nil] at length
    cases length
  · intro character member
    exact isAlphanumeric_of_mem_nameDigits (List.mem_of_mem_take member)

theorem utf8ByteSize_fullName (named : scan.IsNamed) :
    scan.fullName.utf8ByteSize = scan.fullName.toList.length := by
  rw [utf8ByteSize_eq, length_bytes_of_known (isSpelled_fullName named).known]

theorem isSpelled_shortName (named : scan.IsNamed) : IsSpelled scan.shortName.toList := by
  rw [shortName, String.toList_ofList]
  exact ((isSpelled_fullName named).withoutSeparatorsAtEnd_take (by decide)).join
    scan.isSpelled_mark (by decide)

theorem length_shortName_le (scan : Scan) : scan.shortName.toList.length ≤ nodeScanMost := by
  have cut := (withoutSeparatorsAtEnd_isPrefix
    (scan.fullName.toList.take (nodeScanMost - 9))).length_le
  have taken := List.length_take_le (nodeScanMost - 9) scan.fullName.toList
  rw [shortName, String.toList_ofList, List.length_append, List.length_cons, length_mark, stem]
  simp only [nodeScanMost] at cut taken ⊢
  omega

theorem nodeCronJob?_of_not_isLong (short : ¬ scan.IsLong) :
    nodeCronJob? scan.config scan.node = some scan.fullName :=
  if_pos (Nat.not_lt.mp short)

theorem nodeCronJob?_of_isLong (named : scan.IsNamed) (long : scan.IsLong) :
    nodeCronJob? scan.config scan.node = some scan.shortName := by
  have known := (isSpelled_fullName named).known
  have enough : nodeScanMost - 9 ≤ scan.fullName.toList.length := by
    rw [← utf8ByteSize_fullName named]
    exact (Nat.sub_le _ _).trans (Nat.le_of_lt long)
  have taken := takeBytes?_of_known known enough
  simp only [fullName, IsLong] at taken long
  rw [nodeCronJob?, if_neg (Nat.not_le.mpr long), taken]
  rfl

end Scan

/-- The name of every node scan is valid and leaves room for the suffixes of jobs, and it is cut
only where there is no room for all of it. -/
theorem exists_valid_nodeCronJob? {config node : String} (configNamed : isSubdomain config = true)
    (nodeNamed : isSubdomain node = true) :
    ∃ name, nodeCronJob? config node = some name ∧ isValid name = true ∧
      name.utf8ByteSize ≤ 52 ∧
      ((config ++ "-node-" ++ node).utf8ByteSize ≤ 52 → name = config ++ "-node-" ++ node) := by
  have named : Scan.IsNamed ⟨config, node⟩ := ⟨configNamed, nodeNamed⟩
  by_cases long : Scan.IsLong ⟨config, node⟩
  · have valid := isValid_of_isSpelled (Scan.isSpelled_shortName named)
      (Scan.length_shortName_le _)
    have isName := Scan.nodeCronJob?_of_isLong named long
    refine ⟨_, isName, valid.1, valid.2, ?_⟩
    intro room
    exact absurd room (Nat.not_le.mpr long)
  · have fits := Nat.not_lt.mp long
    rw [Scan.utf8ByteSize_fullName named] at fits
    have valid := isValid_of_isSpelled (Scan.isSpelled_fullName named) fits
    have isName := Scan.nodeCronJob?_of_not_isLong long
    refine ⟨_, isName, valid.1, valid.2, ?_⟩
    intro _
    rfl

/-- A cut inside a run of dashes. -/
theorem exists_valid_nodeCronJob?_dashes :
    isSubdomain "audit" = true ∧
      isSubdomain "east-1----------------------------------------1" = true ∧
      ∃ name, nodeCronJob? "audit" "east-1----------------------------------------1" = some name ∧
        isValid name = true ∧ name.utf8ByteSize ≤ 52 ∧
        (("audit" ++ "-node-" ++
            "east-1----------------------------------------1").utf8ByteSize ≤ 52 →
          name = "audit" ++ "-node-" ++ "east-1----------------------------------------1") := by
  have configNamed : isSubdomain "audit" = true := by decide
  have nodeNamed : isSubdomain "east-1----------------------------------------1" = true := by
    decide
  exact ⟨configNamed, nodeNamed, exists_valid_nodeCronJob? configNamed nodeNamed⟩

/-! ## Shared names -/

namespace Scan

variable {first second : Scan}

/-- What is between the beginnings of two separators in a text: nothing, or all of the first but a
dash that both have in common, or the first and some text. -/
theorem between_cases {left right between : List Char}
    (same : "-node-".toList ++ left = between ++ ("-node-".toList ++ right)) :
    (between = [] ∧ left = right) ∨
      (between = "-node".toList ∧ left = "node-".toList ++ right) ∨
      ∃ middle, between = "-node-".toList ++ middle ∧
        left = middle ++ ("-node-".toList ++ right) := by
  rcases between with _ | ⟨a, _ | ⟨b, _ | ⟨c, _ | ⟨d, _ | ⟨e, _ | ⟨f, middle⟩⟩⟩⟩⟩⟩
  · exact Or.inl ⟨rfl, List.append_cancel_left same⟩
  -- One to four characters on, the second separator would begin with a letter of the first.
  · simp at same
  · simp at same
  · simp at same
  · simp at same
  · obtain ⟨rfl, rfl, rfl, rfl, rfl, leftIs⟩ : '-' = a ∧ 'n' = b ∧ 'o' = c ∧ 'd' = d ∧ 'e' = e ∧
        left = "node-".toList ++ right := by
      simpa using same
    exact Or.inr (Or.inl ⟨rfl, leftIs⟩)
  · obtain ⟨rfl, rfl, rfl, rfl, rfl, rfl, leftIs⟩ : '-' = a ∧ 'n' = b ∧ 'o' = c ∧ 'd' = d ∧
        'e' = e ∧ '-' = f ∧ left = middle ++ ("-node-".toList ++ right) := by
      simpa using same
    exact Or.inr (Or.inr ⟨middle, rfl, leftIs⟩)

theorem eq_or_runsInto {between : List Char} (same : first.fullName = second.fullName)
    (longer : second.config.toList = first.config.toList ++ between) :
    first = second ∨ first.RunsInto second := by
  have texts := congrArg String.toList same
  simp only [fullName, String.toList_append, longer, List.append_assoc] at texts
  rcases between_cases (List.append_cancel_left texts) with equal | closely | apart
  · obtain ⟨rfl, nodes⟩ := equal
    rw [List.append_nil] at longer
    left
    cases first
    cases second
    exact congrArg₂ Scan.mk (String.toList_inj.mp longer.symm) (String.toList_inj.mp nodes)
  · obtain ⟨rfl, nodes⟩ := closely
    refine Or.inr (Or.inl ⟨?_, ?_⟩)
    · exact String.toList_inj.mp (longer.trans String.toList_append.symm)
    · exact String.toList_inj.mp (nodes.trans String.toList_append.symm)
  · obtain ⟨middle, rfl, nodes⟩ := apart
    refine Or.inr (Or.inr ⟨String.ofList middle, ?_, ?_⟩)
    · apply String.toList_inj.mp
      simp [longer]
    · apply String.toList_inj.mp
      simp [nodes]

theorem RunsInto.fullName_eq (runs : first.RunsInto second) : first.fullName = second.fullName := by
  rcases runs with ⟨configIs, nodeIs⟩ | ⟨middle, configIs, nodeIs⟩
  · apply String.toList_inj.mp
    simp [fullName, configIs, nodeIs]
  · simp only [fullName, configIs, nodeIs, String.append_assoc]

/-- Two scans have the same name in full exactly if they are the same, or if the name of the one
configuration runs into that of the other's node. -/
theorem fullName_eq_iff :
    first.fullName = second.fullName ↔
      first = second ∨ first.RunsInto second ∨ second.RunsInto first := by
  constructor
  · intro same
    have texts := congrArg String.toList same
    simp only [fullName, String.toList_append, List.append_assoc] at texts
    rcases List.append_eq_append_iff.mp texts with ⟨_, longer, _⟩ | ⟨_, shorter, _⟩
    · rcases eq_or_runsInto same longer with equal | runs
      · exact Or.inl equal
      · exact Or.inr (Or.inl runs)
    · rcases eq_or_runsInto same.symm shorter with equal | runs
      · exact Or.inl equal.symm
      · exact Or.inr (Or.inr runs)
  · rintro (rfl | runs | runs)
    · rfl
    · exact runs.fullName_eq
    · exact runs.fullName_eq.symm

theorem shortName_eq_iff :
    first.shortName = second.shortName ↔ first.stem = second.stem ∧ first.mark = second.mark := by
  constructor
  · intro same
    have texts := String.ofList_injective same
    have lengths : ('-' :: first.mark).length = ('-' :: second.mark).length := by
      rw [List.length_cons, List.length_cons, length_mark, length_mark]
    obtain ⟨stems, marks⟩ := List.append_inj' texts lengths
    exact ⟨stems, (List.cons.inj marks).2⟩
  · rintro ⟨stems, marks⟩
    rw [shortName, shortName, stems, marks]

theorem nodeCronJob?_congr (same : first.fullName = second.fullName) :
    nodeCronJob? first.config first.node = nodeCronJob? second.config second.node := by
  simp only [fullName] at same
  simp only [nodeCronJob?, same]

end Scan

/-- Two scans share a name exactly if they are the same, if the name of the one configuration runs
into that of the other's node, if both are cut to the same name, or if the one is cut to what the
other one is called. -/
theorem nodeCronJob?_eq_iff {first second : Scan} (firstNamed : first.IsNamed)
    (secondNamed : second.IsNamed) :
    nodeCronJob? first.config first.node = nodeCronJob? second.config second.node ↔
      first = second ∨ first.RunsInto second ∨ second.RunsInto first ∨
        first.SharesCut second ∨ first.IsCutOf second ∨ second.IsCutOf first := by
  constructor
  · intro same
    by_cases firstLong : first.IsLong
    · rw [Scan.nodeCronJob?_of_isLong firstNamed firstLong] at same
      by_cases secondLong : second.IsLong
      · rw [Scan.nodeCronJob?_of_isLong secondNamed secondLong] at same
        have cut := Scan.shortName_eq_iff.mp (Option.some.inj same)
        exact Or.inr (Or.inr (Or.inr (Or.inl ⟨firstLong, secondLong, cut⟩)))
      · rw [Scan.nodeCronJob?_of_not_isLong secondLong] at same
        have cut := (Option.some.inj same).symm
        exact Or.inr (Or.inr (Or.inr (Or.inr (Or.inr ⟨secondLong, firstLong, cut⟩))))
    · rw [Scan.nodeCronJob?_of_not_isLong firstLong] at same
      by_cases secondLong : second.IsLong
      · rw [Scan.nodeCronJob?_of_isLong secondNamed secondLong] at same
        have cut := Option.some.inj same
        exact Or.inr (Or.inr (Or.inr (Or.inr (Or.inl ⟨firstLong, secondLong, cut⟩))))
      · rw [Scan.nodeCronJob?_of_not_isLong secondLong] at same
        rcases Scan.fullName_eq_iff.mp (Option.some.inj same) with equal | runs | runs
        · exact Or.inl equal
        · exact Or.inr (Or.inl runs)
        · exact Or.inr (Or.inr (Or.inl runs))
  · rintro (rfl | runs | runs | cut | cut | cut)
    · rfl
    · exact Scan.nodeCronJob?_congr runs.fullName_eq
    · exact Scan.nodeCronJob?_congr runs.fullName_eq.symm
    · obtain ⟨firstLong, secondLong, same⟩ := cut
      rw [Scan.nodeCronJob?_of_isLong firstNamed firstLong,
        Scan.nodeCronJob?_of_isLong secondNamed secondLong, Scan.shortName_eq_iff.mpr same]
    · obtain ⟨firstShort, secondLong, same⟩ := cut
      rw [Scan.nodeCronJob?_of_not_isLong firstShort,
        Scan.nodeCronJob?_of_isLong secondNamed secondLong, same]
    · obtain ⟨secondShort, firstLong, same⟩ := cut
      rw [Scan.nodeCronJob?_of_not_isLong secondShort,
        Scan.nodeCronJob?_of_isLong firstNamed firstLong, same]

/-- The separators in the two names share a dash. -/
theorem nodeCronJob?_eq_sharedDash :
    Scan.IsNamed ⟨"audit", "node-1"⟩ ∧ Scan.IsNamed ⟨"audit-node", "1"⟩ ∧
      nodeCronJob? "audit" "node-1" = nodeCronJob? "audit-node" "1" := by
  have firstNamed : Scan.IsNamed ⟨"audit", "node-1"⟩ := ⟨by decide, by decide⟩
  have secondNamed : Scan.IsNamed ⟨"audit-node", "1"⟩ := ⟨by decide, by decide⟩
  have runs : Scan.RunsInto ⟨"audit", "node-1"⟩ ⟨"audit-node", "1"⟩ :=
    Or.inl ⟨by decide, by decide⟩
  exact ⟨firstNamed, secondNamed, (nodeCronJob?_eq_iff firstNamed secondNamed).mpr
    (Or.inr (Or.inl runs))⟩

/-- Valid names of configurations and nodes whose scans share a name: those of two configurations,
and those of two nodes of one configuration, of which one or both are long. -/
theorem exists_shared_nodeCronJob? :
    (∃ first second : Scan, first.config ≠ second.config ∧ first.IsValid ∧ second.IsValid ∧
      nodeCronJob? first.config first.node = nodeCronJob? second.config second.node) ∧
    (∃ first second : Scan, first.config = second.config ∧ first.node ≠ second.node ∧
      ¬ first.IsLong ∧ second.IsLong ∧ first.IsValid ∧ second.IsValid ∧
      nodeCronJob? first.config first.node = nodeCronJob? second.config second.node) ∧
    ∃ first second : Scan, first.config = second.config ∧ first.node ≠ second.node ∧
      first.IsLong ∧ second.IsLong ∧ first.IsValid ∧ second.IsValid ∧
      nodeCronJob? first.config first.node = nodeCronJob? second.config second.node := by
  -- In the second pair the short name ends with the digits of the long one. The last two long names
  -- have the same first 43 characters, and their digests begin with the same eight digits.
  refine ⟨⟨⟨"audit", "blue-node-1"⟩, ⟨"audit-node-blue", "1"⟩, ?_⟩,
    ⟨⟨"audit", "ip-10-0-127-214.eu-central-1.com-8e95f568"⟩,
      ⟨"audit", "ip-10-0-127-214.eu-central-1.compute.internal"⟩, ?_⟩,
    ⟨"audit", "workers-eu-central-1-production-pool-136059"⟩,
    ⟨"audit", "workers-eu-central-1-production-pool-153216"⟩, ?_⟩
  · exact ⟨by decide, ⟨by decide, by decide⟩, ⟨by decide, by decide⟩, by decide⟩
  · exact ⟨rfl, by decide, by decide, by decide, ⟨by decide, by decide⟩, ⟨by decide, by decide⟩,
      by decide +kernel⟩
  · exact ⟨rfl, by decide, by decide, by decide, ⟨by decide, by decide⟩, ⟨by decide, by decide⟩,
      by decide +kernel⟩

end ClusterAudit.Naming
