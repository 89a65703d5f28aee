import ClusterAudit.Dictionary
import ClusterAudit.Text.Decimal

/-!
Counters of passes and of changes, and their text for a monitoring system.
-/

namespace ClusterAudit

/-- How many passes ended with each result, and in how many a feature changed the cluster. -/
structure Metrics where
  reconciles : Dictionary String Nat := Dictionary.empty
  mutations : Dictionary String Nat := Dictionary.empty
deriving DecidableEq, Repr

namespace Metrics

/-- A table in which one count is larger by one. -/
def count (counts : Dictionary String Nat) (name : String) : Dictionary String Nat :=
  counts.insert name ((counts.get? name).getD 0 + 1)

/-- Counts a pass by its result. -/
def recordReconcile (metrics : Metrics) (result : String) : Metrics :=
  { metrics with reconciles := count metrics.reconciles result }

/-- Counts a pass in which a feature changed the cluster. -/
def recordMutation (metrics : Metrics) (feature : String) : Metrics :=
  { metrics with mutations := count metrics.mutations feature }

/-! ## Text -/

/-- A character in the value of a label. -/
def escapeLabel : Char → List Char
  | '\\' => ['\\', '\\']
  | '"' => ['\\', '"']
  | '\n' => ['\\', 'n']
  | character => [character]

/-- A family of counters: its name, what it is for, the label that tells its counters apart, and
their counts. -/
structure Family where
  name : String
  help : String
  label : String
  counts : Dictionary String Nat

namespace Family

/-- The line of one counter. -/
def sample (family : Family) (entry : String × Nat) : String :=
  family.name ++ "\x7b" ++ family.label ++ "=\"" ++
    String.ofList (entry.1.toList.flatMap escapeLabel) ++ "\"\x7d " ++ Text.ofNat entry.2 ++ "\n"

/-- The lines of a family; there are none without counters. -/
def toText (family : Family) : String :=
  if family.counts.isEmpty then ""
  else
    "# HELP " ++ family.name ++ " " ++ family.help ++ "\n# TYPE " ++ family.name ++
      " counter\n" ++ String.join (family.counts.entries.map family.sample)

end Family

/-- All families in the order of their names. -/
def families (metrics : Metrics) : List Family :=
  [{ name := "audit_operator_feature_mutations_total"
     help := "Passes in which a feature changed cluster state"
     label := "feature"
     counts := metrics.mutations },
    { name := "audit_operator_reconciles_total"
      help := "Reconcile passes by result"
      label := "result"
      counts := metrics.reconciles }]

def toText (metrics : Metrics) : String :=
  String.join (metrics.families.map Family.toText)

end Metrics

end ClusterAudit
