import ClusterAudit.Dictionary
import ClusterAudit.Text.Blank

/-!
Labels of managed objects, and the selectors that find objects by them.
-/

namespace ClusterAudit

/-- Labels, annotations and other tables from texts to texts. -/
abbrev Texts := Dictionary String String

/-- The feature that a managed object belongs to. -/
inductive Component where
  | workloads
  | nodes
  | webhook
  | scanApi
deriving DecidableEq, Repr

namespace Component

/-- The value of the component label. -/
def name : Component → String
  | workloads => "workloads"
  | nodes => "nodes"
  | webhook => "webhook"
  | scanApi => "scan-api"

def all : List Component := [workloads, nodes, webhook, scanApi]

def ofName? (name : String) : Option Component :=
  all.find? fun component => component.name == name

end Component

namespace Labels

/-- The value of the label that marks all managed objects. -/
def managedBy : String := "audit-operator"

def managedByKey : String := "app.kubernetes.io/managed-by"

def configKey : String := "audit.microscaler.io/config"

def componentKey : String := "audit.microscaler.io/component"

/-- The labels of all objects of one configuration. -/
def ofConfig (config : String) : Texts :=
  Dictionary.ofList [(managedByKey, managedBy), (configKey, config)]

/-- The labels of the objects of one feature. -/
def ofComponent (config : String) (component : Component) : Texts :=
  (ofConfig config).insert componentKey component.name

end Labels

/-! ## Selectors -/

namespace Selector

open Text

/-- The selector that asks for all labels of a table. -/
def ofLabels (labels : Texts) : String :=
  ",".intercalate (labels.entries.map fun entry => entry.1 ++ "=" ++ entry.2)

/-- The parts of a text between separators. -/
def split (separator : Char) : List Char → List (List Char)
  | [] => [[]]
  | character :: rest =>
      if character = separator then [] :: split separator rest
      else
        match split separator rest with
        | part :: parts => (character :: part) :: parts
        | [] => [[character]]

/-- The trimmed texts before and after the first equals sign of a term. -/
def readTerm? (term : List Char) : Option (String × String) :=
  match term.dropWhile (· != '=') with
  | _ :: value =>
      some (String.ofList (trimmed (term.takeWhile (· != '='))), String.ofList (trimmed value))
  | [] => none

/-- The labels that a selector asks for; terms without an equals sign ask for nothing. -/
def parse (selector : String) : List (String × String) :=
  (split ',' selector.toList).filterMap readTerm?

/-- Whether labels have every value that is asked for. -/
def isMatch (wanted : List (String × String)) (labels : Option Texts) : Bool :=
  wanted.all fun entry => (labels.bind (·.get? entry.1)) == some entry.2

end Selector

end ClusterAudit
