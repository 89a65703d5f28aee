import ClusterAudit.Json.Record
import ClusterAudit.Labels

/-!
Services, config maps and secrets.
-/

namespace ClusterAudit

open Json

/-- The ports of a service and the pods behind it. -/
structure ServiceSpec where
  type : Option String := none
  selector : Option Texts := none
  ports : Option (List Json) := none
  rest : Members := []
deriving DecidableEq, Repr

namespace ServiceSpec

def partNames : List String := ["type", "selector", "ports"]

def ofJson? (json : Json) : Option ServiceSpec := do
  let members ← json.asMembers?
  let parts := member? members
  return {
    type := ← optional asString? parts "type"
    selector := ← optional asTexts? parts "selector"
    ports := ← optional asItems? parts "ports"
    rest := without partNames members }

def toJson (spec : ServiceSpec) : Json :=
  record [
    ("type", spec.type.map str),
    ("selector", spec.selector.map ofTexts),
    ("ports", spec.ports.map arr)] spec.rest

end ServiceSpec

/-- The texts that a config map holds. -/
structure ConfigData where
  data : Option Texts := none
  rest : Members := []
deriving DecidableEq, Repr

namespace ConfigData

def ofMembers? (members : Members) : Option ConfigData := do
  return {
    data := ← optional asTexts? (member? members) "data"
    rest := without ["data"] members }

def members (content : ConfigData) : Members :=
  (content.data.map fun data => ("data", ofTexts data)).toList ++ content.rest

end ConfigData

/-- The texts that a secret holds, and what they are for. -/
structure SecretData where
  type : Option String := none
  stringData : Option Texts := none
  rest : Members := []
deriving DecidableEq, Repr

namespace SecretData

def ofMembers? (members : Members) : Option SecretData := do
  return {
    type := ← optional asString? (member? members) "type"
    stringData := ← optional asTexts? (member? members) "stringData"
    rest := without ["type", "stringData"] members }

def members (content : SecretData) : Members :=
  (content.type.map fun type => ("type", str type)).toList ++
    (content.stringData.map fun data => ("stringData", ofTexts data)).toList ++ content.rest

end SecretData

end ClusterAudit
