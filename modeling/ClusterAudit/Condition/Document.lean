import ClusterAudit.Condition
import ClusterAudit.Json.Record

/-!
Conditions as JSON.
-/

namespace ClusterAudit

open Json

namespace Instant

/-- An instant given as a string. -/
def ofJson? (json : Json) : Option Instant :=
  json.asString?.bind ofText?

end Instant

namespace Condition

/-- The parts of a condition in order. -/
def partNames : List String :=
  ["type", "status", "reason", "message", "lastUpdateTime", "lastTransitionTime"]

def ofJson? (json : Json) : Option Condition := do
  let parts ← partsOf? partNames json
  return {
    type := ← required (fun json => json.variantName?.bind ConditionType.ofName?) parts "type"
    status := ← required (fun json => json.variantName?.bind ConditionStatus.ofName?) parts "status"
    reason := ← defaulted asString? "" parts "reason"
    message := ← defaulted asString? "" parts "message"
    lastUpdate := ← required Instant.ofJson? parts "lastUpdateTime"
    lastTransition := ← required Instant.ofJson? parts "lastTransitionTime" }

def toJson (condition : Condition) : Json :=
  ofMembers [
    ("type", str condition.type.name),
    ("status", str condition.status.name),
    ("reason", str condition.reason),
    ("message", str condition.message),
    ("lastUpdateTime", str condition.lastUpdate.toText),
    ("lastTransitionTime", str condition.lastTransition.toText)]

end Condition

end ClusterAudit
