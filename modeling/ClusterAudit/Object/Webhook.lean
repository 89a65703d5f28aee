import ClusterAudit.Json.Record

/-!
Admission webhooks: what the cluster asks before it accepts an object.
-/

namespace ClusterAudit

open Json

/-- A webhook: its name, the certificates that its server is trusted by, where it is called, and
what it is called for. -/
structure Webhook where
  name : String
  caBundle : Option String := none
  client : Members := []
  settings : Members := []
deriving DecidableEq, Repr

namespace Webhook

def ofJson? (json : Json) : Option Webhook := do
  let members ← json.asMembers?
  let client ← required asMembers? (member? members) "clientConfig"
  return {
    name := ← required asString? (member? members) "name"
    caBundle := ← optional asString? (member? client) "caBundle"
    client := without ["caBundle"] client
    settings := without ["name", "clientConfig"] members }

def toJson (webhook : Webhook) : Json :=
  record [
    ("name", some (str webhook.name)),
    ("clientConfig", some (record [("caBundle", webhook.caBundle.map str)] webhook.client))]
    webhook.settings

end Webhook

end ClusterAudit
