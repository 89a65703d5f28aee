import ClusterAudit.Object.Basic

/-!
How a live object takes over what the operator wants of it. What the operator does not manage stays
as it is.
-/

namespace ClusterAudit.Managed

/-- Metadata with the owners and labels that the operator wants. -/
def mergeMetadata (live desired : Metadata) : Metadata :=
  { live with owners := desired.owners, labels := desired.labels }

def mergeConfigMap (live desired : ConfigMap) : ConfigMap :=
  { live with
    metadata := mergeMetadata live.metadata desired.metadata
    content := { live.content with data := desired.content.data } }

def mergeDeployment (live desired : Deployment) : Deployment :=
  { live with
    metadata := mergeMetadata live.metadata desired.metadata
    content := desired.content }

def mergeCronJob (live desired : CronJob) : CronJob :=
  { live with
    metadata := mergeMetadata live.metadata desired.metadata
    content := desired.content }

/-- A service keeps the addresses that the cluster gave it. -/
def mergeService (live desired : Service) : Service :=
  let wanted : ServiceSpec := desired.content.getD {}
  let spec : ServiceSpec := live.content.getD {}
  { live with
    metadata := mergeMetadata live.metadata desired.metadata
    content := some
      { spec with ports := wanted.ports, selector := wanted.selector, type := wanted.type } }

/-- The certificates that the first webhook of a registration is trusted by. -/
def firstCertificates (registration : WebhookConfiguration) : Option String :=
  (registration.content.bind List.head?).bind Webhook.caBundle

/-- All webhooks of a registration are trusted by the certificates of the live one's first. -/
def mergeRegistration (live desired : WebhookConfiguration) : WebhookConfiguration :=
  { live with
    metadata := { live.metadata with labels := desired.metadata.labels }
    content := some ((desired.content.getD []).map fun webhook =>
      { webhook with caBundle := firstCertificates live }) }

end ClusterAudit.Managed
