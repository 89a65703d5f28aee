import ClusterAudit.Schema.Metadata

/-!
The schemas of volumes and of what they hold.
-/

namespace ClusterAudit.Schema

def resourceAmounts : List (String × Bool × Schema) :=
  optionals quantityTable ["limits", "requests"]

def keyToPath : Schema :=
  record (requireds text ["key", "path"] ++ [optional "mode" int32])

def fieldSelector : Schema :=
  record [optional "apiVersion" text, required "fieldPath" text]

def resourceFieldSelector : Schema :=
  record [optional "containerName" text, optional "divisor" quantity, required "resource" text]

def downwardFile : Schema :=
  record [optional "fieldRef" fieldSelector, optional "mode" int32, required "path" text,
    optional "resourceFieldRef" resourceFieldSelector]

/-- A config map or secret that a projected volume shows. -/
def projectedReference : Schema :=
  record [optional "items" (list keyToPath), required "name" text, optional "optional" flag]

def volumeProjection : Schema :=
  record [
    optional "clusterTrustBundle" (record
      [optional "labelSelector" labelSelector, optional "name" text, optional "optional" flag,
        required "path" text, optional "signerName" text]),
    optional "configMap" projectedReference,
    optional "downwardAPI" (record [optional "items" (list downwardFile)]),
    optional "secret" projectedReference,
    optional "serviceAccountToken" (record
      [optional "audience" text, optional "expirationSeconds" int64, required "path" text])]

def claimSpec : Schema :=
  record (
    optionals text ["storageClassName", "volumeAttributesClassName", "volumeMode", "volumeName"] ++
    [optional "accessModes" texts,
      optional "dataSource" (record
        (optional "apiGroup" text :: requireds text ["kind", "name"])),
      optional "dataSourceRef" (record
        (optionals text ["apiGroup", "namespace"] ++ requireds text ["kind", "name"])),
      optional "resources" (record resourceAmounts),
      optional "selector" labelSelector])

/-- A source of a volume that some storage system provides: its texts, the required ones among them,
and the flag whether it is read-only. -/
def storage (needed texts : List String) (more : List (String × Bool × Schema)) : Schema :=
  record (requireds text needed ++ optionals text texts ++ optional "readOnly" flag :: more)

def volume : Schema :=
  record [
    required "name" text,
    optional "awsElasticBlockStore"
      (storage ["volumeID"] ["fsType"] [optional "partition" int32]),
    optional "azureDisk"
      (storage ["diskName", "diskURI"] ["cachingMode", "fsType", "kind"] []),
    optional "azureFile" (storage ["secretName", "shareName"] [] []),
    optional "cephfs" (storage [] ["path", "secretFile", "user"]
      [required "monitors" texts, optional "secretRef" localReference]),
    optional "cinder"
      (storage ["volumeID"] ["fsType"] [optional "secretRef" localReference]),
    optional "configMap" (record
      [optional "defaultMode" int32, optional "items" (list keyToPath), required "name" text,
        optional "optional" flag]),
    optional "csi" (storage ["driver"] ["fsType"]
      [optional "nodePublishSecretRef" localReference,
        optional "volumeAttributes" textTable]),
    optional "downwardAPI" (record
      [optional "defaultMode" int32, optional "items" (list downwardFile)]),
    optional "emptyDir" (record [optional "medium" text, optional "sizeLimit" quantity]),
    optional "ephemeral" (record [optional "volumeClaimTemplate" (record
      [optional "metadata" metadata, required "spec" claimSpec])]),
    optional "fc" (storage [] ["fsType"]
      (optional "lun" int32 :: optionals texts ["targetWWNs", "wwids"])),
    optional "flexVolume" (storage ["driver"] ["fsType"]
      [optional "options" textTable, optional "secretRef" localReference]),
    optional "flocker" (record (optionals text ["datasetName", "datasetUUID"])),
    optional "gcePersistentDisk"
      (storage ["pdName"] ["fsType"] [optional "partition" int32]),
    optional "gitRepo" (record
      (required "repository" text :: optionals text ["directory", "revision"])),
    optional "glusterfs" (storage ["endpoints", "path"] [] []),
    optional "hostPath" (record [required "path" text, optional "type" text]),
    optional "iscsi" (storage ["iqn", "targetPortal"]
      ["fsType", "initiatorName", "iscsiInterface"]
      (optionals flag ["chapAuthDiscovery", "chapAuthSession"] ++
        [required "lun" int32, optional "portals" texts,
          optional "secretRef" localReference])),
    optional "nfs" (storage ["path", "server"] [] []),
    optional "persistentVolumeClaim" (storage ["claimName"] [] []),
    optional "photonPersistentDisk" (record [optional "fsType" text, required "pdID" text]),
    optional "portworxVolume" (storage ["volumeID"] ["fsType"] []),
    optional "projected" (record
      [optional "defaultMode" int32, optional "sources" (list volumeProjection)]),
    optional "quobyte" (storage ["registry", "volume"] ["group", "tenant", "user"] []),
    optional "rbd" (storage ["image"] ["fsType", "keyring", "pool", "user"]
      [required "monitors" texts, optional "secretRef" localReference]),
    optional "scaleIO" (storage ["gateway", "system"]
      ["fsType", "protectionDomain", "storageMode", "storagePool", "volumeName"]
      [required "secretRef" localReference, optional "sslEnabled" flag]),
    optional "secret" (record
      [optional "defaultMode" int32, optional "items" (list keyToPath), optional "optional" flag,
        optional "secretName" text]),
    optional "storageos" (storage [] ["fsType", "volumeName", "volumeNamespace"]
      [optional "secretRef" localReference]),
    optional "vsphereVolume" (record
      (required "volumePath" text ::
        optionals text ["fsType", "storagePolicyID", "storagePolicyName"]))]

end ClusterAudit.Schema
