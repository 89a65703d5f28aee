import ClusterAudit.Schema.Metadata

/-!
The schemas of services, nodes, config maps, secrets and webhook registrations.
-/

namespace ClusterAudit.Schema

/-! ## Services -/

def servicePort : Schema :=
  record (required "port" int32 :: optional "nodePort" int32 :: optional "targetPort" intOrText ::
    optionals text ["appProtocol", "name", "protocol"])

def serviceSpec : Schema :=
  record (
    optionals text ["clusterIP", "externalName", "externalTrafficPolicy",
      "internalTrafficPolicy", "ipFamilyPolicy", "loadBalancerClass", "loadBalancerIP",
      "sessionAffinity", "trafficDistribution", "type"] ++
    optionals texts ["clusterIPs", "externalIPs", "ipFamilies", "loadBalancerSourceRanges"] ++
    optionals flag ["allocateLoadBalancerNodePorts", "publishNotReadyAddresses"] ++
    [optional "healthCheckNodePort" int32,
      optional "ports" (list servicePort),
      optional "selector" textTable,
      optional "sessionAffinityConfig" (record
        [optional "clientIP" (record [optional "timeoutSeconds" int32])])])

def serviceStatus : Schema :=
  record [
    optional "conditions" (list (record
      (requireds text ["message", "reason", "status", "type"] ++
        [required "lastTransitionTime" instant, optional "observedGeneration" int64]))),
    optional "loadBalancer" (record [optional "ingress" (list (record
      (optionals text ["hostname", "ip", "ipMode"] ++
        [optional "ports" (list (record
          [optional "error" text, required "port" int32, required "protocol" text]))])))])]

/-! ## Nodes -/

def nodeConfigSource : Schema :=
  record [optional "configMap" (record
    (requireds text ["kubeletConfigKey", "name", "namespace"] ++
      optionals text ["resourceVersion", "uid"]))]

def nodeSpec : Schema :=
  record (
    optionals text ["externalID", "podCIDR", "providerID"] ++
    [optional "configSource" nodeConfigSource,
      optional "podCIDRs" texts,
      optional "taints" (list (record (requireds text ["effect", "key"] ++
        [optional "timeAdded" instant, optional "value" text]))),
      optional "unschedulable" flag])

def nodeStatus : Schema :=
  record [
    optional "addresses" (list (record (requireds text ["address", "type"]))),
    optional "allocatable" quantityTable,
    optional "capacity" quantityTable,
    optional "conditions" (list (condition ["lastHeartbeatTime", "lastTransitionTime"])),
    optional "config" (record (optional "error" text ::
      optionals nodeConfigSource ["active", "assigned", "lastKnownGood"])),
    optional "daemonEndpoints" (record
      [optional "kubeletEndpoint" (record [required "Port" int32])]),
    optional "images" (list (record [optional "names" texts, optional "sizeBytes" int64])),
    optional "nodeInfo" (record (requireds text ["architecture", "bootID",
      "containerRuntimeVersion", "kernelVersion", "kubeProxyVersion", "kubeletVersion",
      "machineID", "operatingSystem", "osImage", "systemUUID"])),
    optional "phase" text,
    optional "runtimeHandlers" (list (record
      [optional "features" (record [optional "recursiveReadOnlyMounts" flag]),
        optional "name" text])),
    optional "volumesAttached" (list (record (requireds text ["devicePath", "name"]))),
    optional "volumesInUse" texts]

/-! ## Config maps and secrets -/

def configMapMembers : List (String × Bool × Schema) :=
  [optional "binaryData" (table bytes), optional "data" textTable, optional "immutable" flag]

def secretMembers : List (String × Bool × Schema) :=
  [optional "data" (table bytes), optional "immutable" flag, optional "stringData" textTable,
    optional "type" text]

/-! ## Webhook registrations -/

def serviceReference : Schema :=
  record (requireds text ["name", "namespace"] ++ [optional "path" text, optional "port" int32])

def ruleWithOperations : Schema :=
  record (optional "scope" text ::
    optionals texts ["apiGroups", "apiVersions", "operations", "resources"])

def validatingWebhook : Schema :=
  record (
    requireds text ["name", "sideEffects"] ++
    optionals text ["failurePolicy", "matchPolicy"] ++
    optionals labelSelector ["namespaceSelector", "objectSelector"] ++
    [required "admissionReviewVersions" texts,
      required "clientConfig" (record [optional "caBundle" bytes,
        optional "service" serviceReference, optional "url" text]),
      optional "matchConditions" (list (record (requireds text ["expression", "name"]))),
      optional "rules" (list ruleWithOperations),
      optional "timeoutSeconds" int32])

end ClusterAudit.Schema
