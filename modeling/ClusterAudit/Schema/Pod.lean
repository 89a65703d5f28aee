import ClusterAudit.Schema.Volume

/-!
The schemas of pods: containers, scheduling, security and status.
-/

namespace ClusterAudit.Schema

/-! ## Containers -/

/-- A key of a config map or secret. -/
def keySelector : Schema :=
  record (requireds text ["key", "name"] ++ [optional "optional" flag])

def envVar : Schema :=
  record [required "name" text, optional "value" text,
    optional "valueFrom" (record
      [optional "configMapKeyRef" keySelector, optional "fieldRef" fieldSelector,
        optional "resourceFieldRef" resourceFieldSelector, optional "secretKeyRef" keySelector])]

def envFromSource : Schema :=
  let reference := record [required "name" text, optional "optional" flag]
  record [optional "configMapRef" reference, optional "prefix" text,
    optional "secretRef" reference]

def execAction : Schema :=
  record [optional "command" texts]

def httpGetAction : Schema :=
  record [optional "host" text,
    optional "httpHeaders" (list (record (requireds text ["name", "value"]))),
    optional "path" text, required "port" intOrText, optional "scheme" text]

def tcpSocketAction : Schema :=
  record [optional "host" text, required "port" intOrText]

def probe : Schema :=
  record (
    optionals int32 ["failureThreshold", "initialDelaySeconds", "periodSeconds",
      "successThreshold", "timeoutSeconds"] ++
    [optional "exec" execAction,
      optional "grpc" (record [required "port" int32, optional "service" text]),
      optional "httpGet" httpGetAction,
      optional "tcpSocket" tcpSocketAction,
      optional "terminationGracePeriodSeconds" int64])

def lifecycle : Schema :=
  let handler := record [optional "exec" execAction, optional "httpGet" httpGetAction,
    optional "sleep" (record [required "seconds" int64]),
    optional "tcpSocket" tcpSocketAction]
  record [optional "postStart" handler, optional "preStop" handler]

def containerPort : Schema :=
  record (required "containerPort" int32 :: optional "hostPort" int32 ::
    optionals text ["hostIP", "name", "protocol"])

def resourceRequirements : Schema :=
  record (optional "claims" (list (record [required "name" text])) :: resourceAmounts)

/-- The members of a security context that containers and pods share. -/
def sharedSecurity : List (String × Bool × Schema) :=
  let profile := record [optional "localhostProfile" text, required "type" text]
  optionals int64 ["runAsGroup", "runAsUser"] ++
    [optional "appArmorProfile" profile,
      optional "runAsNonRoot" flag,
      optional "seLinuxOptions" (record (optionals text ["level", "role", "type", "user"])),
      optional "seccompProfile" profile,
      optional "windowsOptions" (record (optional "hostProcess" flag ::
        optionals text ["gmsaCredentialSpec", "gmsaCredentialSpecName", "runAsUserName"]))]

def securityContext : Schema :=
  record (sharedSecurity ++
    optionals flag ["allowPrivilegeEscalation", "privileged", "readOnlyRootFilesystem"] ++
    [optional "capabilities" (record (optionals texts ["add", "drop"])),
      optional "procMount" text])

def volumeMount : Schema :=
  record (requireds text ["mountPath", "name"] ++
    optionals text ["mountPropagation", "recursiveReadOnly", "subPath", "subPathExpr"] ++
    [optional "readOnly" flag])

def containerMembers : List (String × Bool × Schema) :=
  required "name" text ::
    optionals text ["image", "imagePullPolicy", "restartPolicy", "terminationMessagePath",
      "terminationMessagePolicy", "workingDir"] ++
    optionals texts ["args", "command"] ++
    optionals flag ["stdin", "stdinOnce", "tty"] ++
    optionals probe ["livenessProbe", "readinessProbe", "startupProbe"] ++
    [optional "env" (list envVar),
      optional "envFrom" (list envFromSource),
      optional "lifecycle" lifecycle,
      optional "ports" (list containerPort),
      optional "resizePolicy" (list (record (requireds text ["resourceName", "restartPolicy"]))),
      optional "resources" resourceRequirements,
      optional "securityContext" securityContext,
      optional "volumeDevices" (list (record (requireds text ["devicePath", "name"]))),
      optional "volumeMounts" (list volumeMount)]

def container : Schema :=
  record containerMembers

def ephemeralContainer : Schema :=
  record (optional "targetContainerName" text :: containerMembers)

/-! ## Scheduling -/

def nodeSelectorTerm : Schema :=
  record (optionals (list labelRequirement) ["matchExpressions", "matchFields"])

def nodeAffinity : Schema :=
  record [
    optional "preferredDuringSchedulingIgnoredDuringExecution" (list (record
      [required "preference" nodeSelectorTerm, required "weight" int32])),
    optional "requiredDuringSchedulingIgnoredDuringExecution" (record
      [required "nodeSelectorTerms" (list nodeSelectorTerm)])]

def podAffinityTerm : Schema :=
  record (required "topologyKey" text ::
    optionals labelSelector ["labelSelector", "namespaceSelector"] ++
    optionals texts ["matchLabelKeys", "mismatchLabelKeys", "namespaces"])

def podAffinity : Schema :=
  record [
    optional "preferredDuringSchedulingIgnoredDuringExecution" (list (record
      [required "podAffinityTerm" podAffinityTerm, required "weight" int32])),
    optional "requiredDuringSchedulingIgnoredDuringExecution" (list podAffinityTerm)]

def affinity : Schema :=
  record [optional "nodeAffinity" nodeAffinity, optional "podAffinity" podAffinity,
    optional "podAntiAffinity" podAffinity]

def toleration : Schema :=
  record (optional "tolerationSeconds" int64 ::
    optionals text ["effect", "key", "operator", "value"])

def topologySpread : Schema :=
  record (requireds text ["topologyKey", "whenUnsatisfiable"] ++
    optionals text ["nodeAffinityPolicy", "nodeTaintsPolicy"] ++
    [optional "labelSelector" labelSelector, optional "matchLabelKeys" texts,
      required "maxSkew" int32, optional "minDomains" int32])

/-! ## Pods -/

def podSecurityContext : Schema :=
  record (sharedSecurity ++
    [optional "fsGroup" int64, optional "fsGroupChangePolicy" text,
      optional "supplementalGroups" (list int64),
      optional "sysctls" (list (record (requireds text ["name", "value"])))])

def podSpec : Schema :=
  record (
    optionals text ["dnsPolicy", "hostname", "nodeName", "preemptionPolicy", "priorityClassName",
      "restartPolicy", "runtimeClassName", "schedulerName", "serviceAccount",
      "serviceAccountName", "subdomain"] ++
    optionals flag ["automountServiceAccountToken", "enableServiceLinks", "hostIPC",
      "hostNetwork", "hostPID", "hostUsers", "setHostnameAsFQDN", "shareProcessNamespace"] ++
    optionals int64 ["activeDeadlineSeconds", "terminationGracePeriodSeconds"] ++
    [optional "nodeSelector" textTable, optional "overhead" quantityTable,
      optional "affinity" affinity,
      required "containers" (list container),
      optional "dnsConfig" (record
        [optional "nameservers" texts,
          optional "options" (list (record (optionals text ["name", "value"]))),
          optional "searches" texts]),
      optional "ephemeralContainers" (list ephemeralContainer),
      optional "hostAliases" (list (record [optional "hostnames" texts, required "ip" text])),
      optional "imagePullSecrets" (list localReference),
      optional "initContainers" (list container),
      optional "os" (record [required "name" text]),
      optional "priority" int32,
      optional "readinessGates" (list (record [required "conditionType" text])),
      optional "resourceClaims" (list (record
        [required "name" text, optional "source" (record
          (optionals text ["resourceClaimName", "resourceClaimTemplateName"]))])),
      optional "schedulingGates" (list (record [required "name" text])),
      optional "securityContext" podSecurityContext,
      optional "tolerations" (list toleration),
      optional "topologySpreadConstraints" (list topologySpread),
      optional "volumes" (list volume)])

def podTemplate : Schema :=
  record [optional "metadata" metadata, optional "spec" podSpec]

/-! ## Status -/

def containerState : Schema :=
  record [
    optional "running" (record [optional "startedAt" instant]),
    optional "terminated" (record (required "exitCode" int32 :: optional "signal" int32 ::
      optionals text ["containerID", "message", "reason"] ++
      optionals instant ["finishedAt", "startedAt"])),
    optional "waiting" (record (optionals text ["message", "reason"]))]

def containerStatus : Schema :=
  record (requireds text ["image", "imageID", "name"] ++
    optionals containerState ["lastState", "state"] ++
    [optional "allocatedResources" quantityTable,
      optional "containerID" text,
      required "ready" flag,
      optional "resources" resourceRequirements,
      required "restartCount" int32,
      optional "started" flag,
      optional "volumeMounts" (list (record (requireds text ["mountPath", "name"] ++
        [optional "readOnly" flag, optional "recursiveReadOnly" text])))])

def podStatus : Schema :=
  let address := record [required "ip" text]
  record (
    optionals text ["hostIP", "message", "nominatedNodeName", "phase", "podIP", "qosClass",
      "reason", "resize"] ++
    optionals (list containerStatus) ["containerStatuses", "ephemeralContainerStatuses",
      "initContainerStatuses"] ++
    optionals (list address) ["hostIPs", "podIPs"] ++
    [optional "conditions" (list (condition ["lastProbeTime", "lastTransitionTime"])),
      optional "resourceClaimStatuses" (list (record
        [required "name" text, optional "resourceClaimName" text])),
      optional "startTime" instant])

end ClusterAudit.Schema
