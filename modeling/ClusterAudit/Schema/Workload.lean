import ClusterAudit.Schema.Pod

/-!
The schemas of deployments and of scheduled jobs.
-/

namespace ClusterAudit.Schema

/-! ## Deployments -/

def deploymentSpec : Schema :=
  record (
    optionals int32 ["minReadySeconds", "progressDeadlineSeconds", "replicas",
      "revisionHistoryLimit"] ++
    [optional "paused" flag,
      required "selector" labelSelector,
      optional "strategy" (record
        [optional "rollingUpdate" (record
          (optionals intOrText ["maxSurge", "maxUnavailable"])), optional "type" text]),
      required "template" podTemplate])

def deploymentStatus : Schema :=
  record (
    optionals int32 ["availableReplicas", "collisionCount", "readyReplicas", "replicas",
      "unavailableReplicas", "updatedReplicas"] ++
    [optional "conditions" (list (condition ["lastTransitionTime", "lastUpdateTime"])),
      optional "observedGeneration" int64])

/-! ## Jobs -/

def podFailureRule : Schema :=
  record [required "action" text,
    optional "onExitCodes" (record [optional "containerName" text, required "operator" text,
      required "values" (list int32)]),
    optional "onPodConditions" (list (record (requireds text ["status", "type"])))]

def jobSpec : Schema :=
  record (
    optionals int32 ["backoffLimit", "backoffLimitPerIndex", "completions", "maxFailedIndexes",
      "parallelism", "ttlSecondsAfterFinished"] ++
    optionals text ["completionMode", "managedBy", "podReplacementPolicy"] ++
    optionals flag ["manualSelector", "suspend"] ++
    [optional "activeDeadlineSeconds" int64,
      optional "podFailurePolicy" (record [required "rules" (list podFailureRule)]),
      optional "selector" labelSelector,
      optional "successPolicy" (record [required "rules" (list (record
        [optional "succeededCount" int32, optional "succeededIndexes" text]))]),
      required "template" podTemplate])

def cronJobSpec : Schema :=
  record (
    optionals int32 ["failedJobsHistoryLimit", "successfulJobsHistoryLimit"] ++
    optionals text ["concurrencyPolicy", "timeZone"] ++
    [required "jobTemplate" (record
        [optional "metadata" metadata, optional "spec" jobSpec]),
      required "schedule" text,
      optional "startingDeadlineSeconds" int64,
      optional "suspend" flag])

def cronJobStatus : Schema :=
  record (optional "active" (list objectReference) ::
    optionals instant ["lastScheduleTime", "lastSuccessfulTime"])

end ClusterAudit.Schema
