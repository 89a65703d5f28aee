import ClusterAudit.Json.Basic
import ClusterAudit.Settings

/-!
Settings as JSON. Delays are texts, since they may be longer than a JSON number reaches.
-/

namespace ClusterAudit

open Json

def LogFormat.name : LogFormat → String
  | .text => "text"
  | .json => "json"

def Settings.toJson (settings : Settings) : Json :=
  ofMembers [
    ("namespace", ofOptionString settings.namespaceName),
    ("operator_config_name", str settings.operatorConfigName),
    ("concurrency", int settings.concurrency),
    ("requeue_interval", str (Text.ofNat settings.requeueInterval)),
    ("resync_interval", str (Text.ofNat settings.resyncInterval)),
    ("reconcile_timeout", str (Text.ofNat settings.reconcileTimeout)),
    ("probe_address", str settings.probeAddress.toText),
    ("log_format", str settings.logFormat.name)]

end ClusterAudit
