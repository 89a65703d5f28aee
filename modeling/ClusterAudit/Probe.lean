import ClusterAudit.Http.Message
import ClusterAudit.Http.Target
import ClusterAudit.Metrics

/-!
The endpoint that tells whether the process is alive and at work, and how often its passes ended in
which way.
-/

namespace ClusterAudit

/-- What the endpoint tells of: whether the operator is at work, and its counters. -/
structure Probe where
  ready : Bool
  metrics : Metrics
deriving DecidableEq, Repr

namespace Probe

/-- A response of a type of text. -/
def textResponse (status : Nat) (contentType body : String) : HttpResponse where
  status
  headers := [("content-type", contentType)]
  body

def plainText : String := "text/plain; charset=utf-8"

/-- The type of counters that a monitoring system reads. -/
def metricsText : String := "text/plain; version=0.0.4"

/-- The response to a request for a path, if anything is served there. -/
def page? (probe : Probe) : (path : String) → Option HttpResponse
  | "/healthz" => some (textResponse 200 plainText "ok")
  | "/readyz" =>
      some (if probe.ready then textResponse 200 plainText "ready"
        else textResponse 503 plainText "starting")
  | "/metrics" => some (textResponse 200 metricsText probe.metrics.toText)
  | _ => none

/-- The response to a method on a path. Pages can only be read; a request for the headers alone gets
no body. -/
def respond (probe : Probe) (method path : String) : HttpResponse :=
  match probe.page? path with
  | none => { status := 404 }
  | some page =>
      match method with
      | "GET" => page
      | "HEAD" => { page with body := "" }
      | _ => { status := 405 }

/-- The response to a request, if it is one. -/
def answer? (probe : Probe) (request : HttpRequest) : Option HttpResponse :=
  if Http.isMethod request.method then
    (Http.requestedPath? request.address).map (probe.respond request.method)
  else none

end Probe

end ClusterAudit
