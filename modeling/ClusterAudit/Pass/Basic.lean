import ClusterAudit.Cluster.Call
import ClusterAudit.Image.Request

/-!
Passes as data. A pass calls the cluster, asks for images and notes which feature changed the
cluster; each reply decides how it goes on. So a pass can be run against a cluster, cut off between
two calls, or interleaved with what others do.
-/

namespace ClusterAudit

/-- The features of an audit configuration. -/
inductive Feature where
  | workloads
  | nodes
  | admission
  | scanApi
deriving DecidableEq, Repr

namespace Feature

def name : Feature → String
  | workloads => "workloads"
  | nodes => "nodes"
  | admission => "admission"
  | scanApi => "scan-api"

/-- All features in the order in which a pass runs them. -/
def all : List Feature := [workloads, nodes, admission, scanApi]

end Feature

/-- A pass, or a part of one, that ends with a result, with an error, or because a name cannot be
cut to its length. -/
inductive Pass (Result : Type) where
  | done (result : Result)
  | fail (error : ReconcileError)
  | crash
  | call (call : Call) (next : Except ClusterError call.Reply → Pass Result)
  | image (request : ImageRequest) (next : Except ImageError String → Pass Result)
  | note (feature : Feature) (next : Pass Result)

namespace Pass

/-- A pass followed by another one that depends on its result. -/
def andThen {First Second : Type} (first : Pass First) (second : First → Pass Second) :
    Pass Second :=
  match first with
  | done result => second result
  | fail error => fail error
  | crash => crash
  | call request next => call request fun reply => (next reply).andThen second
  | image request next => image request fun reply => (next reply).andThen second
  | note feature next => note feature (next.andThen second)

instance : Monad Pass where
  pure := done
  bind := andThen

/-! ## Calls -/

/-- Makes a call and goes on with its reply or its error. -/
def attempt (request : Call) : Pass (Except ClusterError request.Reply) :=
  call request done

/-- Makes a call; its error ends the pass. -/
def ask (request : Call) : Pass request.Reply :=
  call request fun reply =>
    match reply with
    | .ok reply => done reply
    | .error error => fail (.cluster error)

def get (kind : Kind) (key : Key) : Pass (Option (Object kind)) :=
  ask (.get kind key)

def list (kind : Kind) (namespaceName selector : String) : Pass (List (Object kind)) :=
  ask (.list kind namespaceName selector)

def create (kind : Kind) (namespaceName : String) (object : Object kind) : Pass (Object kind) :=
  ask (.create kind namespaceName object)

def replace (kind : Kind) (key : Key) (object : Object kind) : Pass (Object kind) :=
  ask (.replace kind key object)

def patchStatus (kind : Kind) (key : Key) (status : Json) : Pass Unit :=
  ask (.patchStatus kind key status)

/-- Asks for an image; an error ends the pass. -/
def resolve (request : ImageRequest) : Pass String :=
  image request fun reply =>
    match reply with
    | .ok name => done name
    | .error error => fail (.image error)

/-- Goes on with a value, or ends the pass with what is wrong with the configuration. -/
def configured {Value : Type} : Except Misconfiguration Value → Pass Value
  | .ok value => done value
  | .error cause => fail (.misconfigured cause)

end Pass

end ClusterAudit
