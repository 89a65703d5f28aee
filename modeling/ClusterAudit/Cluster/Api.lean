import ClusterAudit.Cluster.Call
import ClusterAudit.Http.Query
import ClusterAudit.Http.Target
import ClusterAudit.Json.Reader
import ClusterAudit.Json.Record
import ClusterAudit.Text.Quoted

/-!
Calls over the API of a cluster: the request that a call sends, and the reply that it reads from the
response.
-/

namespace ClusterAudit

open Json

/-- A request to the API server. -/
structure ApiRequest where
  method : String
  target : String
  contentType : Option String := none
  body : Option Json := none
deriving DecidableEq, Repr

/-- A response of the API server. -/
structure ApiResponse where
  status : Nat
  body : String
deriving DecidableEq, Repr

/-! ## Requests -/

namespace Api

/-- Where the API server keeps the objects of a kind. -/
def collection (kind : Kind) (namespaceName : String) : String :=
  (if kind.isCore then "/api/" else "/apis/") ++ kind.apiVersion ++
    (if kind.isNamespaced then "/namespaces/" ++ namespaceName else "") ++ "/" ++ kind.plural

/-- Where the API server keeps an object. It must have a name. -/
def place? (kind : Kind) (key : Key) : Option String :=
  if key.name = "" then none else some (collection kind key.namespaceName ++ "/" ++ key.name)

/-- A request without a body. -/
def plainRequest? (method target : String) : Option ApiRequest :=
  (Http.sentTarget? target).map fun target => { method, target }

/-- A request with a body. -/
def requestWith? (method target contentType : String) (body : Json) : Option ApiRequest :=
  (Http.sentTarget? target).map fun target =>
    { method, target, contentType := some contentType, body := some body }

/-- Deletion goes on in the background. -/
def deleteOptions : Json :=
  ofMembers [("propagationPolicy", str "Background")]

end Api

namespace Call

open Api

/-- The request that a call sends. There is none for an object without a name, or if a name cannot
stand in an address. -/
def request? : Call → Option ApiRequest
  | get kind key => (place? kind key).bind (plainRequest? "GET")
  | list kind namespaceName selector =>
      plainRequest? "GET" (collection kind namespaceName ++ "?&" ++
        String.ofList (Http.encodePair ("labelSelector", selector)))
  | create kind namespaceName object =>
      requestWith? "POST" (collection kind namespaceName ++ "?") "application/json" object.toJson
  | replace kind key object =>
      (place? kind key).bind fun place =>
        requestWith? "PUT" (place ++ "?") "application/json" object.toJson
  | delete kind key =>
      (place? kind key).bind fun place =>
        requestWith? "DELETE" (place ++ "?") "application/json" deleteOptions
  | patchStatus kind key status =>
      (place? kind key).bind fun place =>
        requestWith? "PATCH" (place ++ "/status?") "application/merge-patch+json"
          (ofMembers [("status", status)])

end Call

/-! ## Responses -/

namespace Api

/-- A whole number of the given number of bits, without a sign. -/
def asUnsigned? (bits : Nat) : Json → Option Nat
  | int value => if 0 ≤ value ∧ value < Nat.pow 2 bits then some value.toNat else none
  | _ => none

/-- What the API server says on a request that it refused. -/
structure Refusal where
  code : Nat
  reason : String
  message : String
deriving DecidableEq, Repr

namespace Refusal

def outline : Outline := .plain ["status", "message", "reason", "code"]

/-- Reads a refusal that says its status and its code. -/
def ofJson? (json : Json) : Option Refusal := do
  let parts ← partsOf? ["status", "message", "reason", "code"] json
  let _ ← required asString? parts "status"
  return {
    code := ← required (asUnsigned? 16) parts "code"
    reason := ← defaulted asString? "" parts "reason"
    message := ← defaulted asString? "" parts "message" }

/-- The refusal in a response. A body that is none is shown in quotes. -/
def ofResponse (response : ApiResponse) : Refusal :=
  ((Draft.parse? response.body).bind (outline.read? ofJson?)).getD {
    code := response.status
    reason := ""
    message := Text.quoted response.body }

def error (refusal : Refusal) : ClusterError :=
  .ofStatus refusal.code refusal.reason refusal.message

end Refusal

/-- The API server refused the request, or failed to carry it out. -/
def isRefused (response : ApiResponse) : Bool :=
  400 ≤ response.status && response.status < 600

/-- The body of a response, read as a value of some type. -/
def decode {Value : Type} (read : Draft → Option Value) (response : ApiResponse) :
    Except ClusterError Value :=
  if isRefused response then .error (Refusal.ofResponse response).error
  else
    match (Draft.parse? response.body).bind read with
    | some value => .ok value
    | none => .error .transport

/-! ### Lists -/

/-- What a list says about itself. -/
def listDescription : Schema :=
  .record (Schema.optional "remainingItemCount" .int64 ::
    Schema.optionals .text ["continue", "resourceVersion", "selfLink"])

def listOutline (kind : Kind) : Outline :=
  .strict [("metadata", listDescription.outline), ("items", .list kind.outline)]

/-- Reads the items of a list. None of them are written as null, or as an empty array. -/
def readItems? (kind : Kind) (json : Json) : Option (List (Object kind)) := do
  let members ← json.asMembers?
  let _ ← defaulted listDescription.normalize? null (member? members) "metadata"
  match ← member? members "items" with
  | null => return []
  | items => asListOf? (Object.ofJson? kind) items

/-- Reads a list of objects. All that it says beside its own parts must have a value. -/
def readList? (kind : Kind) (draft : Draft) : Option (List (Object kind)) := do
  let others ← match draft with
    | .obj members => some (members.filter fun member =>
        member.1 != some "metadata" && member.1 != some "items")
    | _ => none
  let _ ← (Draft.obj others).value? Draft.mostNesting
  (listOutline kind).read? (readItems? kind) draft

/-! ### Reports -/

def causeOutline : Outline := .plain ["reason", "message", "field"]

def detailsOutline : Outline :=
  .strict [("name", .whole), ("group", .whole), ("kind", .whole), ("uid", .whole),
    ("causes", .list causeOutline), ("retryAfterSeconds", .whole)]

def reportOutline : Outline :=
  .strict [("status", .choice), ("code", .whole), ("message", .whole), ("reason", .whole),
    ("details", detailsOutline)]

/-- A cause of a report. -/
def readCause? (json : Json) : Option Unit := do
  let parts ← partsOf? ["reason", "message", "field"] json
  let _ ← defaulted asString? "" parts "reason"
  let _ ← defaulted asString? "" parts "message"
  let _ ← defaulted asString? "" parts "field"

/-- The details of a report. -/
def readDetails? (json : Json) : Option Unit := do
  let parts ← partsOf? ["name", "group", "kind", "uid", "causes", "retryAfterSeconds"] json
  let _ ← defaulted asString? "" parts "name"
  let _ ← defaulted asString? "" parts "group"
  let _ ← defaulted asString? "" parts "kind"
  let _ ← defaulted asString? "" parts "uid"
  let _ ← defaulted (asListOf? readCause?) [] parts "causes"
  let _ ← defaulted (asUnsigned? 32) 0 parts "retryAfterSeconds"

/-- A report on what became of a request, in place of an object. -/
def readReport? (json : Json) : Option Unit := do
  let parts ← partsOf? ["status", "code", "message", "reason", "details"] json
  let status ← optional variantName? parts "status"
  let _ ← defaulted (asUnsigned? 16) 0 parts "code"
  let _ ← defaulted asString? "" parts "message"
  let _ ← defaulted asString? "" parts "reason"
  let _ ← optional readDetails? parts "details"
  if status.all fun status => status == "Success" || status == "Failure" then some () else none

/-- What comes back for a deleted object: a report, or the object itself. All of it must have a
value. -/
def readDeletion? (kind : Kind) (draft : Draft) : Option Unit :=
  (draft.value? Draft.mostNesting).bind fun json =>
    if json.get? "kind" = some (str "Status") then reportOutline.read? readReport? draft
    else (Object.ofDraft? kind draft).map fun _ => ()

/-- Reads an object that need not be there. -/
def readObject (kind : Kind) (response : ApiResponse) :
    Except ClusterError (Option (Object kind)) :=
  if isRefused response && (Refusal.ofResponse response).reason == "NotFound" then .ok none
  else (decode (Object.ofDraft? kind) response).map some

end Api

namespace Call

open Api

/-- The reply to a call in a response. -/
def readReply : (call : Call) → ApiResponse → Except ClusterError call.Reply
  | get kind _, response => readObject kind response
  | list kind _ _, response => decode (readList? kind) response
  | create kind _ _, response => decode (Object.ofDraft? kind) response
  | replace kind _ _, response => decode (Object.ofDraft? kind) response
  | delete kind _, response => decode (readDeletion? kind) response
  | patchStatus kind _ _, response =>
      (decode (Object.ofDraft? kind) response).map fun _ => ()

/-- Answers a call over the API. -/
def answerOver (server : ApiRequest → ApiResponse) (call : Call) :
    Except ClusterError call.Reply :=
  match call.request? with
  | some request => call.readReply (server request)
  | none => .error .transport

end Call

end ClusterAudit
