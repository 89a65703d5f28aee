import ClusterAudit.Http.Message
import ClusterAudit.Http.Query
import ClusterAudit.Http.Status
import ClusterAudit.Image.Challenge
import ClusterAudit.Image.Request
import ClusterAudit.Json.Outline
import ClusterAudit.Json.Reader
import ClusterAudit.Json.Record

/-!
Resolving images at a registry: the registry is asked for the digest that a tag stands for. One that
asks for authentication names a place that gives tokens; a token is fetched there, once, and the
registry asked again. The exchange is given as data, so that the network stays outside.
-/

namespace ClusterAudit

/-- An exchange of messages that ends with an image or an error. No response means that the network
failed. -/
inductive Exchange where
  | done (result : Except ImageError String)
  | send (request : HttpRequest) (next : Option HttpResponse → Exchange)

namespace Exchange

/-- Runs an exchange over a network. -/
def run (network : HttpRequest → Option HttpResponse) : Exchange → Except ImageError String
  | done result => result
  | send request next => run network (next (network request))

/-- Sends a message and goes on with its response. -/
def ask (request : HttpRequest) (next : HttpResponse → Exchange) : Exchange :=
  send request fun response =>
    match response with
    | some response => next response
    | none => done (.error .http)

/-- The types of content under which registries keep manifests. -/
def manifestTypes : List String :=
  ["application/vnd.oci.image.index.v1+json",
    "application/vnd.docker.distribution.manifest.list.v2+json",
    "application/vnd.oci.image.manifest.v1+json",
    "application/vnd.docker.distribution.manifest.v2+json"]

/-- The request for a manifest's headers, with a token once there is one. -/
def manifestRequest (reference : ImageReference) (token : Option String) : HttpRequest where
  method := "HEAD"
  address := reference.manifestUrl
  accept := some (", ".intercalate manifestTypes)
  authorization := token.map ("Bearer " ++ ·)

/-- The image that the registry's answer stands for. -/
def readManifest (reference : ImageReference) (response : HttpResponse) :
    Except ImageError String :=
  if Http.isSuccess response.status then
    match response.header? "docker-content-digest" with
    | some digest => .ok (reference.pinned digest)
    | none => .error (.missingDigest reference.tagged)
  else .error (.registry response.status reference.tagged)

/-- The request for a token. -/
def tokenRequest (challenge : TokenChallenge) : HttpRequest where
  method := "GET"
  address := Http.withQuery challenge.realm
    ((challenge.service.map fun service => ("service", service)).toList ++
      (challenge.scope.map fun scope => ("scope", scope)).toList)

/-- The names of the parts that hold a token. -/
def tokenNames : List String := ["token", "access_token"]

/-- The token in a response, under either of its names. -/
def readToken (challenge : TokenChallenge) (response : HttpResponse) :
    Except ImageError String :=
  if Http.isSuccess response.status then
    match (Draft.parse? response.body).bind
        ((Outline.plain tokenNames).read? (Json.partsOf? tokenNames)) with
    | none => .error .http
    | some parts =>
        match Json.optional Json.asString? parts "token",
            Json.optional Json.asString? parts "access_token" with
        | some token, some accessToken =>
            match token.or accessToken with
            | some token => .ok token
            | none => .error (.authentication ("no token in response from " ++ challenge.realm))
        | _, _ => .error .http
  else
    .error (.authentication ("token endpoint " ++ challenge.realm ++ " returned " ++
      Http.statusText response.status))

/-- Answers a challenge: fetches a token and asks again. -/
def answerChallenge (reference : ImageReference) (challenge : TokenChallenge) : Exchange :=
  ask (tokenRequest challenge) fun response =>
    match readToken challenge response with
    | .error error => done (.error error)
    | .ok token =>
        ask (manifestRequest reference (some token)) fun response =>
          done (readManifest reference response)

/-- Asks the registry for the digest of a reference. -/
def lookUp (reference : ImageReference) : Exchange :=
  ask (manifestRequest reference none) fun response =>
    if response.status = 401 then
      match (response.header? "www-authenticate").bind TokenChallenge.parse? with
      | some challenge => answerChallenge reference challenge
      | none =>
          done (.error
            (.authentication ("unsupported auth challenge for " ++ reference.registry)))
    else done (readManifest reference response)

/-- The exchange that resolves a request. One that is settled by its reference needs none. -/
def resolve (request : ImageRequest) : Exchange :=
  match ImageReference.parse request.name request.tag with
  | .error error => done (.error error)
  | .ok reference =>
      match request.settled? reference with
      | some image => done (.ok image)
      | none => lookUp reference

end Exchange

end ClusterAudit
