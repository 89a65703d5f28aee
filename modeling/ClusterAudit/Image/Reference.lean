import ClusterAudit.Error
import ClusterAudit.Text.Blank

/-!
References to images: a repository's name and a tag, as users write them, with the registry and the
path that they stand for.
-/

namespace ClusterAudit

open Text

/-- A name and a tag, and where a registry serves them. -/
structure ImageReference where
  name : String
  registry : String
  repository : String
  tag : String
deriving DecidableEq, Repr

namespace ImageReference

/-- The registry of names that mention none. -/
def hub : String := "registry-1.docker.io"

/-- The names that users know the default registry by. -/
def hubNames : List String := ["docker.io", "index.docker.io"]

/-- The first part of a name is a host: it has a point or a port, or is the local host. -/
def isHost (part : List Char) : Bool :=
  part.contains '.' || part.contains ':' || part == "localhost".toList

/-- The registry of a host. -/
def registryOf (host : String) : String :=
  if hubNames.contains host then hub else host

/-- The registry and path of a name. A short name stands for one of the default registry's own
images. -/
def locate (name : String) : String × String :=
  let first := name.toList.takeWhile (· != '/')
  match name.toList.dropWhile (· != '/') with
  | [] => (hub, "library/" ++ name)
  | _ :: rest =>
      if isHost first then (registryOf (String.ofList first), String.ofList rest)
      else (hub, name)

/-- Reads a name and a tag. Neither may be blank, and a name has no digest and no blanks inside. -/
def parse (name tag : String) : Except ImageError ImageReference :=
  let name := trim name
  let tag := trim tag
  if name = "" ∨ tag = "" then .error (.invalidReference (name ++ ":" ++ tag))
  else if name.toList.any fun character => character == '@' || isBlank character then
    .error (.invalidReference name)
  else
    let (registry, repository) := locate name
    .ok { name, registry, repository, tag }

/-- What digests start with. -/
def digestMark : List Char := "sha256:".toList

/-- The tag is a digest. -/
def isDigest (reference : ImageReference) : Bool :=
  digestMark.isPrefixOf reference.tag.toList

/-- The reference by its tag. -/
def tagged (reference : ImageReference) : String :=
  reference.name ++ ":" ++ reference.tag

/-- The reference by a digest. -/
def pinned (reference : ImageReference) (digest : String) : String :=
  reference.name ++ "@" ++ digest

/-- Registries on the local host are reached without encryption. -/
def scheme (reference : ImageReference) : String :=
  if "localhost".toList.isPrefixOf reference.registry.toList then "http" else "https"

/-- Where the registry serves the manifest. -/
def manifestUrl (reference : ImageReference) : String :=
  reference.scheme ++ "://" ++ reference.registry ++ "/v2/" ++ reference.repository ++
    "/manifests/" ++ reference.tag

end ImageReference

end ClusterAudit
