import ClusterAudit.Digest.Fnv
import ClusterAudit.Image.Request
import ClusterAudit.Text.Hex

/-!
A catalog resolves images without a registry: the digest of an image is a function of its name and
tag. It keeps a list of the references that were asked for, and can be made to fail.
-/

namespace ClusterAudit

/-- A catalog, whether it is out of order, and the references asked for so far, the latest first. -/
structure ImageCatalog where
  outage : Option String := none
  asked : List String := []
deriving DecidableEq, Repr

namespace ImageCatalog

/-- The digest of a name and a tag. -/
def digestOf (name tag : String) : String :=
  let digest := Digest.fnv (name ++ ":" ++ tag).toUTF8.toList
  let written := Text.hexDigits 16 digest.toNat
  String.ofList ("sha256:".toList ++ written ++ written ++ written ++ written)

/-- The image of a reference. A trusted tag is taken as it is, but one that is a digest pins. -/
def imageOf (request : ImageRequest) (reference : ImageReference) : String :=
  if request.trustTag || reference.isDigest then
    if reference.isDigest then reference.pinned reference.tag else reference.tagged
  else reference.pinned (digestOf reference.name reference.tag)

/-- Answers a request. What is no reference is not listed among those asked for. -/
def resolve (catalog : ImageCatalog) (request : ImageRequest) :
    Except ImageError String × ImageCatalog :=
  match ImageReference.parse request.name request.tag with
  | .error error => (.error error, catalog)
  | .ok reference =>
      let result := match catalog.outage with
        | some reason => .error (.registry 503 reason)
        | none => .ok (imageOf request reference)
      (result, { catalog with asked := reference.tagged :: catalog.asked })

end ImageCatalog

end ClusterAudit
