import ClusterAudit.Image.Reference

/-!
Requests for an image. A blank name or tag stands for the default of what the image is for.
-/

namespace ClusterAudit

open Text

/-- A request for the image of a name and a tag. The tag may be trusted as it is. -/
structure ImageRequest where
  name : String
  tag : String
  trustTag : Bool
deriving DecidableEq, Repr

namespace ImageRequest

/-- A text without the blanks at its ends, or the default if nothing is left. -/
def unlessBlank (default text : String) : String :=
  if trim text = "" then default else trim text

/-- The image of a scanner. -/
def scanner (name tag : String) (trustTag : Bool) : ImageRequest where
  name := unlessBlank "ghcr.io/microscaler/audit-scanner" name
  tag := unlessBlank "latest" tag
  trustTag

/-- The image of the operator, which also serves the webhook. -/
def operator (name tag : String) (trustTag : Bool) : ImageRequest where
  name := unlessBlank "ghcr.io/microscaler/audit-operator" name
  tag := unlessBlank "latest" tag
  trustTag

/-- The image of a reference that needs no look at a registry: one whose tag is a digest, or is
trusted. -/
def settled? (request : ImageRequest) (reference : ImageReference) : Option String :=
  if reference.isDigest then some (reference.pinned reference.tag)
  else if request.trustTag then some reference.tagged
  else none

end ImageRequest

end ClusterAudit
