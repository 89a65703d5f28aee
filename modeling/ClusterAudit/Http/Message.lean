/-!
Messages of HTTP: requests, and what a server sends back.
-/

namespace ClusterAudit

/-- A message to a server, with the types of content that it asks for and what it is allowed by. -/
structure HttpRequest where
  method : String
  address : String
  accept : Option String := none
  authorization : Option String := none
deriving DecidableEq, Repr

/-- What a server sends back. -/
structure HttpResponse where
  status : Nat
  headers : List (String × String) := []
  body : String := ""
deriving DecidableEq, Repr

namespace Http

/-- Header values are text only if all their characters are visible or tabs. -/
def isHeaderText (value : String) : Bool :=
  value.toList.all fun character =>
    character == '\t' || (' ' ≤ character && character ≤ '~')

end Http

namespace HttpResponse

/-- The first header of a name, in any case of its letters, if its value is text. -/
def header? (response : HttpResponse) (name : String) : Option String :=
  ((response.headers.find? fun header => header.1.toLower == name).map Prod.snd).filter
    Http.isHeaderText

end HttpResponse

end ClusterAudit
