import ClusterAudit.Http.Message
import ClusterAudit.Text.Blank

/-!
Challenges of a registry to authenticate by a token: where to get the token, and for what.
-/

namespace ClusterAudit

open Text

/-- Where a token is given, by which service, and what it allows. -/
structure TokenChallenge where
  realm : String := ""
  service : Option String := none
  scope : Option String := none
deriving DecidableEq, Repr

namespace TokenChallenge

/-- The parts of a text between the commas that are outside of quotes. -/
def splitOutsideQuotes (inQuotes : Bool) : List Char → List (List Char)
  | [] => [[]]
  | character :: rest =>
      if character = ',' ∧ inQuotes = false then [] :: splitOutsideQuotes inQuotes rest
      else
        match splitOutsideQuotes (if character = '"' then !inQuotes else inQuotes) rest with
        | part :: parts => (character :: part) :: parts
        | [] => [[character]]

/-- A text without the quotes at its ends. -/
def withoutQuotes (text : List Char) : List Char :=
  ((text.dropWhile (· == '"')).reverse.dropWhile (· == '"')).reverse

/-- The key and value of a parameter, without blanks and quotes around them. -/
def readParameter? (part : List Char) : Option (String × String) :=
  match part.dropWhile (· != '=') with
  | _ :: value =>
      some (String.ofList (trimmed (part.takeWhile (· != '='))),
        String.ofList (withoutQuotes (trimmed value)))
  | [] => none

/-- A challenge with one more parameter. Keys that mean nothing here are passed over. -/
def extend (challenge : TokenChallenge) (parameter : String × String) : TokenChallenge :=
  match parameter.1 with
  | "realm" => { challenge with realm := parameter.2 }
  | "service" => { challenge with service := some parameter.2 }
  | "scope" => { challenge with scope := some parameter.2 }
  | _ => challenge

/-- What follows the name of the scheme. -/
def parameters? (text : List Char) : Option (List Char) :=
  if "Bearer ".toList.isPrefixOf text || "bearer ".toList.isPrefixOf text then some (text.drop 7)
  else none

/-- Reads the value of a challenge header. A challenge must say where to get a token. -/
def parse? (header : String) : Option TokenChallenge :=
  if Http.isHeaderText header then
    (parameters? (trimmed header.toList)).bind fun parameters =>
      let challenge :=
        ((splitOutsideQuotes false parameters).filterMap readParameter?).foldl extend {}
      if challenge.realm = "" then none else some challenge
  else none

end TokenChallenge

end ClusterAudit
