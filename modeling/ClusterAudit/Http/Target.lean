/-!
Where a request goes. A target is a path, and after a question mark a query; a scheme and an
authority may stand before it. What follows a hash is not sent.
-/

namespace ClusterAudit.Http

/-- The length in bytes of the longest target. -/
def longestTarget : Nat := 65534

/-! ## Paths and queries -/

/-- The characters that neither a path nor a query holds: blanks and control characters, and those
that mark where an address ends. -/
def isForbidden (character : Char) : Bool :=
  character.toNat ≤ 0x20 || character == '<' || character == '>' || character == '\x7f'

/-- The path of a target. -/
def pathOf (target : String) : List Char :=
  target.toList.takeWhile fun character => character != '?' && character != '#'

/-- The query of a target with its question mark. -/
def queryOf (target : String) : List Char :=
  (target.toList.dropWhile fun character => character != '?' && character != '#').takeWhile
    (· != '#')

/-- A target as it is sent, if its length and its characters allow that. A path holds no backquotes,
and a query no double quotes. -/
def sentTarget? (target : String) : Option String :=
  let path := pathOf target
  let query := queryOf target
  if longestTarget < target.utf8ByteSize ||
      (path.any fun character => isForbidden character || character == '\x60') ||
      query.any fun character => isForbidden character || character == '"'
  then none
  else some (String.ofList (path ++ query))

/-! ## Addresses -/

/-- The characters that a scheme is made of. -/
def isSchemeCharacter (character : Char) : Bool :=
  character.isAlphanum || "+-.~".toList.contains character

def longestScheme : Nat := 64

/-- An address as its scheme and what follows it, if it has one. -/
def splitScheme? (address : List Char) : Option (List Char × List Char) :=
  match address.dropWhile isSchemeCharacter with
  | ':' :: '/' :: '/' :: rest => some (address.takeWhile isSchemeCharacter, rest)
  | _ => none

/-- The characters that an authority is made of. -/
def isAuthorityCharacter (character : Char) : Bool :=
  character.isAlphanum || "!$&'()*+,-.:;=@[]_~%".toList.contains character

/-- What is known of an authority up to some place: the colons since its last part began, whether a
bracket was opened and closed, and whether a percent sign stands in its last part. -/
structure AuthorityScan where
  colons : Nat := 0
  isOpened : Bool := false
  isClosed : Bool := false
  hasPercent : Bool := false
deriving DecidableEq, Repr

/-- The most colons that a part of an authority holds. -/
def mostColons : Nat := 8

/-- Goes on to the next character of an authority. -/
def AuthorityScan.next? (scan : AuthorityScan) (character : Char) : Option AuthorityScan :=
  match character with
  | ':' => if mostColons ≤ scan.colons then none else some { scan with colons := scan.colons + 1 }
  | '[' => if scan.hasPercent || scan.isOpened then none else some { scan with isOpened := true }
  | ']' =>
      if !scan.isOpened || scan.isClosed then none
      else some { scan with isClosed := true, colons := 0, hasPercent := false }
  | '@' => some { scan with colons := 0, hasPercent := false }
  | '%' => some { scan with hasPercent := true }
  | character => if isAuthorityCharacter character then some scan else none

/-- Whether a text is an authority: a host, perhaps in brackets, with a user before it and a port
after it. -/
def isAuthority (text : List Char) : Bool :=
  match text.foldlM AuthorityScan.next? {} with
  | some scan =>
      scan.isOpened == scan.isClosed && scan.colons ≤ 1 && !scan.hasPercent &&
        text.getLast? != some '@'
  | none => false

/-- The path that is asked for at an address. An address is a target, a star, an authority alone, or
a target after a scheme and an authority. -/
def requestedPath? (address : String) : Option String :=
  if longestTarget < address.utf8ByteSize then none
  else
    match address.toList with
    | ['*'] => some "*"
    | '/' :: _ => (sentTarget? address).map fun target => String.ofList (pathOf target)
    | text =>
        match splitScheme? text with
        | none => if text ≠ [] ∧ isAuthority text then some "" else none
        | some (scheme, rest) =>
            let authority := rest.takeWhile fun character =>
              character != '/' && character != '?' && character != '#'
            let target := String.ofList (rest.drop authority.length)
            if longestScheme < scheme.length || authority.isEmpty || !isAuthority authority then
              none
            else
              (sentTarget? target).map fun target =>
                if pathOf target = [] then "/" else String.ofList (pathOf target)

/-! ## Methods -/

/-- Whether a text names a method. -/
def isMethod (text : String) : Bool :=
  text ≠ "" && text.toList.all fun character =>
    character.isAlphanum || "!#$%&'*+-.^_\x60|~".toList.contains character

end ClusterAudit.Http
