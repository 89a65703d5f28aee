import ClusterAudit.Text.Hex

/-!
Queries of addresses: pairs of names and values, encoded as forms are.
-/

namespace ClusterAudit.Http

/-- The bytes that stand for themselves in a query. -/
def isUnreserved (byte : UInt8) : Bool :=
  let character := Char.ofNat byte.toNat
  character.isAlphanum || "*-._".toList.contains character

/-- A byte in a query: a space is written as a plus sign, and what is reserved by its digits. -/
def encodeByte (byte : UInt8) : List Char :=
  if isUnreserved byte then [Char.ofNat byte.toNat]
  else if byte = 32 then ['+']
  else '%' :: (Text.hexDigits 2 byte.toNat).map Char.toUpper

def encodeText (text : String) : List Char :=
  text.toUTF8.toList.flatMap encodeByte

def encodePair (pair : String × String) : List Char :=
  encodeText pair.1 ++ '=' :: encodeText pair.2

/-- An address with pairs appended to its query. -/
def withQuery (address : String) (pairs : List (String × String)) : String :=
  match pairs with
  | [] => address
  | pairs =>
      let mark := if address.toList.contains '?' then "&" else "?"
      address ++ mark ++ "&".intercalate (pairs.map fun pair => String.ofList (encodePair pair))

end ClusterAudit.Http
