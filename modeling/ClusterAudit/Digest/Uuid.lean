import ClusterAudit.Digest.Sha1
import ClusterAudit.Text.Hex

/-!
Identifiers derived from a name: version 5 UUIDs of RFC 9562 in the namespace of object identifiers.
-/

namespace ClusterAudit.Digest

/-- The namespace of object identifiers. -/
def objectIdentifierNamespace : List UInt8 :=
  [0x6b, 0xa7, 0xb8, 0x12, 0x9d, 0xad, 0x11, 0xd1, 0x80, 0xb4, 0x00, 0xc0, 0x4f, 0xd4, 0x30, 0xc8]

/-- A byte of the identifier: the version and variant marks stand in the sixth and eighth. -/
def markedByte (position : Nat) (byte : UInt8) : UInt8 :=
  if position = 6 then (byte &&& 0x0f) ||| 0x50
  else if position = 8 then (byte &&& 0x3f) ||| 0x80
  else byte

/-- The sixteen bytes of the identifier of a name. -/
def nameIdentifier (name : String) : List UInt8 :=
  let digest := sha1 (objectIdentifierNamespace ++ name.toUTF8.toList)
  (digest.take 16).mapIdx markedByte

/-- The identifier of a name in 32 hexadecimal digits. -/
def nameDigits (name : String) : List Char :=
  (nameIdentifier name).flatMap fun byte => Text.hexDigits 2 byte.toNat

end ClusterAudit.Digest
