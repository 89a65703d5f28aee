/-!
The 64-bit FNV-1a digest.
-/

namespace ClusterAudit.Digest

/-- The digest of a row of bytes. -/
def fnv (bytes : List UInt8) : UInt64 :=
  bytes.foldl (fun digest byte => (digest ^^^ byte.toUInt64) * 0x100000001b3) 0xcbf29ce484222325

end ClusterAudit.Digest
