import ObjectStore.Digest.Sha256
/-!
# Keyed digests

HMAC of RFC 2104 over SHA-256.
-/

namespace ObjectStore.Digest

/-- A key as one block: hashed if it is longer than a block, then filled up with zeros. -/
def blockKey (key : Bytes) : Bytes :=
  let k := if 64 < key.length then sha256 key else key
  k ++ List.replicate (64 - k.length) 0

def hmacSha256 (key message : Bytes) : Bytes :=
  let k := blockKey key
  sha256 (k.map (· ^^^ 0x5c) ++ sha256 (k.map (· ^^^ 0x36) ++ message))

end ObjectStore.Digest
