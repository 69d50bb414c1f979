import SignIn.Digest.Sha256

/-!
# Keyed digests

HMAC with SHA-256: the message is hashed behind the key masked with one byte, and
the result is hashed behind the key masked with another. A key longer than a
block is replaced by its digest.
-/

namespace SignIn.Hmac

/-- The key, filled with zeros to one block. -/
def blockKey (key : Bytes) : Bytes :=
  let key := if 64 < key.length then Sha256.digest key else key
  key ++ List.replicate (64 - key.length) 0

/-- The key of a block, with every byte masked. -/
def mask (byte : UInt8) (key : Bytes) : Bytes := (blockKey key).map (· ^^^ byte)

/-- The code that authenticates a message under a key. -/
def sha256 (key message : Bytes) : Bytes :=
  Sha256.digest (mask 0x5c key ++ Sha256.digest (mask 0x36 key ++ message))

end SignIn.Hmac
