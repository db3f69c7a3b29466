import GuildRegistry.Cipher.Sha256

/-! HMAC-SHA256 (RFC 2104).

A key longer than the 64-byte block is hashed first; the key is then padded with zeros
to the block, and the tag is `H((k ⊕ opad) ‖ H((k ⊕ ipad) ‖ m))`.
-/

set_option autoImplicit false

namespace GuildRegistry.Hmac

/-- The key as one block of 64 bytes. -/
def blockKey (key : List UInt8) : List UInt8 :=
  let k := if key.length > 64 then Sha256.hash key else key
  k ++ List.replicate (64 - k.length) 0

/-- The HMAC-SHA256 tag of a message under a key. -/
def sha256 (key msg : List UInt8) : List UInt8 :=
  let k := blockKey key
  let inner := Sha256.hash (k.map (· ^^^ 0x36) ++ msg)
  Sha256.hash (k.map (· ^^^ 0x5c) ++ inner)

end GuildRegistry.Hmac
