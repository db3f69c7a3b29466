import GuildRegistry.Cipher.Aes
import GuildRegistry.Cipher.Base64
import GuildRegistry.Cipher.Hmac
import GuildRegistry.Text.Blank
import GuildRegistry.Calendar.Instant

/-! Fernet tokens.

A token is the URL-safe base64 text (with `=` padding) of `0x80 ‖ seconds (8 bytes, big-endian) ‖ IV
(16) ‖ AES-128-CBC ciphertext ‖ HMAC-SHA256 (32)`, where the tag covers everything before it. A key
is 32 bytes in URL-safe base64: the first half signs, the second half encrypts.
-/

set_option autoImplicit false

namespace GuildRegistry.Fernet

-- powers of naturals are computed by `Nat.pow`, whatever other instances are in scope
attribute [local instance (high)] instPowNat

/-- A signing key and an encryption key, 16 bytes each. -/
structure Key where
  signing : List UInt8
  encryption : List UInt8
  deriving DecidableEq, Repr

/-- Why a token was refused. -/
inductive Refusal where
  | empty
  | malformed
  | badSignature
  deriving DecidableEq, Repr

/-- The word for a refusal. -/
def Refusal.reason : Refusal → String
  | .empty => "empty"
  | .malformed => "malformed"
  | .badSignature => "bad_signature"

/-- Reads a key: trimmed URL-safe base64 of exactly 32 bytes. -/
def Key.parse? (text : String) : Option Key :=
  match Base64.decode? (Text.trim text) with
  | some bytes => if bytes.length = 32 then some ⟨bytes.take 16, bytes.drop 16⟩ else none
  | none => none

/-- The message when a key is refused. -/
def keyRefusedMessage : String :=
  "Secret key must be 32 bytes encoded as URL-safe base64 (44 characters)."

/-- The eight big-endian bytes of a number below `2^64`. -/
def bytes8 (n : Nat) : List UInt8 :=
  (List.range 8).reverse.map fun i => (n / 2 ^ (8 * i) % 256).toUInt8

/-- Why no token can be made at a time. -/
inductive TimeRefusal where
  /-- The time is not a valid instant. -/
  | invalid
  /-- The time is before 1970, `seconds` being its negative count. -/
  | beforeEpoch (seconds : Int)
  deriving DecidableEq, Repr

/-- Writes a number with an underscore between groups of three digits. -/
def groupDigits (s : String) : String :=
  let ds := s.toList.reverse
  let rec go : List Char → List Char
    | a :: b :: c :: d :: rest => a :: b :: c :: '_' :: go (d :: rest)
    | rest => rest
  String.ofList (go ds).reverse

/-- The message of a time refusal; counts beyond `2^32` in size are written in groups. -/
def TimeRefusal.message : TimeRefusal → String
  | .invalid => "The number NaN cannot be converted to a BigInt because it is not an integer"
  | .beforeEpoch s =>
    let digits := toString s.natAbs
    let shown := if s.natAbs > 2 ^ (32 : Nat) then groupDigits digits else digits
    "The value of \"value\" is out of range. It must be >= 0n and < 2n ** 64n. Received -" ++ shown ++ "n"

/-- The whole seconds since the epoch of a time, rounded down. -/
def secondsOf (t : Option Instant) : Except TimeRefusal Nat :=
  match t with
  | none => .error .invalid
  | some i =>
    let s := i.ms / 1000
    if s < 0 then .error (.beforeEpoch s) else .ok s.toNat

/-- The token bytes, before base64, for a plaintext at a time in seconds and an IV. -/
def tokenBytes (key : Key) (seconds : Nat) (iv plaintext : List UInt8) : List UInt8 :=
  let body := [0x80] ++ bytes8 seconds ++ iv ++ Aes.cbcEncrypt key.encryption iv plaintext
  body ++ Hmac.sha256 key.signing body

/-- The token text for a plaintext at a time in seconds and an IV. -/
def encrypt (key : Key) (seconds : Nat) (iv plaintext : List UInt8) : String :=
  Base64.encode (tokenBytes key seconds iv plaintext)

/-- The number of characters of a token for a plaintext of `n` bytes. -/
def tokenLength (n : Nat) : Nat :=
  let bytes := 57 + 16 * (n / 16 + 1)
  4 * ((bytes + 2) / 3)

/-- A byte read as text with its high bit cleared. -/
def asciiChar (b : UInt8) : Char := Char.ofNat (b.toNat % 128)

/-- Opens token bytes: the plaintext, or why it was refused. -/
def decrypt (key : Key) (token : List UInt8) : Except Refusal (List UInt8) :=
  let text := Text.trimChars (token.map asciiChar)
  if text.isEmpty then .error .empty
  else match Base64.decode? (String.ofList text) with
    | none => .error .malformed
    | some data =>
      if data.length < 73 ∨ data.head? ≠ some 0x80 ∨ (data.length - 57) % 16 ≠ 0 then
        .error .malformed
      else
        let body := data.take (data.length - 32)
        let tag := data.drop (data.length - 32)
        if Hmac.sha256 key.signing body ≠ tag then .error .badSignature
        else match Aes.cbcDecrypt key.encryption ((body.drop 9).take 16) (body.drop 25) with
          | some plaintext => .ok plaintext
          | none => .error .malformed

end GuildRegistry.Fernet
