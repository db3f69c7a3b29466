/-! SHA-256 (FIPS 180-4).

The message is padded with a one bit, zeros and its bit length to whole 64-byte blocks;
each block is expanded into a 64-word schedule and compressed into the eight-word state,
which starts at the standard initial value. The digest is the final state, big-endian.
-/

set_option autoImplicit false

namespace GuildRegistry.Sha256

-- powers of naturals are computed by `Nat.pow`, whatever other instances are in scope
attribute [local instance (high)] instPowNat

/-- The round constants. -/
def roundConstants : Array UInt32 := #[
  0x428a2f98, 0x71374491, 0xb5c0fbcf, 0xe9b5dba5, 0x3956c25b, 0x59f111f1, 0x923f82a4, 0xab1c5ed5,
  0xd807aa98, 0x12835b01, 0x243185be, 0x550c7dc3, 0x72be5d74, 0x80deb1fe, 0x9bdc06a7, 0xc19bf174,
  0xe49b69c1, 0xefbe4786, 0x0fc19dc6, 0x240ca1cc, 0x2de92c6f, 0x4a7484aa, 0x5cb0a9dc, 0x76f988da,
  0x983e5152, 0xa831c66d, 0xb00327c8, 0xbf597fc7, 0xc6e00bf3, 0xd5a79147, 0x06ca6351, 0x14292967,
  0x27b70a85, 0x2e1b2138, 0x4d2c6dfc, 0x53380d13, 0x650a7354, 0x766a0abb, 0x81c2c92e, 0x92722c85,
  0xa2bfe8a1, 0xa81a664b, 0xc24b8b70, 0xc76c51a3, 0xd192e819, 0xd6990624, 0xf40e3585, 0x106aa070,
  0x19a4c116, 0x1e376c08, 0x2748774c, 0x34b0bcb5, 0x391c0cb3, 0x4ed8aa4a, 0x5b9cca4f, 0x682e6ff3,
  0x748f82ee, 0x78a5636f, 0x84c87814, 0x8cc70208, 0x90befffa, 0xa4506ceb, 0xbef9a3f7, 0xc67178f2]

/-- The initial state. -/
def initialState : Array UInt32 := #[
  0x6a09e667, 0xbb67ae85, 0x3c6ef372, 0xa54ff53a, 0x510e527f, 0x9b05688c, 0x1f83d9ab, 0x5be0cd19]

def rotr (x : UInt32) (n : UInt32) : UInt32 := (x >>> n) ||| (x <<< (32 - n))

def bigSigma0 (x : UInt32) : UInt32 := rotr x 2 ^^^ rotr x 13 ^^^ rotr x 22
def bigSigma1 (x : UInt32) : UInt32 := rotr x 6 ^^^ rotr x 11 ^^^ rotr x 25
def sigma0 (x : UInt32) : UInt32 := rotr x 7 ^^^ rotr x 18 ^^^ (x >>> 3)
def sigma1 (x : UInt32) : UInt32 := rotr x 17 ^^^ rotr x 19 ^^^ (x >>> 10)
def choose (x y z : UInt32) : UInt32 := (x &&& y) ^^^ (~~~x &&& z)
def majority (x y z : UInt32) : UInt32 := (x &&& y) ^^^ (x &&& z) ^^^ (y &&& z)

/-- A big-endian word of four bytes. -/
def wordOf (b₀ b₁ b₂ b₃ : UInt8) : UInt32 :=
  (b₀.toUInt32 <<< 24) ||| (b₁.toUInt32 <<< 16) ||| (b₂.toUInt32 <<< 8) ||| b₃.toUInt32

/-- The four bytes of a word, big-endian. -/
def bytesOfWord (w : UInt32) : List UInt8 :=
  [(w >>> 24).toUInt8, (w >>> 16).toUInt8, (w >>> 8).toUInt8, w.toUInt8]

/-- The eight bytes of a number below `2^64`, big-endian. -/
def bytesOfLength (n : Nat) : List UInt8 :=
  (List.range 8).reverse.map fun i => (n / 2 ^ (8 * i) % 256).toUInt8

/-- Pads a message to whole blocks: a `0x80` byte, zeros, and the bit length. -/
def pad (msg : List UInt8) : List UInt8 :=
  let zeros := (119 - msg.length % 64) % 64
  msg ++ [0x80] ++ List.replicate zeros 0 ++ bytesOfLength (8 * msg.length)

/-- The 64-word message schedule of one block. -/
def schedule (block : Array UInt8) : Array UInt32 := Id.run do
  let mut w : Array UInt32 := Array.mkEmpty 64
  for i in [0:16] do
    w := w.push (wordOf block[4 * i]! block[4 * i + 1]! block[4 * i + 2]! block[4 * i + 3]!)
  for i in [16:64] do
    w := w.push (sigma1 w[i - 2]! + w[i - 7]! + sigma0 w[i - 15]! + w[i - 16]!)
  return w

/-- Compresses one block into the state. -/
def compress (state : Array UInt32) (block : Array UInt8) : Array UInt32 := Id.run do
  let w := schedule block
  let mut a := state[0]!
  let mut b := state[1]!
  let mut c := state[2]!
  let mut d := state[3]!
  let mut e := state[4]!
  let mut f := state[5]!
  let mut g := state[6]!
  let mut h := state[7]!
  for i in [0:64] do
    let t₁ := h + bigSigma1 e + choose e f g + roundConstants[i]! + w[i]!
    let t₂ := bigSigma0 a + majority a b c
    h := g
    g := f
    f := e
    e := d + t₁
    d := c
    c := b
    b := a
    a := t₁ + t₂
  return #[state[0]! + a, state[1]! + b, state[2]! + c, state[3]! + d,
    state[4]! + e, state[5]! + f, state[6]! + g, state[7]! + h]

/-- Splits a list into chunks of `n` (the last one shorter when `n` does not divide). -/
def chunks (n : Nat) (xs : List UInt8) : List (List UInt8) :=
  go xs.length xs
where
  go : Nat → List UInt8 → List (List UInt8)
    | 0, _ => []
    | _, [] => []
    | fuel + 1, ys => ys.take n :: go fuel (ys.drop n)

/-- The 32-byte digest of a message. -/
def hash (msg : List UInt8) : List UInt8 :=
  let state := (chunks 64 (pad msg)).foldl (fun st blk => compress st blk.toArray) initialState
  state.toList.flatMap bytesOfWord

end GuildRegistry.Sha256
