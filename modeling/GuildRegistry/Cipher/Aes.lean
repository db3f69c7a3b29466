/-! AES-128 (FIPS 197) and its CBC mode with PKCS #7 padding.

Bytes are elements of GF(2^8) modulo `x^8 + x^4 + x^3 + x + 1`. The S-box maps a byte to the affine
image of its multiplicative inverse; it and its inverse are the standard's tables. A block is 16
bytes in column order; a round substitutes bytes, shifts row `r` left by `r`, mixes each column and
adds the round key, and decryption applies the inverse steps in reverse.
-/

set_option autoImplicit false

namespace GuildRegistry.Aes

/-- Multiplication by `x` in GF(2^8). -/
def xtime (a : UInt8) : UInt8 := (a <<< 1) ^^^ (if a &&& 0x80 != 0 then 0x1b else 0)

/-- Multiplication in GF(2^8), by shifts and additions over the bits of `b`. -/
def gmul (a b : UInt8) : UInt8 := Id.run do
  let mut p : UInt8 := 0
  let mut x := a
  let mut y := b
  for _ in [0:8] do
    if y &&& 1 != 0 then p := p ^^^ x
    x := xtime x
    y := y >>> 1
  return p

/-- The S-box of FIPS 197 (Figure 7): byte `b` goes to the affine image of its multiplicative
inverse in GF(2^8), zero going to the image of zero. -/
def sbox : Array UInt8 := #[
  0x63, 0x7c, 0x77, 0x7b, 0xf2, 0x6b, 0x6f, 0xc5, 0x30, 0x01, 0x67, 0x2b, 0xfe, 0xd7, 0xab, 0x76,
  0xca, 0x82, 0xc9, 0x7d, 0xfa, 0x59, 0x47, 0xf0, 0xad, 0xd4, 0xa2, 0xaf, 0x9c, 0xa4, 0x72, 0xc0,
  0xb7, 0xfd, 0x93, 0x26, 0x36, 0x3f, 0xf7, 0xcc, 0x34, 0xa5, 0xe5, 0xf1, 0x71, 0xd8, 0x31, 0x15,
  0x04, 0xc7, 0x23, 0xc3, 0x18, 0x96, 0x05, 0x9a, 0x07, 0x12, 0x80, 0xe2, 0xeb, 0x27, 0xb2, 0x75,
  0x09, 0x83, 0x2c, 0x1a, 0x1b, 0x6e, 0x5a, 0xa0, 0x52, 0x3b, 0xd6, 0xb3, 0x29, 0xe3, 0x2f, 0x84,
  0x53, 0xd1, 0x00, 0xed, 0x20, 0xfc, 0xb1, 0x5b, 0x6a, 0xcb, 0xbe, 0x39, 0x4a, 0x4c, 0x58, 0xcf,
  0xd0, 0xef, 0xaa, 0xfb, 0x43, 0x4d, 0x33, 0x85, 0x45, 0xf9, 0x02, 0x7f, 0x50, 0x3c, 0x9f, 0xa8,
  0x51, 0xa3, 0x40, 0x8f, 0x92, 0x9d, 0x38, 0xf5, 0xbc, 0xb6, 0xda, 0x21, 0x10, 0xff, 0xf3, 0xd2,
  0xcd, 0x0c, 0x13, 0xec, 0x5f, 0x97, 0x44, 0x17, 0xc4, 0xa7, 0x7e, 0x3d, 0x64, 0x5d, 0x19, 0x73,
  0x60, 0x81, 0x4f, 0xdc, 0x22, 0x2a, 0x90, 0x88, 0x46, 0xee, 0xb8, 0x14, 0xde, 0x5e, 0x0b, 0xdb,
  0xe0, 0x32, 0x3a, 0x0a, 0x49, 0x06, 0x24, 0x5c, 0xc2, 0xd3, 0xac, 0x62, 0x91, 0x95, 0xe4, 0x79,
  0xe7, 0xc8, 0x37, 0x6d, 0x8d, 0xd5, 0x4e, 0xa9, 0x6c, 0x56, 0xf4, 0xea, 0x65, 0x7a, 0xae, 0x08,
  0xba, 0x78, 0x25, 0x2e, 0x1c, 0xa6, 0xb4, 0xc6, 0xe8, 0xdd, 0x74, 0x1f, 0x4b, 0xbd, 0x8b, 0x8a,
  0x70, 0x3e, 0xb5, 0x66, 0x48, 0x03, 0xf6, 0x0e, 0x61, 0x35, 0x57, 0xb9, 0x86, 0xc1, 0x1d, 0x9e,
  0xe1, 0xf8, 0x98, 0x11, 0x69, 0xd9, 0x8e, 0x94, 0x9b, 0x1e, 0x87, 0xe9, 0xce, 0x55, 0x28, 0xdf,
  0x8c, 0xa1, 0x89, 0x0d, 0xbf, 0xe6, 0x42, 0x68, 0x41, 0x99, 0x2d, 0x0f, 0xb0, 0x54, 0xbb, 0x16
]

/-- The inverse S-box of FIPS 197 (Figure 14). -/
def invSbox : Array UInt8 := #[
  0x52, 0x09, 0x6a, 0xd5, 0x30, 0x36, 0xa5, 0x38, 0xbf, 0x40, 0xa3, 0x9e, 0x81, 0xf3, 0xd7, 0xfb,
  0x7c, 0xe3, 0x39, 0x82, 0x9b, 0x2f, 0xff, 0x87, 0x34, 0x8e, 0x43, 0x44, 0xc4, 0xde, 0xe9, 0xcb,
  0x54, 0x7b, 0x94, 0x32, 0xa6, 0xc2, 0x23, 0x3d, 0xee, 0x4c, 0x95, 0x0b, 0x42, 0xfa, 0xc3, 0x4e,
  0x08, 0x2e, 0xa1, 0x66, 0x28, 0xd9, 0x24, 0xb2, 0x76, 0x5b, 0xa2, 0x49, 0x6d, 0x8b, 0xd1, 0x25,
  0x72, 0xf8, 0xf6, 0x64, 0x86, 0x68, 0x98, 0x16, 0xd4, 0xa4, 0x5c, 0xcc, 0x5d, 0x65, 0xb6, 0x92,
  0x6c, 0x70, 0x48, 0x50, 0xfd, 0xed, 0xb9, 0xda, 0x5e, 0x15, 0x46, 0x57, 0xa7, 0x8d, 0x9d, 0x84,
  0x90, 0xd8, 0xab, 0x00, 0x8c, 0xbc, 0xd3, 0x0a, 0xf7, 0xe4, 0x58, 0x05, 0xb8, 0xb3, 0x45, 0x06,
  0xd0, 0x2c, 0x1e, 0x8f, 0xca, 0x3f, 0x0f, 0x02, 0xc1, 0xaf, 0xbd, 0x03, 0x01, 0x13, 0x8a, 0x6b,
  0x3a, 0x91, 0x11, 0x41, 0x4f, 0x67, 0xdc, 0xea, 0x97, 0xf2, 0xcf, 0xce, 0xf0, 0xb4, 0xe6, 0x73,
  0x96, 0xac, 0x74, 0x22, 0xe7, 0xad, 0x35, 0x85, 0xe2, 0xf9, 0x37, 0xe8, 0x1c, 0x75, 0xdf, 0x6e,
  0x47, 0xf1, 0x1a, 0x71, 0x1d, 0x29, 0xc5, 0x89, 0x6f, 0xb7, 0x62, 0x0e, 0xaa, 0x18, 0xbe, 0x1b,
  0xfc, 0x56, 0x3e, 0x4b, 0xc6, 0xd2, 0x79, 0x20, 0x9a, 0xdb, 0xc0, 0xfe, 0x78, 0xcd, 0x5a, 0xf4,
  0x1f, 0xdd, 0xa8, 0x33, 0x88, 0x07, 0xc7, 0x31, 0xb1, 0x12, 0x10, 0x59, 0x27, 0x80, 0xec, 0x5f,
  0x60, 0x51, 0x7f, 0xa9, 0x19, 0xb5, 0x4a, 0x0d, 0x2d, 0xe5, 0x7a, 0x9f, 0x93, 0xc9, 0x9c, 0xef,
  0xa0, 0xe0, 0x3b, 0x4d, 0xae, 0x2a, 0xf5, 0xb0, 0xc8, 0xeb, 0xbb, 0x3c, 0x83, 0x53, 0x99, 0x61,
  0x17, 0x2b, 0x04, 0x7e, 0xba, 0x77, 0xd6, 0x26, 0xe1, 0x69, 0x14, 0x63, 0x55, 0x21, 0x0c, 0x7d
]

/-- The round constants `x^(i-1)`, `i = 1 … 10`. -/
def roundConstant (i : Nat) : UInt8 := (List.replicate (i - 1) ()).foldl (fun a _ => xtime a) 1

/-- The 176 bytes of the eleven round keys of a 16-byte key. -/
def expandKey (key : Array UInt8) : Array UInt8 := Id.run do
  let mut w := key
  for i in [4:44] do
    let t₀ := w[4 * (i - 1)]!
    let t₁ := w[4 * (i - 1) + 1]!
    let t₂ := w[4 * (i - 1) + 2]!
    let t₃ := w[4 * (i - 1) + 3]!
    let (u₀, u₁, u₂, u₃) :=
      if i % 4 == 0 then
        (sbox[t₁.toNat]! ^^^ roundConstant (i / 4), sbox[t₂.toNat]!, sbox[t₃.toNat]!, sbox[t₀.toNat]!)
      else (t₀, t₁, t₂, t₃)
    w := w.push (w[4 * (i - 4)]! ^^^ u₀)
    w := w.push (w[4 * (i - 4) + 1]! ^^^ u₁)
    w := w.push (w[4 * (i - 4) + 2]! ^^^ u₂)
    w := w.push (w[4 * (i - 4) + 3]! ^^^ u₃)
  return w

/-- A 16-byte state. -/
abbrev Block := Array UInt8

def addRoundKey (keys : Array UInt8) (round : Nat) (s : Block) : Block :=
  Array.ofFn (n := 16) fun i => s[i.val]! ^^^ keys[16 * round + i.val]!

def subBytes (s : Block) : Block := s.map fun b => sbox[b.toNat]!
def invSubBytes (s : Block) : Block := s.map fun b => invSbox[b.toNat]!

/-- Row `r` moves left by `r` columns; byte `r + 4c` is row `r`, column `c`. -/
def shiftRows (s : Block) : Block :=
  Array.ofFn (n := 16) fun i => s[i.val % 4 + 4 * ((i.val / 4 + i.val % 4) % 4)]!

def invShiftRows (s : Block) : Block :=
  Array.ofFn (n := 16) fun i => s[i.val % 4 + 4 * ((i.val / 4 + 4 - i.val % 4) % 4)]!

/-- Mixes each column by a fixed matrix over GF(2^8) with rows rotating `m₀ m₁ m₂ m₃`. -/
def mixWith (m₀ m₁ m₂ m₃ : UInt8) (s : Block) : Block :=
  Array.ofFn (n := 16) fun i =>
    let c := i.val / 4
    let r := i.val % 4
    let a (k : Nat) : UInt8 := s[4 * c + (r + k) % 4]!
    gmul m₀ (a 0) ^^^ gmul m₁ (a 1) ^^^ gmul m₂ (a 2) ^^^ gmul m₃ (a 3)

def mixColumns (s : Block) : Block := mixWith 2 3 1 1 s
def invMixColumns (s : Block) : Block := mixWith 14 11 13 9 s

/-- Enciphers one block under expanded keys. -/
def encryptBlock (keys : Array UInt8) (block : Block) : Block :=
  let s := addRoundKey keys 0 block
  let s := (List.range 9).foldl
    (fun s r => addRoundKey keys (r + 1) (mixColumns (shiftRows (subBytes s)))) s
  addRoundKey keys 10 (shiftRows (subBytes s))

/-- Deciphers one block under expanded keys. -/
def decryptBlock (keys : Array UInt8) (block : Block) : Block :=
  let s := addRoundKey keys 10 block
  let s := (List.range 9).foldl
    (fun s r => invMixColumns (addRoundKey keys (9 - r) (invSubBytes (invShiftRows s)))) s
  addRoundKey keys 0 (invSubBytes (invShiftRows s))

/-- Appends `n` bytes of value `n`, `n = 16 - len % 16`. -/
def pkcs7Pad (bytes : List UInt8) : List UInt8 :=
  let n := 16 - bytes.length % 16
  bytes ++ List.replicate n n.toUInt8

/-- Removes PKCS #7 padding; `none` unless the last byte `n` is `1 … 16` and the last `n`
bytes all equal `n`. -/
def pkcs7Unpad (bytes : List UInt8) : Option (List UInt8) :=
  match bytes.getLast? with
  | none => none
  | some last =>
    let n := last.toNat
    if 1 ≤ n ∧ n ≤ 16 ∧ n ≤ bytes.length ∧ (bytes.drop (bytes.length - n)).all (· == last) then
      some (bytes.take (bytes.length - n))
    else none

/-- Splits into 16-byte blocks. -/
def blocks (bytes : List UInt8) : List Block :=
  go bytes.length bytes
where
  go : Nat → List UInt8 → List Block
    | 0, _ => []
    | _, [] => []
    | fuel + 1, ys => (ys.take 16).toArray :: go fuel (ys.drop 16)

def xorBlock (a b : Block) : Block := Array.ofFn (n := 16) fun i => a[i.val]! ^^^ b[i.val]!

/-- CBC encryption with PKCS #7 padding under a 16-byte key and IV. -/
def cbcEncrypt (key iv plaintext : List UInt8) : List UInt8 :=
  let keys := expandKey key.toArray
  let (_, out) := (blocks (pkcs7Pad plaintext)).foldl
    (fun (prev, acc) p =>
      let c := encryptBlock keys (xorBlock p prev)
      (c, acc ++ c.toList)) (iv.toArray, [])
  out

/-- CBC decryption and unpadding; `none` when the padding is wrong. The ciphertext is a
whole number of blocks. -/
def cbcDecrypt (key iv ciphertext : List UInt8) : Option (List UInt8) :=
  let keys := expandKey key.toArray
  let (_, out) := (blocks ciphertext).foldl
    (fun (prev, acc) c => (c, acc ++ (xorBlock (decryptBlock keys c) prev).toList)) (iv.toArray, [])
  pkcs7Unpad out

end GuildRegistry.Aes
