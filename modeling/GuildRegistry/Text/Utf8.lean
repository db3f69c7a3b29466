import GuildRegistry.Text.Units

/-! UTF-8 bytes and hexadecimal text.

Texts are UTF-16 code units (see `Text.Units`). Encoding writes the characters they stand for, so a
surrogate pair becomes one four-byte sequence and a lone surrogate becomes the bytes of U+FFFD.
Decoding is lossy in the standard way: each maximal ill-formed subsequence of bytes becomes one
U+FFFD; the characters read are kept as code units.
-/

set_option autoImplicit false

namespace GuildRegistry.Utf8

/-- The bytes of a text. -/
def encode (s : String) : List UInt8 := (Text.toChars s).toUTF8.toList

/-- Whether a byte continues a sequence (`10xxxxxx`) within `lo … hi`. -/
def continues (lo hi : UInt8) (b : UInt8) : Bool := lo ≤ b && b ≤ hi

/-- What a leading byte from `0x80` on allows next: the range of the second byte and the
number of continuation bytes, none for a byte that starts no sequence. -/
def leadInfo (b₀ : UInt8) : UInt8 × UInt8 × Nat :=
  if 0xC2 ≤ b₀ ∧ b₀ ≤ 0xDF then (0x80, 0xBF, 1)
  else if b₀ = 0xE0 then (0xA0, 0xBF, 2)
  else if 0xE1 ≤ b₀ ∧ b₀ ≤ 0xEC then (0x80, 0xBF, 2)
  else if b₀ = 0xED then (0x80, 0x9F, 2)
  else if 0xEE ≤ b₀ ∧ b₀ ≤ 0xEF then (0x80, 0xBF, 2)
  else if b₀ = 0xF0 then (0x90, 0xBF, 3)
  else if 0xF1 ≤ b₀ ∧ b₀ ≤ 0xF3 then (0x80, 0xBF, 3)
  else if b₀ = 0xF4 then (0x80, 0x8F, 3)
  else (0, 0, 0)

/-- Reads one character at the front: the character (U+FFFD when ill-formed), the rest,
and whether it was well-formed. At least one byte is consumed. -/
def readChar : List UInt8 → Option (Char × List UInt8 × Bool)
  | [] => none
  | b₀ :: rest =>
    if b₀ < 0x80 then some (Char.ofNat b₀.toNat, rest, true)
    else
      let (lo, hi, need) := leadInfo b₀
      if need = 0 then some ('�', rest, false)
      else
        let lead : Nat := b₀.toNat % (if need = 1 then 32 else if need = 2 then 16 else 8)
        match rest with
        | b₁ :: rest₁ =>
          if !continues lo hi b₁ then some ('�', rest, false)
          else
            let v₁ := lead * 64 + b₁.toNat % 64
            if need = 1 then some (Char.ofNat v₁, rest₁, true)
            else match rest₁ with
              | b₂ :: rest₂ =>
                if !continues 0x80 0xBF b₂ then some ('�', rest₁, false)
                else
                  let v₂ := v₁ * 64 + b₂.toNat % 64
                  if need = 2 then some (Char.ofNat v₂, rest₂, true)
                  else match rest₂ with
                    | b₃ :: rest₃ =>
                      if !continues 0x80 0xBF b₃ then some ('�', rest₂, false)
                      else some (Char.ofNat (v₂ * 64 + b₃.toNat % 64), rest₃, true)
                    | [] => some ('�', [], false)
              | [] => some ('�', [], false)
        | [] => some ('�', [], false)

/-- Decodes bytes with fuel; each step consumes at least one byte. -/
def decodeWith : Nat → List UInt8 → List Char × Bool
  | 0, _ => ([], true)
  | fuel + 1, bytes =>
    match readChar bytes with
    | none => ([], true)
    | some (c, rest, ok) =>
      let (cs, allOk) := decodeWith fuel rest
      (c :: cs, ok && allOk)

/-- The text of some bytes, ill-formed parts replaced by U+FFFD. -/
def decodeLossy (bytes : List UInt8) : String :=
  String.ofList ((decodeWith bytes.length bytes).1.flatMap Text.unitsOfChar)

/-- The text of some bytes when they are well-formed UTF-8. -/
def decode? (bytes : List UInt8) : Option String :=
  let (cs, ok) := decodeWith bytes.length bytes
  if ok then some (String.ofList (cs.flatMap Text.unitsOfChar)) else none

/-- Bytes as lower-case hexadecimal. -/
def toHex (bytes : List UInt8) : String :=
  let digit (n : Nat) : Char := if n < 10 then Char.ofNat (48 + n) else Char.ofNat (87 + n)
  String.ofList (bytes.flatMap fun b => [digit (b.toNat / 16), digit (b.toNat % 16)])

/-- The value of a hexadecimal digit. -/
def hexValue (c : Char) : Option Nat :=
  if '0' ≤ c ∧ c ≤ '9' then some (c.toNat - 48)
  else if 'a' ≤ c ∧ c ≤ 'f' then some (c.toNat - 87)
  else if 'A' ≤ c ∧ c ≤ 'F' then some (c.toNat - 55)
  else none

/-- Bytes from hexadecimal text, two digits each; stops at the first pair that is not hex. -/
def ofHex (s : String) : List UInt8 :=
  go s.toList
where
  go : List Char → List UInt8
    | a :: b :: rest =>
      match hexValue a, hexValue b with
      | some x, some y => (x * 16 + y).toUInt8 :: go rest
      | _, _ => []
    | _ => []

/-- The text of bytes as a strict text decoder reads them: none when they are not UTF-8,
and one leading byte order mark is dropped. -/
def decodeStripped? (bytes : List UInt8) : Option String :=
  (decode? bytes).map fun s => match s.toList with
    | '\uFEFF' :: rest => String.ofList rest
    | _ => s

end GuildRegistry.Utf8
