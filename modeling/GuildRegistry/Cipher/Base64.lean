/-! Base64 with the URL-safe alphabet (RFC 4648 §5).

Encoding writes `A-Z a-z 0-9 - _` and pads the last group with `=` to four characters. Decoding
accepts a text of those characters followed by at most two `=`; the byte count is `⌊3n/4⌋` for the
`n` characters before the padding, and bits left over at the end are dropped.
-/

set_option autoImplicit false

namespace GuildRegistry.Base64

/-- The character of a 6-bit value. -/
def encodeDigit (n : Nat) : Char :=
  if n < 26 then Char.ofNat ('A'.toNat + n)
  else if n < 52 then Char.ofNat ('a'.toNat + n - 26)
  else if n < 62 then Char.ofNat ('0'.toNat + n - 52)
  else if n = 62 then '-' else '_'

/-- The 6-bit value of a URL-safe character. -/
def decodeDigit (c : Char) : Option Nat :=
  if 'A' ≤ c ∧ c ≤ 'Z' then some (c.toNat - 'A'.toNat)
  else if 'a' ≤ c ∧ c ≤ 'z' then some (c.toNat - 'a'.toNat + 26)
  else if '0' ≤ c ∧ c ≤ '9' then some (c.toNat - '0'.toNat + 52)
  else if c = '-' then some 62
  else if c = '_' then some 63
  else none

/-- Encodes bytes, three to four characters, padding the last group with `=`. -/
def encodeChars : List UInt8 → List Char
  | [] => []
  | [a] =>
    let n := a.toNat * 65536
    [encodeDigit (n / 262144 % 64), encodeDigit (n / 4096 % 64), '=', '=']
  | [a, b] =>
    let n := a.toNat * 65536 + b.toNat * 256
    [encodeDigit (n / 262144 % 64), encodeDigit (n / 4096 % 64), encodeDigit (n / 64 % 64), '=']
  | a :: b :: c :: rest =>
    let n := a.toNat * 65536 + b.toNat * 256 + c.toNat
    [encodeDigit (n / 262144 % 64), encodeDigit (n / 4096 % 64), encodeDigit (n / 64 % 64),
      encodeDigit (n % 64)] ++ encodeChars rest

def encode (bytes : List UInt8) : String := String.ofList (encodeChars bytes)

/-- Whether a text is URL-safe characters, at least one, then at most two `=`. -/
def isWellFormed (cs : List Char) : Bool :=
  let body := cs.takeWhile (fun c => (decodeDigit c).isSome)
  let tail := cs.drop body.length
  !body.isEmpty && tail.length ≤ 2 && tail.all (· == '=')

/-- Decodes groups of four digit values; a last group of two or three gives one or two
bytes, and a lone last digit gives none. -/
def decodeValues : List Nat → List UInt8
  | a :: b :: c :: d :: rest =>
    let n := ((a * 64 + b) * 64 + c) * 64 + d
    [(n / 65536).toUInt8, (n / 256 % 256).toUInt8, (n % 256).toUInt8] ++ decodeValues rest
  | [a, b, c] =>
    let n := (a * 64 + b) * 64 + c
    [(n / 1024).toUInt8, (n / 4 % 256).toUInt8]
  | [a, b] => [((a * 64 + b) / 16).toUInt8]
  | _ => []

/-- Decodes a well-formed URL-safe text. -/
def decode? (s : String) : Option (List UInt8) :=
  let cs := s.toList
  if isWellFormed cs then
    some (decodeValues ((cs.takeWhile (· != '=')).filterMap decodeDigit))
  else none

end GuildRegistry.Base64
