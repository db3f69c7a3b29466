/-! Texts as UTF-16 code units.

Every text in this library is a sequence of UTF-16 code units, one `Char` per unit, the way scripted
strings are: lengths and cuts count units, and a surrogate may stand alone, for instance after a cut
through a pair. A unit that is not a surrogate is kept as the character with the same number.
-/

set_option autoImplicit false

namespace GuildRegistry.Text

/-- Where the characters that keep surrogate units start. -/
def surrogateBase : Nat := 0xF0000

/-- The character that keeps a code unit. -/
def unitChar (u : Nat) : Char :=
  if 0xD800 ≤ u ∧ u ≤ 0xDFFF then Char.ofNat (surrogateBase + (u - 0xD800)) else Char.ofNat u

/-- The code unit a character keeps. -/
def unitOf (c : Char) : Nat :=
  if surrogateBase ≤ c.toNat ∧ c.toNat < surrogateBase + 0x800 then c.toNat - surrogateBase + 0xD800
  else c.toNat

/-- Whether a unit is a high (leading) surrogate. -/
def isHighSurrogate (c : Char) : Bool := 0xD800 ≤ unitOf c && unitOf c ≤ 0xDBFF

/-- Whether a unit is a low (trailing) surrogate. -/
def isLowSurrogate (c : Char) : Bool := 0xDC00 ≤ unitOf c && unitOf c ≤ 0xDFFF

/-- The code units of one character: itself up to U+FFFF, else its surrogate pair. -/
def unitsOfChar (c : Char) : List Char :=
  if c.toNat < 0x10000 then [c]
  else
    let v := c.toNat - 0x10000
    [unitChar (0xD800 + v / 0x400), unitChar (0xDC00 + v % 0x400)]

/-- The code units of a text of characters. -/
def ofChars (s : String) : String := String.ofList (s.toList.flatMap unitsOfChar)

/-- The characters that code units stand for: a high surrogate followed by a low one is
one character, and a surrogate alone is U+FFFD. -/
def codePoints : List Char → List Char
  | [] => []
  | [c] => [if isHighSurrogate c || isLowSurrogate c then '\uFFFD' else c]
  | c :: rest@(d :: more) =>
    if isHighSurrogate c && isLowSurrogate d then
      Char.ofNat (0x10000 + (unitOf c - 0xD800) * 0x400 + (unitOf d - 0xDC00)) :: codePoints more
    else (if isHighSurrogate c || isLowSurrogate c then '\uFFFD' else c) :: codePoints rest

/-- The text of characters that a text of code units stands for. -/
def toChars (s : String) : String := String.ofList (codePoints s.toList)

/-- A text with every lone surrogate replaced by U+FFFD, as a conversion to well-formed text
does. -/
def wellFormed (s : String) : String := ofChars (toChars s)

/-- The length of a text in UTF-16 code units. -/
def units16 (s : String) : Nat := s.length

/-- The text cut to its first `n` code units; a cut may split a surrogate pair. -/
def prefixUnits (n : Nat) (s : String) : String := String.ofList (s.toList.take n)

end GuildRegistry.Text
