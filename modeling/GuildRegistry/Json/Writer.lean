import GuildRegistry.Json.Value
import GuildRegistry.Number.Shortest
import GuildRegistry.Text.Units

/-! Writing JSON text.

The compact form: no blanks, members in their stored order. A string escapes the quote and the
backslash, writes backspace, form feed, line feed, carriage return and tab as two-character escapes,
and every other control character below U+0020 and every surrogate that is not part of a pair as
`\uxxxx` (lower case hex); all else is written as is.
-/

set_option autoImplicit false

namespace GuildRegistry.Json

/-- A lower-case hexadecimal digit. -/
def hexDigit (n : Nat) : Char :=
  if n < 10 then Char.ofNat ('0'.toNat + n) else Char.ofNat ('a'.toNat + n - 10)

/-- The escape `\uxxxx` of a code unit, in lower case hex. -/
def unitEscape (u : Nat) : List Char :=
  ['\\', 'u', hexDigit (u / 4096 % 16), hexDigit (u / 256 % 16), hexDigit (u / 16 % 16),
    hexDigit (u % 16)]

/-- The written form of one code unit inside a string, when it is not part of a surrogate
pair. -/
def escapeChar (c : Char) : List Char :=
  match c with
  | '"' => ['\\', '"']
  | '\\' => ['\\', '\\']
  | '\x08' => ['\\', 'b']
  | '\x0c' => ['\\', 'f']
  | '\n' => ['\\', 'n']
  | '\r' => ['\\', 'r']
  | '\t' => ['\\', 't']
  | c =>
    if c.toNat < 0x20 || Text.isHighSurrogate c || Text.isLowSurrogate c then
      unitEscape (Text.unitOf c)
    else [c]

/-- The written form of the code units of a string: a surrogate pair is written as it is. -/
def escapeUnits : List Char → List Char
  | [] => []
  | [c] => escapeChar c
  | c :: rest@(d :: more) =>
    if Text.isHighSurrogate c && Text.isLowSurrogate d then c :: d :: escapeUnits more
    else escapeChar c ++ escapeUnits rest

/-- A string in quotes with its escapes. -/
def quote (s : String) : String :=
  String.ofList ('"' :: (escapeUnits s.toList ++ ['"']))

/-- The text of a number inside JSON. -/
def numberText (x : Binary64) : String :=
  if x.isFinite then x.format else "null"

mutual

/-- The compact text of a value. -/
def render : Json → String
  | .null => "null"
  | .bool true => "true"
  | .bool false => "false"
  | .num x => numberText x
  | .str s => quote s
  | .arr items => "[" ++ renderItems items ++ "]"
  | .obj members => "\x7b" ++ renderMembers members ++ "\x7d"

/-- Array items separated by commas. -/
def renderItems : List Json → String
  | [] => ""
  | [v] => render v
  | v :: rest => render v ++ "," ++ renderItems rest

/-- Object members separated by commas. -/
def renderMembers : List (String × Json) → String
  | [] => ""
  | [(k, v)] => quote k ++ ":" ++ render v
  | (k, v) :: rest => quote k ++ ":" ++ render v ++ "," ++ renderMembers rest

end

end GuildRegistry.Json
