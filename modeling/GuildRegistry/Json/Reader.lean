import GuildRegistry.Json.Value
import GuildRegistry.Number.Numeral
import GuildRegistry.Text.Units

/-! Reading JSON text, with the reader's own account of what is wrong.

A text is a sequence of UTF-16 code units (see `Text.Units`), and positions count units. The grammar
is RFC 8259: blanks are space, tab, line feed and carriage return; strings may not hold raw control
characters; numbers are `-?(0|[1-9][0-9]*)(.[0-9]+)?([eE][+-]?[0-9]+)?` and are rounded once to
binary64. A string keeps its code units, so a `\u` escape of a lone surrogate reads as that unit.
-/

set_option autoImplicit false

namespace GuildRegistry.Json

-- powers of naturals are computed by `Nat.pow`, whatever other instances are in scope
attribute [local instance (high)] instPowNat

/-- What a character starts, for the reader. -/
inductive Token where
  | string
  | number
  | openObject
  | closeObject
  | openArray
  | closeArray
  | trueWord
  | falseWord
  | nullWord
  | blank
  | colon
  | comma
  | illegal
  | finish
  deriving DecidableEq, Repr

/-- The token a character starts: digits and `-` start numbers, a character that starts no
token is illegal. -/
def Token.ofChar (c : Char) : Token :=
  match c with
  | '"' => .string
  | '-' => .number
  | '{' => .openObject
  | '}' => .closeObject
  | '[' => .openArray
  | ']' => .closeArray
  | 't' => .trueWord
  | 'f' => .falseWord
  | 'n' => .nullWord
  | ' ' | '\t' | '\r' | '\n' => .blank
  | ':' => .colon
  | ',' => .comma
  | c => if c.isDigit then .number else .illegal

/-- JSON blanks. -/
def isJsonBlank (c : Char) : Bool := c = ' ' || c = '\t' || c = '\n' || c = '\r'

/-- The whole texts refused with a message of their own, being what a script passes where it
meant to pass a value. -/
def misplacedValueTexts : List String := ["[object Object]", "undefined", "Infinity", "NaN"]

section Source

variable (cs : Array Char)

/-- The token at a position; `finish` past the end. -/
def tokenAt (i : Nat) : Token :=
  match cs[i]? with
  | some c => Token.ofChar c
  | none => .finish

/-- The first position from `i` on that is not a blank. -/
def skipBlanks (i : Nat) : Nat :=
  if h : i < cs.size then
    if isJsonBlank cs[i] then skipBlanks (i + 1) else i
  else i
termination_by cs.size - i
decreasing_by omega

/-- The line of a position and its column in it, both from 1, scanning from position `i` on
line `line`, whose first position is `lineStart`. -/
def lineColumnFrom (pos i line lineStart : Nat) : Nat × Nat :=
  if h : i < pos then
    if cs[i]? == some '\r' && i + 1 < pos && cs[i + 1]? == some '\n' then
      lineColumnFrom pos (i + 2) (line + 1) (i + 2)
    else if cs[i]? == some '\r' || cs[i]? == some '\n' then
      lineColumnFrom pos (i + 1) (line + 1) (i + 1)
    else lineColumnFrom pos (i + 1) line lineStart
  else (line, 1 + pos - lineStart)
termination_by pos - i
decreasing_by all_goals omega

/-- Where a message places a position: ` at position P (line L column C)`. -/
def atPosition (pos : Nat) : String :=
  let (line, column) := lineColumnFrom cs pos 0 1 0
  " at position " ++ toString pos ++ " (line " ++ toString line ++ " column " ++
    toString column ++ ")"

/-- A message of its own, placed at a position in the text. -/
def placed (what : String) (pos : Nat) : String := what ++ " in JSON" ++ atPosition cs pos

/-- The units from `a` up to `b`, as text. -/
def piece (a b : Nat) : String := String.ofList (cs.extract a b).toList

/-- The message for a character that starts nothing: the character, and the whole text, or
ten units on either side of it when the text is 21 units long or more. -/
def unexpectedCharacter (pos : Nat) : String :=
  let source := piece cs 0 cs.size
  if misplacedValueTexts.contains source then "\"" ++ source ++ "\" is not valid JSON"
  else
    let len := cs.size
    let shown :=
      if len < 21 then "\"" ++ source ++ "\""
      else if pos < 10 then "\"" ++ piece cs 0 (pos + 10) ++ "\"..."
      else if pos + 10 < len then "...\"" ++ piece cs (pos - 10) (pos + 10) ++ "\"..."
      else "...\"" ++ piece cs (pos - 10) len ++ "\""
    "Unexpected token " ++ String.singleton (Char.ofNat 39) ++ piece cs pos (pos + 1) ++
      String.singleton (Char.ofNat 39) ++ ", " ++ shown ++ " is not valid JSON"

/-- The message for a token the reader did not expect at a position. -/
def unexpected (pos : Nat) : Token → String
  | .finish => "Unexpected end of JSON input"
  | .number => placed cs "Unexpected number" pos
  | .string => placed cs "Unexpected string" pos
  | _ => unexpectedCharacter cs pos

/-- The message for whatever token stands at a position. -/
def unexpectedAt (pos : Nat) : String := unexpected cs pos (tokenAt cs pos)

/-- The value of the four hexadecimal digits from a position, or the position of the first
one that is missing or not a hexadecimal digit. -/
def hex4 (pos : Nat) : Except Nat Nat :=
  [0, 1, 2, 3].foldlM (fun v k =>
    match cs[pos + k]?.bind Binary64.digitValue with
    | some d => .ok (v * 16 + d)
    | none => .error (pos + k)) 0

/-- Reads the rest of a string from a position inside it, `acc` holding the units read so
far in reverse: the string and the position after its closing quote. A backslash starts an
escape; a Latin-1 character that is no escape is refused as a bad escape, any other as an
unexpected token. Every step reads at least one unit, so `fuel` above the text's length is
enough. -/
def scanString : Nat → Nat → List Char → Except String (String × Nat)
  | 0, _, _ => .error "Unexpected end of JSON input"
  | fuel + 1, pos, acc =>
    match cs[pos]? with
    | none => .error (placed cs "Unterminated string" pos)
    | some '"' => .ok (String.ofList acc.reverse, pos + 1)
    | some '\\' =>
      match cs[pos + 1]? with
      | none => .error "Unexpected end of JSON input"
      | some '"' => scanString fuel (pos + 2) ('"' :: acc)
      | some '\\' => scanString fuel (pos + 2) ('\\' :: acc)
      | some '/' => scanString fuel (pos + 2) ('/' :: acc)
      | some 'b' => scanString fuel (pos + 2) ('\x08' :: acc)
      | some 'f' => scanString fuel (pos + 2) ('\x0c' :: acc)
      | some 'n' => scanString fuel (pos + 2) ('\n' :: acc)
      | some 'r' => scanString fuel (pos + 2) ('\r' :: acc)
      | some 't' => scanString fuel (pos + 2) ('\t' :: acc)
      | some 'u' =>
        match hex4 cs (pos + 2) with
        | .ok v => scanString fuel (pos + 6) (Text.unitChar v :: acc)
        | .error bad => .error (placed cs "Bad Unicode escape" bad)
      | some c =>
        if c.toNat ≤ 0xFF then .error (placed cs "Bad escaped character" (pos + 1))
        else .error (unexpectedAt cs (pos + 1))
    | some c =>
      if c.toNat < 0x20 then .error (placed cs "Bad control character in string literal" pos)
      else scanString fuel (pos + 1) (c :: acc)

/-- The end of the run of digits that starts at a position. -/
def digitsEnd (i : Nat) : Nat :=
  if h : i < cs.size then
    if cs[i].isDigit then digitsEnd (i + 1) else i
  else i
termination_by cs.size - i
decreasing_by omega

/-- The number that the digits from `a` up to `b` spell. -/
def digitsValue (a b : Nat) : Nat :=
  (cs.extract a b).foldl (fun acc c => acc * 10 + (c.toNat - '0'.toNat)) 0

/-- Whether a character may follow a leading zero inside a number. -/
def continuesNumber (c : Char) : Bool :=
  c.isDigit || c == '.' || c == 'e' || c == 'E' || c == '-' || c == '+'

/-- Reads the integer part of a number from its first digit: where it ends, and whether the
number ends there. A leading zero may not be followed by a digit; a positive zero followed by
something that cannot continue a number ends there. -/
def scanWhole (neg : Bool) (first : Nat) : Except String (Nat × Bool) :=
  if cs[first]? == some '0' then
    match cs[first + 1]? with
    | some c =>
      if c.isDigit then throw (placed cs "Unexpected number" (first + 1))
      else pure (first + 1, !neg && !continuesNumber c)
    | none => pure (first + 1, !neg)
  else
    let e := digitsEnd cs first
    if e == first then throw (placed cs "No number after minus sign" first)
    else pure (e, false)

/-- Reads the fraction of a number from the end of its integer part: where it ends. -/
def scanFraction (wholeEnd : Nat) : Except String Nat :=
  if cs[wholeEnd]? == some '.' then
    let e := digitsEnd cs (wholeEnd + 1)
    if e == wholeEnd + 1 then throw (placed cs "Unterminated fractional number" e)
    else pure e
  else pure wholeEnd

/-- Reads the exponent of a number from the end of its fraction: where it ends, and its value. -/
def scanExponent (fracEnd : Nat) : Except String (Nat × Int) :=
  if cs[fracEnd]? == some 'e' || cs[fracEnd]? == some 'E' then
    let sign := cs[fracEnd + 1]?
    let digitsStart :=
      if sign == some '+' || sign == some '-' then fracEnd + 2 else fracEnd + 1
    let e := digitsEnd cs digitsStart
    if e == digitsStart then throw (placed cs "Exponent part is missing a number" e)
    else
      let n : Int := digitsValue cs digitsStart e
      pure (e, if sign == some '-' then -n else n)
  else pure (fracEnd, (0 : Int))

/-- Reads a number from its first character: the value and the position after it. -/
def scanNumber (start : Nat) : Except String (Json × Nat) := do
  let neg := cs[start]? == some '-'
  let first := if neg then start + 1 else start
  let (wholeEnd, done) ← scanWhole cs neg first
  if done then return (.num (Binary64.ofDecimal false 0 0), wholeEnd)
  let fracEnd ← scanFraction cs wholeEnd
  let fracDigits := if fracEnd > wholeEnd then fracEnd - (wholeEnd + 1) else 0
  let (expEnd, exp10) ← scanExponent cs fracEnd
  let digits :=
    digitsValue cs first wholeEnd * 10 ^ fracDigits + digitsValue cs (wholeEnd + 1) fracEnd
  return (.num (Binary64.ofDecimal neg digits (exp10 - fracDigits)), expEnd)

/-- Reads `true`, `false` or `null` from its first character. When the word is not there,
the first character that differs is unexpected, or the text ends too early. -/
def scanWord (start : Nat) (word : String) (v : Json) : Except String (Json × Nat) :=
  let w := word.toList
  if (cs.extract start (start + w.length)).toList == w then .ok (v, start + w.length)
  else
    let checked := (List.range (min (w.length - 1) (cs.size - start - 1))).map (start + 1 + ·)
    match checked.find? (fun p => cs[p]? != w[p - start]?) with
    | some p => .error (unexpectedAt cs p)
    | none => .error "Unexpected end of JSON input"

mutual

/-- Reads a value after optional blanks: the value and the position after it. `fuel`
bounds the calls; each one past the first reads at least one unit. -/
def readValue : Nat → Nat → Except String (Json × Nat)
  | 0, _ => .error "Unexpected end of JSON input"
  | fuel + 1, pos =>
    let p := skipBlanks cs pos
    match tokenAt cs p with
    | .string => (scanString cs (cs.size + 1) (p + 1) []).map fun (s, q) => (.str s, q)
    | .number => scanNumber cs p
    | .trueWord => scanWord cs p "true" (.bool true)
    | .falseWord => scanWord cs p "false" (.bool false)
    | .nullWord => scanWord cs p "null" .null
    | .openObject =>
      let q := skipBlanks cs (p + 1)
      match tokenAt cs q with
      | .closeObject => .ok (.obj [], q + 1)
      | .string => readMembers fuel [] (q + 1)
      | _ => .error (placed cs "Expected property name or '\x7d'" q)
    | .openArray =>
      let q := skipBlanks cs (p + 1)
      if tokenAt cs q == .closeArray then .ok (.arr [], q + 1) else readItems fuel [] q
    | t => .error (unexpected cs p t)

/-- Reads the members of an object from just after the opening quote of a key. -/
def readMembers : Nat → List (String × Json) → Nat → Except String (Json × Nat)
  | 0, _, _ => .error "Unexpected end of JSON input"
  | fuel + 1, acc, pos =>
    match scanString cs (cs.size + 1) pos [] with
    | .error e => .error e
    | .ok (key, afterKey) =>
      let q := skipBlanks cs afterKey
      if tokenAt cs q != .colon then .error (placed cs "Expected ':' after property name" q)
      else
        match readValue fuel (q + 1) with
        | .error e => .error e
        | .ok (v, afterValue) =>
          let acc := Members.set acc key v
          let r := skipBlanks cs afterValue
          match tokenAt cs r with
          | .comma =>
            let s := skipBlanks cs (r + 1)
            if tokenAt cs s == .string then readMembers fuel acc (s + 1)
            else .error (placed cs "Expected double-quoted property name" s)
          | .closeObject => .ok (.obj acc, r + 1)
          | _ => .error (placed cs "Expected ',' or '\x7d' after property value" r)

/-- Reads the items of an array from the first one, `acc` holding those read so far in
reverse. -/
def readItems : Nat → List Json → Nat → Except String (Json × Nat)
  | 0, _, _ => .error "Unexpected end of JSON input"
  | fuel + 1, acc, pos =>
    match readValue fuel pos with
    | .error e => .error e
    | .ok (v, afterValue) =>
      let r := skipBlanks cs afterValue
      match tokenAt cs r with
      | .comma => readItems fuel (v :: acc) (r + 1)
      | .closeArray => .ok (.arr (v :: acc).reverse, r + 1)
      | _ => .error (placed cs "Expected ',' or ']' after array element" r)

end

end Source

/-- Reads a whole JSON text, one value and nothing after it but blanks, or says what is
wrong with it. -/
def parseText (s : String) : Except String Json :=
  let cs := s.toList.toArray
  match readValue cs (2 * cs.size + 2) 0 with
  | .error e => .error e
  | .ok (v, pos) =>
    let p := skipBlanks cs pos
    if p < cs.size then .error ("Unexpected non-whitespace character after JSON" ++ atPosition cs p)
    else .ok v

/-- Reads a whole JSON text, if it is one. -/
def parse? (s : String) : Option Json :=
  match parseText s with
  | .ok v => some v
  | .error _ => none

end GuildRegistry.Json
