import GuildRegistry.Number.Binary64
import GuildRegistry.Text.Blank

/-! Reading numerals.

`ofDecimal` rounds an exact decimal once. `ofNumeral` reads a whole text as a number: blanks at
either end are ignored, the empty text is zero, and the text must be a signed decimal (`12`, `-1.5`,
`.5`, `1.`, `1e3`), a signed `Infinity`, or an unsigned hexadecimal, octal or binary integer
(`0x1F`, `0o17`, `0b101`). Anything else is NaN.
-/

set_option autoImplicit false

namespace GuildRegistry.Binary64

-- powers of naturals are computed by `Nat.pow`, whatever other instances are in scope
attribute [local instance (high)] instPowNat

/-- The value nearest to `(-1)^neg * digits * 10^exp10`. Exponents far outside the
finite range give zero or an infinity without building their powers. -/
def ofDecimal (neg : Bool) (digits : Nat) (exp10 : Int) : Binary64 :=
  if digits = 0 then .finite neg 0
  else
    let top := exp10 + (Nat.toDigits 10 digits).length
    if 310 ≤ top then .infinity neg
    else if top ≤ -324 then .finite neg 0
    else if 0 ≤ exp10 then ofRat neg (digits * 10 ^ exp10.toNat) 1
    else ofRat neg digits (10 ^ (-exp10).toNat)

/-- The value of a digit in base 16 or below. -/
def digitValue (c : Char) : Option Nat :=
  if '0' ≤ c ∧ c ≤ '9' then some (c.toNat - '0'.toNat)
  else if 'a' ≤ c ∧ c ≤ 'f' then some (c.toNat - 'a'.toNat + 10)
  else if 'A' ≤ c ∧ c ≤ 'F' then some (c.toNat - 'A'.toNat + 10)
  else none

/-- Reads a nonempty run of digits of a base; `none` if a character is no such digit. -/
def readDigits (base : Nat) (cs : List Char) : Option Nat :=
  if cs.isEmpty then none
  else cs.foldlM (fun acc c => match digitValue c with
    | some d => if d < base then some (acc * base + d) else none
    | none => none) 0

/-- Splits off the leading decimal digits. -/
def spanDigits (cs : List Char) : List Char × List Char :=
  (cs.takeWhile Char.isDigit, cs.dropWhile Char.isDigit)

/-- The exponent part `e12`, `E-3`, `e+0`: a sign and at least one digit. -/
def readExponent (cs : List Char) : Option Int :=
  match cs with
  | '+' :: rest => (readDigits 10 rest).map Int.ofNat
  | '-' :: rest => (readDigits 10 rest).map (fun n => -(n : Int))
  | rest => (readDigits 10 rest).map Int.ofNat

/-- An unsigned decimal: digits with an optional point and fraction, or a point and a
fraction, then an optional exponent. Gives the digits and the power of ten. -/
def readUnsignedDecimal (cs : List Char) : Option (Nat × Int) :=
  let (whole, rest) := spanDigits cs
  let (frac, rest) := match rest with
    | '.' :: more => spanDigits more
    | _ => ([], rest)
  if whole.isEmpty && frac.isEmpty then none
  else
    let exp : Option Int := match rest with
      | [] => some 0
      | c :: more => if c = 'e' ∨ c = 'E' then readExponent more else none
    exp.map fun e =>
      let digits := (whole ++ frac).foldl (fun acc c => acc * 10 + (c.toNat - '0'.toNat)) 0
      (digits, e - frac.length)

/-- A signed decimal or a signed `Infinity`. -/
def readSignedDecimal (cs : List Char) : Option Binary64 :=
  let (neg, body) := match cs with
    | '+' :: rest => (false, rest)
    | '-' :: rest => (true, rest)
    | rest => (false, rest)
  if body = "Infinity".toList then some (.infinity neg)
  else (readUnsignedDecimal body).map fun (d, e) => ofDecimal neg d e

/-- A hexadecimal, octal or binary integer with its prefix, and no sign. -/
def readPrefixedInteger : List Char → Option Binary64
  | '0' :: p :: rest =>
    let base := if p = 'x' ∨ p = 'X' then 16 else if p = 'o' ∨ p = 'O' then 8
      else if p = 'b' ∨ p = 'B' then 2 else 0
    if base = 0 then none else (readDigits base rest).map ofNat
  | _ => none

/-- The number a text spells, or NaN. -/
def ofNumeral (s : String) : Binary64 :=
  let cs := Text.trimChars s.toList
  if cs.isEmpty then .finite false 0
  else match readPrefixedInteger cs with
    | some x => x
    | none => (readSignedDecimal cs).getD .nan

end GuildRegistry.Binary64
