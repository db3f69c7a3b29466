import GuildRegistry.Number.Binary64

/-! The shortest decimal that reads back as a given binary64 value.

A positive finite value owns the interval of reals that round to it: half the gap to each neighbour
on either side, ends included exactly when its significand is even.
-/

set_option autoImplicit false

namespace GuildRegistry.Binary64

-- powers of naturals are computed by `Nat.pow`, whatever other instances are in scope
attribute [local instance (high)] instPowNat

/-- A decimal `digits * 10^exponent`. -/
structure Decimal where
  digits : Nat
  exponent : Int
  deriving DecidableEq, Repr

/-- The number of decimal digits of a natural number (one for zero). -/
def digitCount (n : Nat) : Nat := (Nat.toDigits 10 n).length

/-- The gap to the next larger magnitude, in units. -/
def gapAbove (u : Nat) : Nat := 2 ^ (u.log2 + 1 - 53)

/-- The gap to the next smaller magnitude, in units: half the gap above at a power of
two that starts a binade, else the same. -/
def gapBelow (u : Nat) : Nat :=
  if 53 ≤ u.log2 ∧ u = 2 ^ u.log2 then gapAbove u / 2 else gapAbove u

/-- `⌊log10 (u / 2^1074)⌋` for a positive magnitude `u`. -/
def decimalExponent (u : Nat) : Int :=
  if unit ≤ u then (digitCount (u / unit) : Int) - 1
  else -((digitCount ((unit + u - 1) / u - 1)) : Int)

/-- Compares `c * 10^e` with `h / 2^1075` (a magnitude counted in half units). -/
def compareHalfUnits (c : Nat) (e : Int) (h : Nat) : Ordering :=
  if 0 ≤ e then compare (c * 10 ^ e.toNat * (2 * unit)) h
  else compare (c * (2 * unit)) (h * 10 ^ (-e).toNat)

/-- The decimals of `n` significant digits around the magnitude `u` that read back as
`u`, the nearer first. -/
def candidate (u : Nat) (n : Nat) : Option Decimal :=
  let e : Int := decimalExponent u - n + 1
  let lo := 2 * u - gapBelow u
  let hi := 2 * u + gapAbove u
  let even := (u / gapAbove u) % 2 == 0
  let c₀ := if 0 ≤ e then u / (unit * 10 ^ e.toNat) else u * 10 ^ (-e).toNat / unit
  let inside (c : Nat) : Bool :=
    (match compareHalfUnits c e lo with
      | .gt => true
      | .eq => even
      | .lt => false) &&
    (match compareHalfUnits c e hi with
      | .lt => true
      | .eq => even
      | .gt => false)
  match inside c₀, inside (c₀ + 1) with
  | true, true =>
    match compareHalfUnits (2 * c₀ + 1) e (4 * u) with
    | .gt => some ⟨c₀, e⟩
    | .lt => some ⟨c₀ + 1, e⟩
    | .eq => some ⟨if c₀ % 2 = 0 then c₀ else c₀ + 1, e⟩
  | true, false => some ⟨c₀, e⟩
  | false, true => some ⟨c₀ + 1, e⟩
  | false, false => none

/-- Removes trailing zeros from the digits, raising the exponent. -/
def Decimal.normalize (d : Decimal) : Decimal :=
  go (digitCount d.digits) d
where
  go : Nat → Decimal → Decimal
    | 0, d => d
    | fuel + 1, d =>
      if d.digits ≠ 0 ∧ d.digits % 10 = 0 then go fuel ⟨d.digits / 10, d.exponent + 1⟩ else d

/-- The shortest decimal that reads back as the positive magnitude `u`. -/
def shortestDecimal (u : Nat) : Decimal :=
  let found := (List.range 17).findSome? (fun i => candidate u (i + 1))
  (found.getD ⟨u, 0⟩).normalize

/-- Zeros as text. -/
def zeros (n : Nat) : String := String.ofList (List.replicate n '0')

/-- Lays out digits `s` whose decimal point stands `n` places after the first digit. -/
def layout (s : String) (n : Int) : String :=
  let k : Int := s.length
  if k ≤ n ∧ n ≤ 21 then s ++ zeros (n - k).toNat
  else if 0 < n ∧ n ≤ 21 then
    String.ofList (s.toList.take n.toNat) ++ "." ++ String.ofList (s.toList.drop n.toNat)
  else if -6 < n ∧ n ≤ 0 then "0." ++ zeros (-n).toNat ++ s
  else
    let e := n - 1
    let sign := if 0 ≤ e then "+" else "-"
    let mantissa :=
      if k = 1 then s
      else String.ofList (s.toList.take 1) ++ "." ++ String.ofList (s.toList.drop 1)
    mantissa ++ "e" ++ sign ++ toString e.natAbs

/-- The text of a number: `NaN`, `Infinity`, `-Infinity`, `0` for both zeros, else the
shortest decimal that reads back, laid out as `layout` says. -/
def format : Binary64 → String
  | .nan => "NaN"
  | .infinity false => "Infinity"
  | .infinity true => "-Infinity"
  | .finite _ 0 => "0"
  | .finite neg u =>
    let d := shortestDecimal u
    let s := toString d.digits
    let body := layout s (d.exponent + s.length)
    if neg then "-" ++ body else body

end GuildRegistry.Binary64
