/-! Double-precision binary floating-point numbers, computed exactly.

A finite value is a whole number of `2^-1074` units (the least subnormal), so sums, remainders and
comparisons are `Nat` arithmetic, and products and quotients are exact rationals.
-/

set_option autoImplicit false

namespace GuildRegistry

-- powers of naturals are computed by `Nat.pow`, whatever other instances are in scope
attribute [local instance (high)] instPowNat

/-- A binary64 value: NaN, a signed infinity, or `(-1)^neg * units * 2^-1074`. -/
inductive Binary64 where
  | nan
  | infinity (neg : Bool)
  | finite (neg : Bool) (units : Nat)
  deriving DecidableEq, Repr, Inhabited

namespace Binary64

/-- Units in one: `2^1074`. -/
def unit : Nat := 2 ^ (1074 : Nat)

/-- The largest finite magnitude, `(2^53 - 1) * 2^971`, in units. -/
def maxUnits : Nat := (2 ^ (53 : Nat) - 1) * 2 ^ (2045 : Nat)

/-- Rounds the magnitude `a / b` units to 53 significant bits, ties to even;
`none` when the rounded magnitude exceeds the largest finite one. -/
def roundUnits (a b : Nat) : Option Nat :=
  let shift := (a / b).log2 + 1 - 53
  let den := b * 2 ^ shift
  let q := a / den
  let r := a % den
  let m := if den < 2 * r ∨ (2 * r = den ∧ q % 2 = 1) then q + 1 else q
  let n := m * 2 ^ shift
  if n ≤ maxUnits then some n else none

/-- The value nearest to `(-1)^neg * a / b` units; a zero result keeps the sign. -/
def ofRatUnits (neg : Bool) (a b : Nat) : Binary64 :=
  match roundUnits a b with
  | some n => .finite neg n
  | none => .infinity neg

/-- The value nearest to `(-1)^neg * a / b`. -/
def ofRat (neg : Bool) (a b : Nat) : Binary64 :=
  ofRatUnits neg (a * unit) b

def zero : Binary64 := .finite false 0
def negZero : Binary64 := .finite true 0
def posInfinity : Binary64 := .infinity false
def negInfinity : Binary64 := .infinity true

/-- The value nearest to a natural number. -/
def ofNat (n : Nat) : Binary64 := ofRat false n 1

/-- The value nearest to an integer; zero is `+0`. -/
def ofInt (i : Int) : Binary64 := ofRat (decide (i < 0)) i.natAbs 1

instance {n : Nat} : OfNat Binary64 n := ⟨ofNat n⟩

def isNaN : Binary64 → Bool
  | .nan => true
  | _ => false

def isFinite : Binary64 → Bool
  | .finite _ _ => true
  | _ => false

/-- A finite value with no fractional part. -/
def isInteger : Binary64 → Bool
  | .finite _ u => u % unit == 0
  | _ => false

/-- The largest integer `n` such that `n` and every integer below it in magnitude are exact. -/
def maxSafeInteger : Nat := 2 ^ (53 : Nat) - 1

/-- An integer of magnitude at most `2^53 - 1`. -/
def isSafeInteger (x : Binary64) : Bool :=
  match x with
  | .finite _ u => u % unit == 0 && u / unit ≤ maxSafeInteger
  | _ => false

/-- The integer part of a finite value, rounding toward zero. -/
def truncate? : Binary64 → Option Int
  | .finite neg u =>
    let n : Int := (u / unit : Nat)
    some (if neg then -n else n)
  | _ => none

def neg : Binary64 → Binary64
  | .nan => .nan
  | .infinity s => .infinity (!s)
  | .finite s u => .finite (!s) u

instance : Neg Binary64 := ⟨neg⟩

/-- The exact signed sum of two finite values, rounded; an exact zero is `+0` unless
both operands are `-0`. -/
def addFinite (s₁ : Bool) (u₁ : Nat) (s₂ : Bool) (u₂ : Nat) : Binary64 :=
  if s₁ = s₂ then
    ofRatUnits s₁ (u₁ + u₂) 1
  else if u₁ = u₂ then
    .finite false 0
  else if u₂ < u₁ then
    ofRatUnits s₁ (u₁ - u₂) 1
  else
    ofRatUnits s₂ (u₂ - u₁) 1

def add : Binary64 → Binary64 → Binary64
  | .nan, _ => .nan
  | _, .nan => .nan
  | .infinity s₁, .infinity s₂ => if s₁ = s₂ then .infinity s₁ else .nan
  | .infinity s, .finite _ _ => .infinity s
  | .finite _ _, .infinity s => .infinity s
  | .finite s₁ u₁, .finite s₂ u₂ => addFinite s₁ u₁ s₂ u₂

def sub (x y : Binary64) : Binary64 := add x (neg y)

def mul : Binary64 → Binary64 → Binary64
  | .nan, _ => .nan
  | _, .nan => .nan
  | .infinity s₁, .infinity s₂ => .infinity (s₁ != s₂)
  | .infinity s₁, .finite s₂ u => if u = 0 then .nan else .infinity (s₁ != s₂)
  | .finite s₁ u, .infinity s₂ => if u = 0 then .nan else .infinity (s₁ != s₂)
  | .finite s₁ u₁, .finite s₂ u₂ => ofRatUnits (s₁ != s₂) (u₁ * u₂) unit

def div : Binary64 → Binary64 → Binary64
  | .nan, _ => .nan
  | _, .nan => .nan
  | .infinity _, .infinity _ => .nan
  | .infinity s₁, .finite s₂ _ => .infinity (s₁ != s₂)
  | .finite s₁ _, .infinity s₂ => .finite (s₁ != s₂) 0
  | .finite s₁ u₁, .finite s₂ u₂ =>
    if u₂ = 0 then
      (if u₁ = 0 then .nan else .infinity (s₁ != s₂))
    else ofRatUnits (s₁ != s₂) (u₁ * unit) u₂

/-- The remainder of a division truncated toward zero; it takes the dividend's sign
and is always exact. -/
def rem : Binary64 → Binary64 → Binary64
  | .nan, _ => .nan
  | _, .nan => .nan
  | .infinity _, _ => .nan
  | .finite s u, .infinity _ => .finite s u
  | .finite s₁ u₁, .finite _ u₂ => if u₂ = 0 then .nan else .finite s₁ (u₁ % u₂)

instance : Add Binary64 := ⟨add⟩
instance : Sub Binary64 := ⟨sub⟩
instance : Mul Binary64 := ⟨mul⟩
instance : Div Binary64 := ⟨div⟩
instance : Mod Binary64 := ⟨rem⟩

/-- The greatest integer not above the value; `-0` and the infinities are kept. -/
def floor : Binary64 → Binary64
  | .finite false u => .finite false (u / unit * unit)
  | .finite true u => .finite true ((u + unit - 1) / unit * unit)
  | x => x

/-- The least integer not below the value. -/
def ceil (x : Binary64) : Binary64 := neg (floor (neg x))

/-- The integer nearest to the value, a half going up; values in `[-0.5, 0)` give `-0`. -/
def roundHalfUp : Binary64 → Binary64
  | .finite false u => .finite false ((u + unit / 2) / unit * unit)
  | .finite true u =>
    if u ≤ unit / 2 then .finite true 0
    else .finite true ((u - unit / 2 + unit - 1) / unit * unit)
  | x => x

/-- Orders two values as extended reals; `none` when either is NaN. Both zeros are equal. -/
def compare? : Binary64 → Binary64 → Option Ordering
  | .nan, _ => none
  | _, .nan => none
  | .infinity s₁, .infinity s₂ =>
    some (if s₁ = s₂ then .eq else if s₁ then .lt else .gt)
  | .infinity s, .finite _ _ => some (if s then .lt else .gt)
  | .finite _ _, .infinity s => some (if s then .gt else .lt)
  | .finite s₁ u₁, .finite s₂ u₂ =>
    if u₁ = 0 ∧ u₂ = 0 then some .eq
    else match s₁, s₂ with
      | false, false => some (compare u₁ u₂)
      | true, true => some (compare u₂ u₁)
      | false, true => some .gt
      | true, false => some .lt

/-- `x < y`; false when either is NaN. -/
def lt (x y : Binary64) : Bool := compare? x y == some .lt

/-- `x ≤ y`; false when either is NaN. -/
def le (x y : Binary64) : Bool :=
  match compare? x y with
  | some .lt => true
  | some .eq => true
  | _ => false

/-- Numeric equality: NaN equals nothing, and `-0` equals `+0`. -/
def eq (x y : Binary64) : Bool := compare? x y == some .eq

/-- Key equality of keyed collections: NaN equals NaN, and `-0` equals `+0`. -/
def sameValueZero (x y : Binary64) : Bool := (x.isNaN && y.isNaN) || eq x y

/-- The larger value; NaN when either is NaN. -/
def max (x y : Binary64) : Binary64 :=
  if x.isNaN || y.isNaN then .nan else if lt x y then y else x

end Binary64

end GuildRegistry
