import GuildRegistry.Number.Binary64
import Mathlib

/-! Binary64 values as points of the extended line.

A value other than NaN stands for a point of the extended line: a whole number of units of `2^-1074`
with a sign, or one of the two infinities. Both zeros stand for the same point. The comparisons `lt`
and `eq` are the order of those points (`lt_iff_point_lt`, `eq_iff_point_eq`).
-/

set_option autoImplicit false

namespace GuildRegistry.Binary64

-- powers of naturals are computed by `Nat.pow`, as in the definitions of binary64
attribute [local instance (high)] instPowNat

/-- A sign and a magnitude as an integer. -/
def signed (neg : Bool) (u : Nat) : ℤ := if neg then -(u : ℤ) else u

/-- The point of the extended line a value stands for, in units of `2^-1074`. NaN stands for
no point and is put at the bottom. -/
def point : Binary64 → WithBot (WithTop ℤ)
  | .nan => ⊥
  | .infinity neg => if neg then ⊥ else ((⊤ : WithTop ℤ) : WithBot (WithTop ℤ))
  | .finite neg u => ((signed neg u : WithTop ℤ) : WithBot (WithTop ℤ))

/-! ### Comparisons -/

/-- Every finite point is below the positive infinity. -/
@[simp] theorem coe_coe_lt_top (z : ℤ) : ((z : WithTop ℤ) : WithBot (WithTop ℤ)) < ⊤ :=
  WithBot.coe_lt_coe.mpr (WithTop.coe_lt_top z)

theorem lt_finite (s₁ : Bool) (u₁ : Nat) (s₂ : Bool) (u₂ : Nat) :
    lt (finite s₁ u₁) (finite s₂ u₂) = decide (signed s₁ u₁ < signed s₂ u₂) := by
  simp only [lt, compare?]
  by_cases zero : u₁ = 0 ∧ u₂ = 0
  · obtain ⟨rfl, rfl⟩ := zero
    cases s₁ <;> cases s₂ <;> simp [signed]
  · rw [if_neg zero, Bool.eq_iff_iff, beq_iff_eq, decide_eq_true_iff]
    cases s₁ <;> cases s₂
    all_goals simp only [signed, Bool.false_eq_true, if_false, if_true, Option.some.injEq, Nat.compare_eq_lt,
      reduceCtorEq, false_iff, true_iff]
    all_goals omega

theorem eq_finite (s₁ : Bool) (u₁ : Nat) (s₂ : Bool) (u₂ : Nat) :
    eq (finite s₁ u₁) (finite s₂ u₂) = decide (signed s₁ u₁ = signed s₂ u₂) := by
  simp only [eq, compare?]
  by_cases zero : u₁ = 0 ∧ u₂ = 0
  · obtain ⟨rfl, rfl⟩ := zero
    cases s₁ <;> cases s₂ <;> simp [signed]
  · rw [if_neg zero, Bool.eq_iff_iff, beq_iff_eq, decide_eq_true_iff]
    cases s₁ <;> cases s₂
    all_goals simp only [signed, Bool.false_eq_true, if_false, if_true, Option.some.injEq, Nat.compare_eq_eq,
      reduceCtorEq, false_iff]
    all_goals omega

theorem lt_iff_point_lt {x y : Binary64} (hx : x.isNaN = false) (hy : y.isNaN = false) :
    lt x y = true ↔ x.point < y.point := by
  cases x with
  | nan => cases hx
  | infinity s₁ =>
    cases y with
    | nan => cases hy
    | infinity s₂ => cases s₁ <;> cases s₂ <;> simp [lt, compare?, point]
    | finite s₂ u₂ => cases s₁ <;> simp [lt, compare?, point]
  | finite s₁ u₁ =>
    cases y with
    | nan => cases hy
    | infinity s₂ => cases s₂ <;> simp [lt, compare?, point]
    | finite s₂ u₂ => simp [lt_finite, point]

theorem eq_iff_point_eq {x y : Binary64} (hx : x.isNaN = false) (hy : y.isNaN = false) :
    eq x y = true ↔ x.point = y.point := by
  cases x with
  | nan => cases hx
  | infinity s₁ =>
    cases y with
    | nan => cases hy
    | infinity s₂ => cases s₁ <;> cases s₂ <;> simp [eq, compare?, point]
    | finite s₂ u₂ => cases s₁ <;> simp [eq, compare?, point]
  | finite s₁ u₁ =>
    cases y with
    | nan => cases hy
    | infinity s₂ => cases s₂ <;> simp [eq, compare?, point]
    | finite s₂ u₂ => simp [eq_finite, point]

theorem le_eq_lt_or_eq (x y : Binary64) : le x y = (lt x y || eq x y) := by
  unfold le lt eq
  cases compare? x y with
  | none => rfl
  | some o => cases o <;> rfl

theorem le_iff_point_le {x y : Binary64} (hx : x.isNaN = false) (hy : y.isNaN = false) :
    le x y = true ↔ x.point ≤ y.point := by
  rw [le_eq_lt_or_eq, Bool.or_eq_true, lt_iff_point_lt hx hy, eq_iff_point_eq hx hy]
  exact le_iff_lt_or_eq.symm

theorem le_eq_not_lt {x y : Binary64} (hx : x.isNaN = false) (hy : y.isNaN = false) :
    le x y = !lt y x := by
  rw [Bool.eq_iff_iff, le_iff_point_le hx hy, Bool.not_eq_true', ← Bool.not_eq_true,
    lt_iff_point_lt hy hx, not_lt]

/-! ### Signs of rounded sums -/

/-- A value that is a number with the sign of an integer: above zero exactly when the integer
is, and zero exactly when it is. -/
structure HasSign (v : Binary64) (z : ℤ) : Prop where
  number : v.isNaN = false
  above : lt (finite false 0) v = decide (0 < z)
  zero : eq v (finite false 0) = decide (z = 0)

theorem hasSign_finite (neg : Bool) (u : Nat) : HasSign (finite neg u) (signed neg u) :=
  ⟨rfl, by rw [lt_finite]; rfl, by rw [eq_finite]; rfl⟩

theorem roundUnits_zero : roundUnits 0 1 = some 0 := by
  simp [roundUnits]

theorem roundUnits_one_pos {a n : Nat} (pos : 0 < a) (round : roundUnits a 1 = some n) : 0 < n := by
  -- the rounded magnitude is a nonzero number of steps, each of them at most the magnitude
  have shift_le : a.log2 + 1 - 53 ≤ a.log2 := by omega
  have pow_le : 2 ^ (a.log2 + 1 - 53) ≤ a :=
    Nat.le_trans (Nat.pow_le_pow_right (by decide : 0 < 2) shift_le) (Nat.log2_self_le (by omega))
  have q_pos : 0 < a / 2 ^ (a.log2 + 1 - 53) := Nat.div_pos pow_le (Nat.two_pow_pos _)
  unfold roundUnits at round
  simp only [Nat.div_one, Nat.one_mul] at round
  split_ifs at round with up fits fits
  all_goals cases round
  all_goals exact Nat.mul_pos (by omega) (Nat.two_pow_pos _)

theorem hasSign_ofRatUnits (neg : Bool) (a : Nat) : HasSign (ofRatUnits neg a 1) (signed neg a) := by
  rcases Nat.eq_zero_or_pos a with rfl | pos
  · have zero : ofRatUnits neg 0 1 = finite neg 0 := by
      unfold ofRatUnits
      rw [roundUnits_zero]
    rw [zero]
    exact hasSign_finite neg 0
  · unfold ofRatUnits
    cases round : roundUnits a 1 with
    | some n =>
      have n_pos := roundUnits_one_pos pos round
      refine ⟨rfl, ?_, ?_⟩
      · rw [lt_finite]
        cases neg <;> simp [signed] <;> omega
      · rw [eq_finite]
        cases neg <;> simp [signed] <;> omega
    | none =>
      refine ⟨rfl, ?_, ?_⟩
      · cases neg <;> simp [lt, compare?, signed, pos]
      · cases neg <;> simp [eq, compare?, signed] <;> omega

theorem hasSign_addFinite (s₁ : Bool) (u₁ : Nat) (s₂ : Bool) (u₂ : Nat) :
    HasSign (addFinite s₁ u₁ s₂ u₂) (signed s₁ u₁ + signed s₂ u₂) := by
  unfold addFinite
  split_ifs with same equal smaller
  · subst same
    have exact : signed s₁ (u₁ + u₂) = signed s₁ u₁ + signed s₁ u₂ := by
      cases s₁ <;> simp [signed, add_comm]
    exact exact ▸ hasSign_ofRatUnits s₁ (u₁ + u₂)
  · subst equal
    have cancel : signed false 0 = signed s₁ u₁ + signed s₂ u₁ := by
      cases s₁ <;> cases s₂ <;> simp_all [signed]
    exact cancel ▸ hasSign_finite false 0
  · have exact : signed s₁ (u₁ - u₂) = signed s₁ u₁ + signed s₂ u₂ := by
      cases s₁ <;> cases s₂ <;> simp_all [signed] <;> omega
    exact exact ▸ hasSign_ofRatUnits s₁ (u₁ - u₂)
  · have exact : signed s₂ (u₂ - u₁) = signed s₁ u₁ + signed s₂ u₂ := by
      cases s₁ <;> cases s₂ <;> simp_all [signed] <;> omega
    exact exact ▸ hasSign_ofRatUnits s₂ (u₂ - u₁)

/-! ### Signs of differences -/

theorem finite_sub_finite (s₁ : Bool) (u₁ : Nat) (s₂ : Bool) (u₂ : Nat) :
    finite s₁ u₁ - finite s₂ u₂ = addFinite s₁ u₁ (!s₂) u₂ := rfl

theorem hasSign_sub_finite (s₁ : Bool) (u₁ : Nat) (s₂ : Bool) (u₂ : Nat) :
    HasSign (finite s₁ u₁ - finite s₂ u₂) (signed s₁ u₁ - signed s₂ u₂) := by
  have flip : signed s₁ u₁ + signed (!s₂) u₂ = signed s₁ u₁ - signed s₂ u₂ := by
    cases s₂ <;> simp [signed, sub_eq_add_neg]
  rw [finite_sub_finite, ← flip]
  exact hasSign_addFinite s₁ u₁ (!s₂) u₂

theorem lt_zero_sub {x y : Binary64} (hx : x.isNaN = false) (hy : y.isNaN = false) :
    lt (finite false 0) (x - y) = decide (y.point < x.point) := by
  cases x with
  | nan => cases hx
  | infinity s₁ =>
    cases y with
    | nan => cases hy
    | infinity s₂ => cases s₁ <;> cases s₂ <;> decide
    | finite s₂ u₂ => cases s₁ <;> simp [HSub.hSub, Sub.sub, sub, add, neg, lt, compare?, point]
  | finite s₁ u₁ =>
    cases y with
    | nan => cases hy
    | infinity s₂ => cases s₂ <;> simp [HSub.hSub, Sub.sub, sub, add, neg, lt, compare?, point]
    | finite s₂ u₂ =>
      rw [(hasSign_sub_finite s₁ u₁ s₂ u₂).above]
      simp [point]

theorem isNaN_or_eq_zero_sub {x y : Binary64} (hx : x.isNaN = false) (hy : y.isNaN = false) :
    ((x - y).isNaN || eq (x - y) (finite false 0)) = decide (x.point = y.point) := by
  cases x with
  | nan => cases hx
  | infinity s₁ =>
    cases y with
    | nan => cases hy
    | infinity s₂ => cases s₁ <;> cases s₂ <;> decide
    | finite s₂ u₂ => cases s₁ <;> simp [HSub.hSub, Sub.sub, sub, add, neg, eq, compare?, point, isNaN]
  | finite s₁ u₁ =>
    cases y with
    | nan => cases hy
    | infinity s₂ => cases s₂ <;> simp [HSub.hSub, Sub.sub, sub, add, neg, eq, compare?, point, isNaN]
    | finite s₂ u₂ =>
      have sign := hasSign_sub_finite s₁ u₁ s₂ u₂
      rw [sign.number, sign.zero]
      simp [point, sub_eq_zero]

end GuildRegistry.Binary64
