import GuildRegistry.Proofs.Number.Rounding

/-! The shortest decimal lies in the rounding interval.

A decimal is read as the fraction `num / den` of units. Each candidate that `candidate` offers
passes the interval test, seventeen digits always offer one, and dropping trailing zeros keeps the
value: so `shortestDecimal u` lies in the rounding interval of `u` (`shortestDecimal_inside`).
-/

set_option autoImplicit false

namespace GuildRegistry.Binary64

namespace Decimal

/-- The value of a decimal as a fraction of units: its numerator. -/
def num (d : Decimal) : Nat :=
  if 0 ≤ d.exponent then d.digits * 10 ^ d.exponent.toNat * unit else d.digits * unit

/-- The value of a decimal as a fraction of units: its denominator. -/
def den (d : Decimal) : Nat := if 0 ≤ d.exponent then 1 else 10 ^ (-d.exponent).toNat

theorem den_pos (d : Decimal) : 0 < d.den := by
  unfold den; split
  · exact Nat.one_pos
  · exact Nat.pow_pos (by decide)

end Decimal

theorem compareHalfUnits_eq (c : Nat) (e : Int) (h : Nat) :
    compareHalfUnits c e h = compare (2 * (Decimal.mk c e).num) (h * (Decimal.mk c e).den) := by
  unfold compareHalfUnits Decimal.num Decimal.den
  generalize unit = U
  split
  · rw [Nat.mul_one, show c * 10 ^ e.toNat * (2 * U) = 2 * (c * 10 ^ e.toNat * U) by ring]
  · rw [show c * (2 * U) = 2 * (c * U) by ring]

theorem inside_iff_test (u : Nat) (d : Decimal) :
    ((match compareHalfUnits d.digits d.exponent (2 * u - gapBelow u) with
      | .gt => true
      | .eq => (u / gapAbove u) % 2 == 0
      | .lt => false) &&
    (match compareHalfUnits d.digits d.exponent (2 * u + gapAbove u) with
      | .lt => true
      | .eq => (u / gapAbove u) % 2 == 0
      | .gt => false)) = true ↔ Inside u d.num d.den := by
  rw [compareHalfUnits_eq, compareHalfUnits_eq]
  unfold Inside EvenSignificand
  generalize 2 * d.num = x
  simp only [Bool.and_eq_true]
  constructor
  · rintro ⟨lower, upper⟩
    constructor
    · rcases Nat.lt_trichotomy x ((2 * u - gapBelow u) * d.den) with lt | eq | gt
      · simp [compare_lt_iff_lt.mpr lt] at lower
      · simp_all
      · simp_all [compare_gt_iff_gt.mpr gt]
    · rcases Nat.lt_trichotomy x ((2 * u + gapAbove u) * d.den) with lt | eq | gt
      · simp_all [compare_lt_iff_lt.mpr lt]
      · simp_all
      · simp [compare_gt_iff_gt.mpr gt] at upper
  · rintro ⟨lower, upper⟩
    constructor
    · rcases lower with lt | ⟨eq, even⟩
      · simp [compare_gt_iff_gt.mpr lt]
      · simp [compare_eq_iff_eq.mpr eq.symm, even]
    · rcases upper with lt | ⟨eq, even⟩
      · simp [compare_lt_iff_lt.mpr lt]
      · simp [compare_eq_iff_eq.mpr eq, even]

attribute [local irreducible] unit in
theorem inside_of_candidate {u n : Nat} {d : Decimal} (found : candidate u n = some d) :
    Inside u d.num d.den := by
  unfold candidate at found
  dsimp only at found
  generalize decimalExponent u - n + 1 = e at found
  generalize (if 0 ≤ e then u / (unit * 10 ^ e.toNat) else u * 10 ^ (-e).toNat / unit) = c at found
  split at found
  · -- both neighbours lie inside: the nearer one is taken, or the even one on a tie
    split at found <;> cases found
    · exact (inside_iff_test u _).mp ‹_›
    · exact (inside_iff_test u _).mp ‹_›
    · split
      · exact (inside_iff_test u _).mp ‹_›
      · exact (inside_iff_test u _).mp ‹_›
  · cases found; exact (inside_iff_test u _).mp ‹_›
  · cases found; exact (inside_iff_test u _).mp ‹_›
  · cases found

theorem gapBelow_le_gapAbove (u : Nat) : gapBelow u ≤ gapAbove u := by
  unfold gapBelow; split <;> omega

theorem digitCount_pos (n : Nat) : 0 < digitCount n := Nat.length_toDigits_pos

theorem pow_digitCount_le {n : Nat} (hn : 0 < n) : 10 ^ (digitCount n - 1) ≤ n := by
  unfold digitCount
  rcases Nat.eq_zero_or_pos ((Nat.toDigits 10 n).length - 1) with zero | pos
  · rw [zero]; exact hn
  · have := (Nat.length_toDigits_le_iff (b := 10) (n := n) (by decide) pos).not
    omega

theorem lt_pow_digitCount (n : Nat) : n < 10 ^ digitCount n :=
  (Nat.length_toDigits_le_iff (by decide) (digitCount_pos n)).mp (Nat.le_refl _)

theorem decimalExponent_spec {u : Nat} (hu : 0 < u) :
    (0 ≤ decimalExponent u → 10 ^ (decimalExponent u).toNat * unit ≤ u) ∧
    (decimalExponent u < 0 → unit ≤ u * 10 ^ (-decimalExponent u).toNat) := by
  unfold decimalExponent
  split
  · rename_i whole
    have unitPos : 0 < unit := Nat.two_pow_pos _
    have q : 0 < u / unit := Nat.div_pos whole unitPos
    have count := digitCount_pos (u / unit)
    refine ⟨fun _ => ?_, fun neg => by omega⟩
    rw [show ((digitCount (u / unit) : Int) - 1).toNat = digitCount (u / unit) - 1 by omega]
    calc 10 ^ (digitCount (u / unit) - 1) * unit ≤ u / unit * unit :=
          Nat.mul_le_mul_right _ (pow_digitCount_le q)
      _ ≤ u := Nat.div_mul_le_self u unit
  · rename_i fraction
    have count := digitCount_pos ((unit + u - 1) / u - 1)
    refine ⟨fun nonneg => by omega, fun _ => ?_⟩
    rw [show (-(-(digitCount ((unit + u - 1) / u - 1) : Int))).toNat =
      digitCount ((unit + u - 1) / u - 1) by omega]
    have below := lt_pow_digitCount ((unit + u - 1) / u - 1)
    have ceilPos : 1 ≤ (unit + u - 1) / u := (Nat.le_div_iff_mul_le hu).mpr (by omega)
    have ceil : unit ≤ u * ((unit + u - 1) / u) := by
      have := Nat.div_add_mod (unit + u - 1) u
      have := Nat.mod_lt (unit + u - 1) hu
      omega
    calc unit ≤ u * ((unit + u - 1) / u) := ceil
      _ ≤ u * 10 ^ digitCount ((unit + u - 1) / u - 1) := Nat.mul_le_mul_left _ (by omega)

theorem unit_pos : 0 < unit := by unfold unit; exact Nat.two_pow_pos _

theorem Decimal.num_mk (c : Nat) (e : Int) :
    (Decimal.mk c e).num = c * (Decimal.mk 1 e).num := by
  unfold Decimal.num; split <;> simp only [Nat.one_mul] <;> ring

theorem Decimal.den_mk (c : Nat) (e : Int) : (Decimal.mk c e).den = (Decimal.mk 1 e).den := rfl

theorem candidate_start_bounds (u : Nat) (e : Int) :
    let c := if 0 ≤ e then u / (unit * 10 ^ e.toNat) else u * 10 ^ (-e).toNat / unit
    c * (Decimal.mk 1 e).num ≤ u * (Decimal.mk 1 e).den ∧
      u * (Decimal.mk 1 e).den < (c + 1) * (Decimal.mk 1 e).num := by
  have floor : ∀ x p : Nat, 0 < p → x / p * p ≤ x ∧ x < (x / p + 1) * p := fun x p hp =>
    ⟨Nat.div_mul_le_self x p, by
      have whole := Nat.div_add_mod x p
      have rest := Nat.mod_lt x hp
      have step : (x / p + 1) * p = p * (x / p) + p := by ring
      omega⟩
  have tenPos : ∀ k, 0 < 10 ^ k := fun k => Nat.pow_pos (by decide)
  dsimp only
  unfold Decimal.num Decimal.den
  split
  · simp only [Nat.one_mul, Nat.mul_one]
    rw [Nat.mul_comm (10 ^ _) unit]
    exact floor u _ (Nat.mul_pos unit_pos (tenPos _))
  · simp only [Nat.one_mul]
    exact floor _ unit unit_pos

theorem candidate_isSome {u n : Nat} (hu : 0 < u)
    (fine : (Decimal.mk 1 (decimalExponent u - n + 1)).num <
      gapBelow u * (Decimal.mk 1 (decimalExponent u - n + 1)).den) :
    (candidate u n).isSome := by
  have below := gapBelow_le_gapAbove u
  have gapLe : gapBelow u ≤ u := by
    have : gapAbove u ≤ u := by
      rw [gapAbove_eq]
      exact Nat.le_trans (Nat.pow_le_pow_right (by decide) (by omega))
        (Nat.log2_self_le (Nat.pos_iff_ne_zero.mp hu))
    omega
  have abovePos : 0 < gapAbove u := Nat.two_pow_pos _
  unfold candidate
  dsimp only
  generalize decimalExponent u - n + 1 = e at fine ⊢
  have bounds := candidate_start_bounds u e
  dsimp only at bounds
  generalize (if 0 ≤ e then u / (unit * 10 ^ e.toNat) else u * 10 ^ (-e).toNat / unit) = c at bounds ⊢
  generalize hS : (Decimal.mk 1 e).num = S at fine bounds
  generalize hD : (Decimal.mk 1 e).den = D at fine bounds
  have lowEnd : (2 * u - gapBelow u) * D = 2 * (u * D) - gapBelow u * D := by
    rw [Nat.sub_mul, Nat.mul_assoc]
  have highEnd : (2 * u + gapAbove u) * D = 2 * (u * D) + gapAbove u * D := by ring
  have gapsOrdered : gapBelow u * D ≤ gapAbove u * D := Nat.mul_le_mul_right _ below
  have step : (c + 1) * S = c * S + S := Nat.succ_mul c S
  have either : Inside u (Decimal.mk c e).num (Decimal.mk c e).den ∨
      Inside u (Decimal.mk (c + 1) e).num (Decimal.mk (c + 1) e).den := by
    rw [Decimal.num_mk c e, Decimal.num_mk (c + 1) e, Decimal.den_mk c e, Decimal.den_mk (c + 1) e,
      hS, hD]
    have dPos : 0 < D := hD ▸ Decimal.den_pos _
    have gapPos : 0 < gapAbove u * D := Nat.mul_pos abovePos dPos
    have lowLe : gapBelow u * D ≤ u * D := Nat.mul_le_mul_right _ gapLe
    unfold Inside
    rw [lowEnd, highEnd, step]
    obtain ⟨atMost, above⟩ := bounds
    rw [step] at above
    generalize u * D = Y at *
    generalize c * S = X at *
    generalize gapBelow u * D = GB at *
    generalize gapAbove u * D = GA at *
    by_cases nearLow : 2 * (Y - X) ≤ S
    · left; constructor <;> left <;> omega
    · right; constructor <;> left <;> omega
  rw [← inside_iff_test, ← inside_iff_test] at either
  split
  · split <;> rfl
  · rfl
  · rfl
  · rename_i low high
    rcases either with inside | inside
    · cases inside.symm.trans low
    · cases inside.symm.trans high

theorem lt_gapBelow_mul (u : Nat) : u < gapBelow u * 10 ^ 16 := by
  have digits : (2 : Nat) ^ 53 < 10 ^ 16 := by decide
  by_cases start : 53 ≤ u.log2 ∧ u = 2 ^ u.log2
  · rw [gapBelow_of_power start]
    calc u = 2 ^ (u.log2 - 53) * 2 ^ 53 := by
          rw [← Nat.pow_add, Nat.sub_add_cancel start.1]; exact start.2
      _ < 2 ^ (u.log2 - 53) * 10 ^ 16 := Nat.mul_lt_mul_of_pos_left digits (Nat.two_pow_pos _)
  · rw [gapBelow_of_not_power start, gapAbove_eq]
    calc u < 2 ^ (u.log2 + 1) := Nat.lt_log2_self
      _ ≤ 2 ^ (u.log2 + 1 - 53) * 2 ^ 53 := by
          rw [← Nat.pow_add]; exact Nat.pow_le_pow_right (by decide) (by omega)
      _ < 2 ^ (u.log2 + 1 - 53) * 10 ^ 16 := Nat.mul_lt_mul_of_pos_left digits (Nat.two_pow_pos _)

theorem seventeen_digits_fine {u : Nat} (hu : 0 < u) :
    (Decimal.mk 1 (decimalExponent u - (17 : Nat) + 1)).num <
      gapBelow u * (Decimal.mk 1 (decimalExponent u - (17 : Nat) + 1)).den := by
  have spec := decimalExponent_spec hu
  have fine := lt_gapBelow_mul u
  have tenPos : ∀ k, 0 < 10 ^ k := fun k => Nat.pow_pos (by decide)
  unfold Decimal.num Decimal.den
  generalize hE : decimalExponent u = E at spec
  simp only [Nat.one_mul]
  split
  · rename_i nonneg
    -- `E ≥ 16`: cancel `10 ^ 16` from `10 ^ E * unit ≤ u < gapBelow u * 10 ^ 16`
    have whole := spec.1 (by omega)
    rw [show E.toNat = (E - (17 : Nat) + 1).toNat + 16 by omega, Nat.pow_add] at whole
    rw [Nat.mul_one]
    apply Nat.lt_of_mul_lt_mul_right (a := 10 ^ 16)
    calc 10 ^ (E - (17 : Nat) + 1).toNat * unit * 10 ^ 16
        = 10 ^ (E - (17 : Nat) + 1).toNat * 10 ^ 16 * unit := by ring
      _ ≤ u := whole
      _ < gapBelow u * 10 ^ 16 := fine
  · rename_i neg
    rcases le_or_gt 0 E with nonneg | negE
    · have whole := spec.1 nonneg
      rw [show (-(E - (17 : Nat) + 1)).toNat = 16 - E.toNat by omega]
      apply Nat.lt_of_mul_lt_mul_right (a := 10 ^ E.toNat)
      calc unit * 10 ^ E.toNat = 10 ^ E.toNat * unit := Nat.mul_comm _ _
        _ ≤ u := whole
        _ < gapBelow u * 10 ^ 16 := fine
        _ = gapBelow u * 10 ^ (16 - E.toNat) * 10 ^ E.toNat := by
          rw [Nat.mul_assoc, ← Nat.pow_add, Nat.sub_add_cancel (by omega)]
    · have whole := spec.2 negE
      rw [show (-(E - (17 : Nat) + 1)).toNat = 16 + (-E).toNat by omega, Nat.pow_add]
      calc unit ≤ u * 10 ^ (-E).toNat := whole
        _ < gapBelow u * 10 ^ 16 * 10 ^ (-E).toNat :=
          Nat.mul_lt_mul_of_pos_right fine (tenPos _)
        _ = gapBelow u * (10 ^ 16 * 10 ^ (-E).toNat) := Nat.mul_assoc _ _ _

theorem drop_zero_scale (q : Nat) (e : Int) :
    ∃ k, 0 < k ∧ (Decimal.mk q (e + 1)).num * k = (Decimal.mk (q * 10) e).num ∧
      (Decimal.mk q (e + 1)).den * k = (Decimal.mk (q * 10) e).den := by
  unfold Decimal.num Decimal.den
  dsimp only
  by_cases nonneg : 0 ≤ e
  · refine ⟨1, by decide, ?_, ?_⟩
    · rw [if_pos (by omega), if_pos nonneg, show (e + 1).toNat = e.toNat + 1 by omega, Nat.pow_succ]
      ring
    · rw [if_pos (by omega), if_pos nonneg]
  · refine ⟨10, by decide, ?_, ?_⟩
    · rw [if_neg nonneg]
      split
      · rw [show (e + 1).toNat = 0 by omega]; ring
      · ring
    · rw [if_neg nonneg]
      split
      · rw [show (-e).toNat = 1 by omega]; rfl
      · rw [show (-e).toNat = (-(e + 1)).toNat + 1 by omega, Nat.pow_succ]

theorem inside_drop_zero {u c : Nat} {e : Int} (tens : c % 10 = 0) :
    Inside u (Decimal.mk (c / 10) (e + 1)).num (Decimal.mk (c / 10) (e + 1)).den ↔
      Inside u (Decimal.mk c e).num (Decimal.mk c e).den := by
  have split : c = c / 10 * 10 := (Nat.div_mul_cancel (Nat.dvd_of_mod_eq_zero tens)).symm
  obtain ⟨k, hk, num, den⟩ := drop_zero_scale (c / 10) e
  rw [← inside_scale k hk, num, den, ← split]

theorem inside_normalize {u : Nat} (d : Decimal) (inside : Inside u d.num d.den) :
    Inside u d.normalize.num d.normalize.den := by
  unfold Decimal.normalize
  generalize digitCount d.digits = fuel
  induction fuel generalizing d with
  | zero => exact inside
  | succ fuel ih =>
    rw [Decimal.normalize.go]
    split
    · rename_i tens
      exact ih _ ((inside_drop_zero (e := d.exponent) tens.2).mpr inside)
    · exact inside

theorem shortestDecimal_inside {u : Nat} (hu : 0 < u) :
    Inside u (shortestDecimal u).num (shortestDecimal u).den := by
  unfold shortestDecimal
  dsimp only
  have hit : (candidate u 17).isSome := candidate_isSome hu (seventeen_digits_fine hu)
  cases found : (List.range 17).findSome? (fun i => candidate u (i + 1)) with
  | none =>
    rw [List.findSome?_eq_none_iff] at found
    have := found 16 (by simp)
    simp [this] at hit
  | some d =>
    obtain ⟨i, -, offered⟩ := List.exists_of_findSome?_eq_some found
    exact inside_normalize d (inside_of_candidate offered)

end GuildRegistry.Binary64
