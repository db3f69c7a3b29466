import GuildRegistry.Number.Shortest
import GuildRegistry.Proofs.Number.Order

/-! Rounding keeps the order.

A magnitude rounds to the nearest multiple of the step of its binade, ties to the even multiple
(`roundUnits_one`). For one step, a larger magnitude never rounds to a lower multiple
(`roundTo_mono`); a magnitude rounds at least to the power of two that starts its binade and at most
to the one that ends it, so one of a higher binade never rounds lower either (`nearestUnits_mono`).
-/

set_option autoImplicit false

namespace GuildRegistry.Binary64

-- powers of naturals are computed by `Nat.pow`, as in the definitions of binary64
attribute [local instance (high)] instPowNat

/-! ### Rounding a magnitude -/

/-- The multiple of `d` nearest to `a`, a tie going to the even multiple. -/
def roundTo (d a : Nat) : Nat :=
  (if d < 2 * (a % d) ∨ (2 * (a % d) = d ∧ a / d % 2 = 1) then a / d + 1 else a / d) * d

/-- A magnitude rounded to 53 significant bits, with no bound on its size. -/
def nearestUnits (a : Nat) : Nat := roundTo (gapAbove a) a

theorem roundUnits_one (a : Nat) :
    roundUnits a 1 = if nearestUnits a ≤ maxUnits then some (nearestUnits a) else none := by
  simp only [roundUnits, nearestUnits, roundTo, gapAbove, Nat.div_one, Nat.one_mul]
  rfl

section RoundTo

variable {d : Nat}

theorem roundTo_eq (hd : 0 < d) (a : Nat) : ∃ m, roundTo d a = m * d ∧ a / d ≤ m ∧ m ≤ a / d + 1 ∧
    (a % d = 0 → m = a / d) := by
  refine ⟨if d < 2 * (a % d) ∨ (2 * (a % d) = d ∧ a / d % 2 = 1) then a / d + 1 else a / d, rfl, ?_, ?_, ?_⟩
  · split <;> omega
  · split <;> omega
  · intro exact
    have down : ¬ (d < 2 * (a % d) ∨ (2 * (a % d) = d ∧ a / d % 2 = 1)) := by omega
    rw [if_neg down]

theorem roundTo_le_of_dvd (hd : 0 < d) {a k : Nat} (above : a ≤ k * d) : roundTo d a ≤ k * d := by
  obtain ⟨m, round, -, up, exact⟩ := roundTo_eq hd a
  rw [round]
  apply Nat.mul_le_mul_right
  have whole := Nat.div_add_mod a d
  have quotient : a / d ≤ k := Nat.div_le_of_le_mul (by rw [Nat.mul_comm]; exact above)
  by_cases rest : a % d = 0
  · rw [exact rest]
    exact quotient
  · -- the magnitude lies past the quotient's multiple, so `k` is past the quotient
    have past : d * (a / d) < d * k := by rw [Nat.mul_comm d k]; omega
    have := Nat.lt_of_mul_lt_mul_left past
    omega

theorem le_roundTo_of_dvd (hd : 0 < d) {a k : Nat} (below : k * d ≤ a) : k * d ≤ roundTo d a := by
  obtain ⟨m, round, down, -, -⟩ := roundTo_eq hd a
  rw [round]
  apply Nat.mul_le_mul_right
  exact Nat.le_trans ((Nat.le_div_iff_mul_le hd).mpr below) down

theorem roundTo_mono (hd : 0 < d) {a a' : Nat} (le : a ≤ a') : roundTo d a ≤ roundTo d a' := by
  have quotients : a / d ≤ a' / d := Nat.div_le_div_right le
  rcases Nat.lt_or_eq_of_le quotients with higher | same
  · -- a higher quotient: the first rounds at most to the next multiple, the second at least to its own
    obtain ⟨m, round, -, up, -⟩ := roundTo_eq hd a
    obtain ⟨m', round', down', -, -⟩ := roundTo_eq hd a'
    rw [round, round']
    exact Nat.mul_le_mul_right _ (by omega)
  · -- the same quotient: the remainders keep the order, and so does the rounding up
    have whole := Nat.div_add_mod a d
    have whole' := Nat.div_add_mod a' d
    have rests : a % d ≤ a' % d := by rw [← same] at whole'; omega
    unfold roundTo
    rw [same]
    apply Nat.mul_le_mul_right
    split_ifs <;> omega

end RoundTo

theorem gapAbove_pos (a : Nat) : 0 < gapAbove a := Nat.two_pow_pos _

theorem gapAbove_dvd_pow {a k : Nat} (le : a.log2 ≤ k) : ∃ j, 2 ^ k = j * gapAbove a :=
  ⟨2 ^ (k - (a.log2 + 1 - 53)), by rw [gapAbove, ← Nat.pow_add]; congr 1; omega⟩

theorem nearestUnits_zero : nearestUnits 0 = 0 := by
  simp [nearestUnits, roundTo]

theorem pow_log2_le_nearestUnits {a : Nat} (pos : 0 < a) : 2 ^ a.log2 ≤ nearestUnits a := by
  obtain ⟨j, power⟩ := gapAbove_dvd_pow (a := a) le_rfl
  rw [power]
  exact le_roundTo_of_dvd (gapAbove_pos a) (power ▸ Nat.log2_self_le (by omega))

theorem nearestUnits_le_pow (a : Nat) : nearestUnits a ≤ 2 ^ (a.log2 + 1) := by
  obtain ⟨j, power⟩ := gapAbove_dvd_pow (a := a) (Nat.le_succ a.log2)
  rw [power]
  exact roundTo_le_of_dvd (gapAbove_pos a) (power ▸ Nat.lt_log2_self.le)

theorem nearestUnits_mono {a a' : Nat} (le : a ≤ a') : nearestUnits a ≤ nearestUnits a' := by
  rcases Nat.eq_zero_or_pos a with rfl | pos
  · rw [nearestUnits_zero]
    exact Nat.zero_le _
  · have binade : a.log2 ≤ a'.log2 := (Nat.le_log2 (by omega)).mpr ((Nat.log2_self_le (by omega)).trans le)
    rcases Nat.lt_or_eq_of_le binade with higher | same
    · calc nearestUnits a ≤ 2 ^ (a.log2 + 1) := nearestUnits_le_pow a
        _ ≤ 2 ^ a'.log2 := Nat.pow_le_pow_right (by decide) higher
        _ ≤ nearestUnits a' := pow_log2_le_nearestUnits (by omega)
    · -- one binade, one step
      unfold nearestUnits
      rw [gapAbove, gapAbove, same]
      exact roundTo_mono (Nat.two_pow_pos _) le

/-! ### Rounding a signed sum -/

/-- The point of a whole number of units rounded to binary64. -/
def roundedPoint (z : ℤ) : WithBot (WithTop ℤ) := point (ofRatUnits (decide (z < 0)) z.natAbs 1)

theorem ofRatUnits_zero (neg : Bool) : ofRatUnits neg 0 1 = finite neg 0 := by
  unfold ofRatUnits
  rw [roundUnits_zero]

theorem point_ofRatUnits_one (neg : Bool) (a : Nat) :
    point (ofRatUnits neg a 1) =
      if nearestUnits a ≤ maxUnits then ((signed neg (nearestUnits a) : WithTop ℤ) : WithBot (WithTop ℤ))
      else point (infinity neg) := by
  unfold ofRatUnits
  rw [roundUnits_one]
  by_cases fits : nearestUnits a ≤ maxUnits
  · rw [if_pos fits, if_pos fits]
    rfl
  · rw [if_neg fits, if_neg fits]

theorem roundedPoint_of_nonneg {z : ℤ} (h : 0 ≤ z) :
    roundedPoint z = if nearestUnits z.natAbs ≤ maxUnits
      then (((nearestUnits z.natAbs : ℤ) : WithTop ℤ) : WithBot (WithTop ℤ)) else ⊤ := by
  unfold roundedPoint
  rw [point_ofRatUnits_one, decide_eq_false (by omega)]
  rfl

theorem roundedPoint_of_neg {z : ℤ} (h : z < 0) :
    roundedPoint z = if nearestUnits z.natAbs ≤ maxUnits
      then (((-(nearestUnits z.natAbs : ℤ) : ℤ) : WithTop ℤ) : WithBot (WithTop ℤ)) else ⊥ := by
  unfold roundedPoint
  rw [point_ofRatUnits_one, decide_eq_true h]
  rfl

theorem roundedPoint_mono {z z' : ℤ} (le : z ≤ z') : roundedPoint z ≤ roundedPoint z' := by
  by_cases negative' : z' < 0
  · -- both below zero: the larger has the smaller magnitude
    have rounded := nearestUnits_mono (show z'.natAbs ≤ z.natAbs by omega)
    rw [roundedPoint_of_neg (lt_of_le_of_lt le negative'), roundedPoint_of_neg negative']
    split_ifs with fits fits'
    · exact WithBot.coe_le_coe.mpr (WithTop.coe_le_coe.mpr (by omega))
    · omega
    · exact bot_le
    · exact bot_le
  · by_cases negative : z < 0
    · -- a point at most zero below one at least zero
      rw [roundedPoint_of_neg negative, roundedPoint_of_nonneg (by omega)]
      split_ifs with fits fits'
      · exact WithBot.coe_le_coe.mpr (WithTop.coe_le_coe.mpr (by omega))
      · exact le_top
      · exact bot_le
      · exact bot_le
    · -- both at least zero: the larger has the larger magnitude
      have rounded := nearestUnits_mono (show z.natAbs ≤ z'.natAbs by omega)
      rw [roundedPoint_of_nonneg (by omega), roundedPoint_of_nonneg (by omega)]
      split_ifs with fits fits'
      · exact WithBot.coe_le_coe.mpr (WithTop.coe_le_coe.mpr (by omega))
      · exact le_top
      · omega
      · exact le_rfl

theorem point_ofRatUnits (neg : Bool) (a : Nat) : point (ofRatUnits neg a 1) = roundedPoint (signed neg a) := by
  rcases Nat.eq_zero_or_pos a with rfl | pos
  · -- both zeros stand for the same point
    unfold roundedPoint
    cases neg <;> simp [signed, ofRatUnits_zero, point]
  · unfold roundedPoint
    cases neg
    · have above : ¬ (a : ℤ) < 0 := by omega
      simp [signed, above]
    · simp [signed, pos]

theorem point_addFinite (s₁ : Bool) (u₁ : Nat) (s₂ : Bool) (u₂ : Nat) :
    point (addFinite s₁ u₁ s₂ u₂) = roundedPoint (signed s₁ u₁ + signed s₂ u₂) := by
  unfold addFinite
  split_ifs with same equal smaller
  · subst same
    rw [point_ofRatUnits]
    congr 1
    cases s₁ <;> simp [signed, add_comm]
  · subst equal
    have cancel : signed s₁ u₁ + signed s₂ u₁ = 0 := by
      cases s₁ <;> cases s₂ <;> simp_all [signed]
    rw [cancel]
    unfold roundedPoint
    simp [ofRatUnits_zero]
  -- opposite signs: the larger magnitude keeps its sign and loses the smaller one
  all_goals
    rw [point_ofRatUnits]
    congr 1
    cases s₁ <;> cases s₂ <;> simp_all [signed] <;> omega

/-! ### Sums and differences keep the order -/

section Sums

variable (s t : Bool) (u v : Nat)

@[simp] theorem nan_add (x : Binary64) : nan + x = nan := rfl

@[simp] theorem add_nan (x : Binary64) : x + nan = nan := by
  cases x <;> rfl

@[simp] theorem infinity_add_infinity : infinity s + infinity t = if s = t then infinity s else nan := rfl

@[simp] theorem infinity_add_finite : infinity s + finite t u = infinity s := rfl

@[simp] theorem finite_add_infinity : finite t u + infinity s = infinity s := rfl

@[simp] theorem finite_add_finite_eq : finite s u + finite t v = addFinite s u t v := rfl

theorem sub_def (x c : Binary64) : x - c = x + neg c := rfl

end Sums

theorem point_add_le_add {x y : Binary64} (c : Binary64) (hx : x.isNaN = false) (hy : y.isNaN = false)
    (le : Binary64.le x y = true) : point (x + c) ≤ point (y + c) := by
  have ordered := (le_iff_point_le hx hy).mp le
  cases c with
  | nan =>
    -- a sum with NaN is NaN
    simp [point]
  | infinity s =>
    cases s with
    | true =>
      -- a sum with the negative infinity is that infinity or NaN, both at the bottom
      cases x with
      | nan => cases hx
      | infinity t => cases t <;> simp [point]
      | finite t u => simp [point]
    | false =>
      cases y with
      | nan => cases hy
      | infinity t =>
        cases t with
        | false => simp [point]
        | true =>
          -- `y` is the negative infinity, so `x` is too
          cases x with
          | nan => cases hx
          | infinity t' => cases t' <;> simp_all [point]
          | finite t' u => simp [point] at ordered
      | finite t u => simp [point]
  | finite s u =>
    cases x with
    | nan => cases hx
    | infinity t =>
      cases t with
      | true => simp [point]
      | false =>
        -- `x` is the positive infinity, so `y` is too
        cases y with
        | nan => cases hy
        | infinity t' => cases t' <;> simp_all [point]
        | finite t' u' => simp [point] at ordered
    | finite t v =>
      cases y with
      | nan => cases hy
      | infinity t' => cases t' <;> simp_all [point]
      | finite t' v' =>
        rw [finite_add_finite_eq, finite_add_finite_eq, point_addFinite, point_addFinite]
        apply roundedPoint_mono
        have exact : signed t v ≤ signed t' v' := by simpa [point] using ordered
        omega

theorem point_sub_le_sub {x y : Binary64} (c : Binary64) (hx : x.isNaN = false) (hy : y.isNaN = false)
    (le : Binary64.le x y = true) : point (x - c) ≤ point (y - c) :=
  point_add_le_add (neg c) hx hy le

theorem infinity_lt (t : Binary64) : lt (infinity false) t = false := by
  cases t with
  | infinity s => cases s <;> rfl
  | _ => rfl

theorem isNaN_of_lt {x y : Binary64} (less : lt x y = true) : x.isNaN = false ∧ y.isNaN = false := by
  cases x <;> cases y <;> simp_all [lt, compare?, isNaN]

theorem isNaN_of_le {x y : Binary64} (le : Binary64.le x y = true) : x.isNaN = false ∧ y.isNaN = false := by
  cases x <;> cases y <;> simp_all [Binary64.le, compare?, isNaN]

/-- The start of the window ending at an earlier reading is a number when a value lies above
the start of the window ending at a later one: NaN comes only from opposite infinities, which
the later start would share or turn into the positive infinity. -/
theorem isNaN_sub_of_le {p now : Binary64} (earlier : Binary64.le p now = true) {interval t : Binary64}
    (inside : lt (now - interval) t = true) : (p - interval).isNaN = false := by
  obtain ⟨hp, hnow⟩ := isNaN_of_le earlier
  have hstart := (isNaN_of_lt inside).1
  cases interval with
  | nan => cases now <;> simp_all [sub_def, neg, isNaN]
  | infinity s =>
    cases p with
    | nan => cases hp
    | finite => cases s <;> rfl
    | infinity tp =>
      cases tp <;> cases s
      · -- `p` is the positive infinity, so `now` is too
        cases now with
        | nan => cases hnow
        | infinity tn => cases tn <;> simp_all [Binary64.le, compare?, sub_def, neg, lt, isNaN]
        | finite => simp [Binary64.le, compare?] at earlier
      · rfl
      · rfl
      · -- the interval is the negative infinity: the later start is the positive infinity
        cases now with
        | nan => cases hnow
        | infinity tn => cases tn <;> simp_all [sub_def, neg, infinity_lt, isNaN]
        | finite => simp_all [sub_def, neg, infinity_lt]
  | finite s u =>
    cases p with
    | nan => cases hp
    | infinity tp => rfl
    | finite tp up => exact (hasSign_sub_finite tp up s u).number

theorem lt_sub_of_le {p now : Binary64} (earlier : Binary64.le p now = true) (interval t : Binary64)
    (inside : lt (now - interval) t = true) : lt (p - interval) t = true := by
  obtain ⟨hp, hnow⟩ := isNaN_of_le earlier
  obtain ⟨hstart, ht⟩ := isNaN_of_lt inside
  rw [lt_iff_point_lt (isNaN_sub_of_le earlier inside) ht]
  exact lt_of_le_of_lt (point_sub_le_sub interval hp hnow earlier) ((lt_iff_point_lt hstart ht).mp inside)

end GuildRegistry.Binary64
