import GuildRegistry.Number.Shortest
import Mathlib.Tactic.Ring

/-! The rounding interval of a binary64 magnitude.

A positive magnitude `u` on the binary64 grid owns the reals within half the gap to each neighbour;
an end belongs to it exactly when the significand of `u` is even. The main statement,
`roundUnits_of_inside`, says that rounding any fraction of that interval gives `u` back: this is
what makes a printed decimal read back as the number it was printed from.
-/

set_option autoImplicit false

namespace GuildRegistry.Binary64

/-- A magnitude on the binary64 grid: a whole number of the gaps above it. -/
def OnGrid (u : Nat) : Prop := u % gapAbove u = 0

/-- The significand of a magnitude is even. -/
def EvenSignificand (u : Nat) : Prop := u / gapAbove u % 2 = 0

/-- `a / b` units lies in the rounding interval of `u`: within half the gap below and
half the gap above, an end counting only when the significand of `u` is even. Both sides are
in half units, as `candidate` compares them. -/
def Inside (u a b : Nat) : Prop :=
  ((2 * u - gapBelow u) * b < 2 * a ∨ ((2 * u - gapBelow u) * b = 2 * a ∧ EvenSignificand u)) ∧
  (2 * a < (2 * u + gapAbove u) * b ∨ (2 * a = (2 * u + gapAbove u) * b ∧ EvenSignificand u))

theorem gapAbove_eq (u : Nat) : gapAbove u = 2 ^ (u.log2 + 1 - 53) := rfl

theorem gapBelow_of_power {u : Nat} (start : 53 ≤ u.log2 ∧ u = 2 ^ u.log2) :
    gapBelow u = 2 ^ (u.log2 - 53) := by
  rw [gapBelow, if_pos start, gapAbove_eq, show u.log2 + 1 - 53 = u.log2 - 53 + 1 by omega,
    Nat.pow_succ, Nat.mul_div_cancel _ (by decide)]

theorem gapBelow_of_not_power {u : Nat} (inner : ¬(53 ≤ u.log2 ∧ u = 2 ^ u.log2)) :
    gapBelow u = gapAbove u := by
  rw [gapBelow, if_neg inner]

theorem add_gap_le_of_onGrid {u : Nat} (grid : OnGrid u) :
    u + gapAbove u ≤ 2 ^ (u.log2 + 1) := by
  have top := Nat.lt_log2_self (n := u)
  have split : 2 ^ (u.log2 + 1) = gapAbove u * 2 ^ (u.log2 + 1 - (u.log2 + 1 - 53)) := by
    rw [gapAbove_eq, ← Nat.pow_add]; congr 1; omega
  have whole := Nat.div_add_mod u (gapAbove u)
  rw [grid] at whole
  rw [split] at top ⊢
  generalize gapAbove u = g at *
  generalize 2 ^ (u.log2 + 1 - (u.log2 + 1 - 53)) = p at *
  obtain ⟨k, hk⟩ : ∃ k, u = g * k := ⟨u / g, by omega⟩
  rw [hk] at top ⊢
  have := Nat.lt_of_mul_lt_mul_left top
  calc g * k + g = g * (k + 1) := by ring
    _ ≤ g * p := Nat.mul_le_mul_left _ this

theorem power_add_gap_le_of_onGrid {u : Nat} (hu : 0 < u) (grid : OnGrid u)
    (past : u ≠ 2 ^ u.log2) : 2 ^ u.log2 + gapAbove u ≤ u := by
  have strict : 2 ^ u.log2 < u :=
    Nat.lt_of_le_of_ne (Nat.log2_self_le (Nat.pos_iff_ne_zero.mp hu)) (Ne.symm past)
  have split : 2 ^ u.log2 = gapAbove u * 2 ^ (u.log2 - (u.log2 + 1 - 53)) := by
    rw [gapAbove_eq, ← Nat.pow_add]; congr 1; omega
  have whole := Nat.div_add_mod u (gapAbove u)
  rw [grid] at whole
  rw [split] at strict ⊢
  generalize gapAbove u = g at *
  generalize 2 ^ (u.log2 - (u.log2 + 1 - 53)) = p at *
  obtain ⟨k, hk⟩ : ∃ k, u = g * k := ⟨u / g, by omega⟩
  rw [hk] at strict ⊢
  have := Nat.lt_of_mul_lt_mul_left strict
  calc g * p + g = g * (p + 1) := by ring
    _ ≤ g * k := Nat.mul_le_mul_left _ this

theorem roundHalfEven_eq {a d k : Nat} (hd : 0 < d)
    (lower : (2 * k - 1) * d < 2 * a ∨ ((2 * k - 1) * d = 2 * a ∧ k % 2 = 0))
    (upper : 2 * a < (2 * k + 1) * d ∨ (2 * a = (2 * k + 1) * d ∧ k % 2 = 0)) :
    (if d < 2 * (a % d) ∨ (2 * (a % d) = d ∧ a / d % 2 = 1) then a / d + 1 else a / d) = k := by
  have split := Nat.div_add_mod a d
  have rest := Nat.mod_lt a hd
  have below : a / d < k + 1 := by
    rw [Nat.div_lt_iff_lt_mul hd]
    have : (2 * k + 1) * d + d = 2 * ((k + 1) * d) := by ring
    omega
  rcases Nat.lt_or_ge (a / d + 1) k with far | near
  · -- a quotient two below `k` would put `a` at least a whole `d` under `k * d`
    have : (a / d + 1) * d + d ≤ k * d := by
      have := Nat.mul_le_mul_right d far
      rw [Nat.succ_mul] at this; omega
    have : (2 * k - 1) * d + d = 2 * (k * d) := by
      rcases Nat.eq_zero_or_pos k with rfl | hk
      · omega
      · have : 2 * k - 1 + 1 = 2 * k := by omega
        rw [← Nat.succ_mul, Nat.succ_eq_add_one, this, Nat.mul_assoc]
    have : d * (a / d) + d = (a / d + 1) * d := by ring
    omega
  · rcases Nat.lt_or_ge (a / d) k with one | same
    · have hq : a / d + 1 = k := by omega
      subst hq
      have : (2 * (a / d + 1) - 1) * d = 2 * (d * (a / d)) + d := by
        rw [show 2 * (a / d + 1) - 1 = 2 * (a / d) + 1 by omega]; ring
      rcases lower with lower | ⟨lower, even⟩ <;> split <;> omega
    · have hq : a / d = k := by omega
      rw [hq] at split ⊢
      have : (2 * k + 1) * d = 2 * (d * k) + d := by ring
      rcases upper with upper | ⟨upper, even⟩ <;> split <;> omega


theorem roundShift_of_inside {u a b : Nat} (hu : 0 < u) (grid : OnGrid u) (hb : 0 < b)
    (inside : Inside u a b) :
    (a / b).log2 + 1 - 53 = u.log2 + 1 - 53 ∨
      ((a / b).log2 + 1 - 53 + 1 = u.log2 + 1 - 53 ∧ u = 2 ^ u.log2 ∧ a < u * b) := by
  have unitPos : 0 < u.log2 + 1 - 53 ∨ u.log2 + 1 - 53 = 0 := by omega
  have top := add_gap_le_of_onGrid grid
  have gapPos : 0 < gapAbove u := Nat.two_pow_pos _
  -- the quotient stays below the next power of two
  have below : (a / b).log2 ≤ u.log2 := by
    rcases Nat.eq_zero_or_pos (a / b) with zero | pos
    · rw [zero]; simp
    · have lt : a / b < 2 ^ (u.log2 + 1) := by
        rw [Nat.div_lt_iff_lt_mul hb]
        have : 2 * a < 2 * (2 ^ (u.log2 + 1) * b) := by
          have : (2 * u + gapAbove u) * b < 2 * 2 ^ (u.log2 + 1) * b :=
            Nat.mul_lt_mul_of_pos_right (by omega) hb
          rcases inside.2 with upper | ⟨upper, _⟩ <;> rw [Nat.mul_assoc] at this <;> omega
        omega
      exact Nat.le_of_lt_succ ((Nat.log2_lt (Nat.pos_iff_ne_zero.mp pos)).mpr lt)
  by_cases same : u ≠ 2 ^ u.log2 ∨ u * b ≤ a
  · left
    have above : u.log2 ≤ (a / b).log2 := by
      have atLeast : 2 ^ u.log2 ≤ a / b := by
        rw [Nat.le_div_iff_mul_le hb]
        rcases same with past | reached
        · have step := power_add_gap_le_of_onGrid hu grid past
          have gb : gapBelow u = gapAbove u := gapBelow_of_not_power (fun h => past h.2)
          have : 2 * 2 ^ u.log2 * b ≤ (2 * u - gapBelow u) * b :=
            Nat.mul_le_mul_right _ (by omega)
          rcases inside.1 with lower | ⟨lower, _⟩ <;> rw [Nat.mul_assoc] at this <;> omega
        · exact Nat.le_trans (Nat.mul_le_mul_right _ (Nat.log2_self_le (by omega))) reached
      exact (Nat.le_log2 (by omega)).mpr atLeast
    omega
  · simp only [ne_eq, not_or, not_not, not_le] at same
    obtain ⟨start, under⟩ := same
    rcases Nat.lt_or_ge u.log2 53 with small | large
    · left; omega
    right
    refine ⟨?_, start, under⟩
    -- `u` starts a binade of normal numbers, and `a / b` lies in the binade below
    have gb := gapBelow_of_power ⟨large, start⟩
    have lowerHalf : 2 ^ (u.log2 - 1) * b ≤ a := by
      have split : 2 ^ u.log2 = 2 * 2 ^ (u.log2 - 1) := by
        rw [← Nat.pow_succ']; congr 1; omega
      have small : 2 ^ (u.log2 - 53) ≤ 2 ^ (u.log2 - 1) :=
        Nat.pow_le_pow_right (by decide) (by omega)
      have : 2 * 2 ^ (u.log2 - 1) * b ≤ (2 * u - gapBelow u) * b :=
        Nat.mul_le_mul_right _ (by omega)
      rcases inside.1 with lower | ⟨lower, _⟩ <;> rw [Nat.mul_assoc] at this <;> omega
    have atLeast : 2 ^ (u.log2 - 1) ≤ a / b := (Nat.le_div_iff_mul_le hb).mpr lowerHalf
    have quotient : (a / b).log2 = u.log2 - 1 := by
      rw [Nat.log2_eq_iff (by have := Nat.two_pow_pos (u.log2 - 1); omega)]
      refine ⟨atLeast, ?_⟩
      rw [Nat.div_lt_iff_lt_mul hb, show u.log2 - 1 + 1 = u.log2 by omega, ← start]
      exact under
    omega

theorem roundUnits_of_inside {u a b : Nat} (hu : 0 < u) (grid : OnGrid u) (bound : u ≤ maxUnits)
    (hb : 0 < b) (inside : Inside u a b) : roundUnits a b = some u := by
  have divides : 2 ^ (u.log2 + 1 - 53) ∣ u := Nat.dvd_of_mod_eq_zero grid
  have shift := roundShift_of_inside hu grid hb inside
  unfold roundUnits
  dsimp only
  generalize (a / b).log2 + 1 - 53 = t at shift ⊢
  obtain ⟨k, hk⟩ : 2 ^ t ∣ u := by
    rcases shift with same | ⟨step, -, -⟩
    · rw [same]; exact divides
    · exact Nat.dvd_trans (Nat.pow_dvd_pow 2 (by omega)) divides
  have unitPos : 0 < 2 ^ t := Nat.two_pow_pos t
  have quotient : u / 2 ^ t = k := by rw [hk, Nat.mul_div_cancel_left _ unitPos]
  have kPos : 0 < k := by rcases Nat.eq_zero_or_pos k with rfl | h <;> simp_all
  have rounded : (if b * 2 ^ t < 2 * (a % (b * 2 ^ t)) ∨
      (2 * (a % (b * 2 ^ t)) = b * 2 ^ t ∧ a / (b * 2 ^ t) % 2 = 1)
      then a / (b * 2 ^ t) + 1 else a / (b * 2 ^ t)) = k := by
    have lowEnd : (2 * k - 1) * (b * 2 ^ t) = (2 * u - 2 ^ t) * b := by
      rw [hk, show 2 * (2 ^ t * k) - 2 ^ t = 2 ^ t * (2 * k - 1) by
        rw [Nat.mul_sub, Nat.mul_one]; ring_nf]
      ring
    have highEnd : (2 * k + 1) * (b * 2 ^ t) = (2 * u + 2 ^ t) * b := by rw [hk]; ring
    apply roundHalfEven_eq (Nat.mul_pos hb unitPos)
    · rcases shift with same | ⟨step, start, under⟩
      · -- the gap below is the unit, or half of it where `u` starts its binade
        have even : EvenSignificand u → k % 2 = 0 := by
          intro h; rwa [EvenSignificand, gapAbove_eq, ← same, quotient] at h
        have gapBelowLe : gapBelow u ≤ 2 ^ t := by
          rw [same, ← gapAbove_eq, gapBelow]
          split <;> omega
        have unitLe : 2 ^ t ≤ u := by rw [hk]; exact Nat.le_mul_of_pos_right _ kPos
        rw [lowEnd]
        rcases Nat.lt_or_ge (gapBelow u) (2 ^ t) with half | full
        · have : (2 * u - 2 ^ t) * b < (2 * u - gapBelow u) * b :=
            Nat.mul_lt_mul_of_pos_right (by omega) hb
          rcases inside.1 with lower | ⟨lower, _⟩ <;> left <;> omega
        · have : gapBelow u = 2 ^ t := by omega
          rw [← this]
          rcases inside.1 with lower | ⟨lower, h⟩
          · exact Or.inl lower
          · exact Or.inr ⟨lower, even h⟩
      · -- `u` starts a binade of normal numbers: the gap below is the unit
        have large : 53 ≤ u.log2 := by omega
        have gb := gapBelow_of_power ⟨large, start⟩
        rw [show u.log2 - 53 = t by omega] at gb
        have even : k % 2 = 0 := by
          have twice : 2 ^ (t + 1) ∣ u := by rw [step]; exact divides
          rw [hk, Nat.pow_succ, Nat.mul_comm (2 ^ t) 2] at twice
          obtain ⟨j, hj⟩ := twice
          have : k = 2 * j := by
            apply Nat.eq_of_mul_eq_mul_left unitPos
            rw [hj]; ring
          omega
        rw [lowEnd, ← gb]
        rcases inside.1 with lower | ⟨lower, _⟩
        · exact Or.inl lower
        · exact Or.inr ⟨lower, even⟩
    · rw [highEnd]
      rcases shift with same | ⟨step, start, under⟩
      · have even : EvenSignificand u → k % 2 = 0 := by
          intro h; rwa [EvenSignificand, gapAbove_eq, ← same, quotient] at h
        rw [same, ← gapAbove_eq]
        rcases inside.2 with upper | ⟨upper, h⟩
        · exact Or.inl upper
        · exact Or.inr ⟨upper, even h⟩
      · left
        have : 2 * u * b < (2 * u + 2 ^ t) * b := Nat.mul_lt_mul_of_pos_right (by omega) hb
        have : 2 * a < 2 * u * b := by rw [Nat.mul_assoc]; omega
        omega
  rw [rounded, Nat.mul_comm, ← hk, if_pos bound]

theorem inside_scale {u a b : Nat} (k : Nat) (hk : 0 < k) : Inside u (a * k) (b * k) ↔ Inside u a b := by
  unfold Inside
  have lt : ∀ x : Nat, x * (b * k) < 2 * (a * k) ↔ x * b < 2 * a := fun x => by
    rw [← Nat.mul_assoc, ← Nat.mul_assoc]; exact Nat.mul_lt_mul_right hk
  have gt : ∀ x : Nat, 2 * (a * k) < x * (b * k) ↔ 2 * a < x * b := fun x => by
    rw [← Nat.mul_assoc, ← Nat.mul_assoc]; exact Nat.mul_lt_mul_right hk
  have eq : ∀ x : Nat, x * (b * k) = 2 * (a * k) ↔ x * b = 2 * a := fun x => by
    rw [← Nat.mul_assoc, ← Nat.mul_assoc]; exact Nat.mul_right_cancel_iff hk
  have eq' : ∀ x : Nat, 2 * (a * k) = x * (b * k) ↔ 2 * a = x * b := fun x => by
    rw [← Nat.mul_assoc, ← Nat.mul_assoc]; exact Nat.mul_right_cancel_iff hk
  rw [lt, gt, eq, eq']

theorem onGrid_mul_pow {m : Nat} (s : Nat) (hm : m ≤ 2 ^ 53) : OnGrid (m * 2 ^ s) := by
  unfold OnGrid
  rw [gapAbove_eq]
  rcases Nat.eq_zero_or_pos m with zero | pos
  · simp [zero]
  apply Nat.mod_eq_zero_of_dvd
  have nonzero : m * 2 ^ s ≠ 0 := Nat.mul_ne_zero (by omega) (Nat.two_pow_pos s).ne'
  rcases Nat.lt_or_eq_of_le hm with below | top
  · -- below the next binade the gap is at most `2^s`
    have small : (m * 2 ^ s).log2 < 53 + s := by
      rw [Nat.log2_lt nonzero, Nat.pow_add]
      exact Nat.mul_lt_mul_of_pos_right below (Nat.two_pow_pos s)
    exact Nat.dvd_trans (Nat.pow_dvd_pow 2 (by omega)) (Nat.dvd_mul_left _ _)
  · rw [top, ← Nat.pow_add, Nat.log2_two_pow]
    exact Nat.pow_dvd_pow 2 (by omega)

theorem div_shift_lt (a b : Nat) : a / (b * 2 ^ ((a / b).log2 + 1 - 53)) < 2 ^ 53 := by
  rw [← Nat.div_div_eq_div_mul]
  have top := Nat.lt_log2_self (n := a / b)
  by_cases wide : 53 ≤ (a / b).log2 + 1
  · rw [Nat.div_lt_iff_lt_mul (Nat.two_pow_pos _), ← Nat.pow_add]
    calc a / b < 2 ^ ((a / b).log2 + 1) := top
      _ = 2 ^ (53 + ((a / b).log2 + 1 - 53)) := by congr 1; omega
  · rw [show (a / b).log2 + 1 - 53 = 0 by omega, Nat.pow_zero, Nat.div_one]
    exact Nat.lt_of_lt_of_le top (Nat.pow_le_pow_right (by decide) (by omega))

theorem roundUnits_onGrid {a b n : Nat} (h : roundUnits a b = some n) : OnGrid n ∧ n ≤ maxUnits := by
  have bound := div_shift_lt a b
  unfold roundUnits at h
  generalize (a / b).log2 + 1 - 53 = s at h bound
  have finish : ∀ m, m ≤ 2 ^ 53 → (if m * 2 ^ s ≤ maxUnits then some (m * 2 ^ s) else none) = some n →
      OnGrid n ∧ n ≤ maxUnits := by
    intro m hm h
    split at h
    · injection h with h
      subst h
      exact ⟨onGrid_mul_pow s hm, ‹_›⟩
    · contradiction
  simp only at h
  split at h
  · exact finish _ (by omega) h
  · exact finish _ (by omega) h

end GuildRegistry.Binary64
