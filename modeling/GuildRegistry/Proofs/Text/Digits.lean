/-! Decimal digit characters.

The characters `0` … `9` and the numbers they spell: reading digits one at a time is
`Nat.ofDigitChars`, and digits without a leading zero are the decimal text of their value.
-/

set_option autoImplicit false

namespace GuildRegistry.Text

theorem toNat_of_isDigit {c : Char} (h : c.isDigit = true) : 48 ≤ c.toNat ∧ c.toNat ≤ 57 := by
  simp only [Char.isDigit, Bool.and_eq_true, decide_eq_true_eq, ge_iff_le, UInt32.le_iff_toNat_le] at h
  exact h

theorem foldl_digits (cs : List Char) (init : Nat) :
    cs.foldl (fun acc c => acc * 10 + (c.toNat - 48)) init = Nat.ofDigitChars 10 cs init := by
  rw [Nat.ofDigitChars_eq_foldl]
  congr 1
  funext acc c
  rw [Nat.mul_comm]
  rfl

theorem digitChar_of_isDigit {c : Char} (h : c.isDigit = true) : (c.toNat - 48).digitChar = c := by
  have range := toNat_of_isDigit h
  apply Char.ext
  apply UInt32.toNat_inj.mp
  show (c.toNat - 48).digitChar.toNat = c.toNat
  rw [Nat.toNat_digitChar_of_lt_ten (by omega)]
  omega

theorem toDigits_append_digits {acc : Nat} (pos : 0 < acc) {cs : List Char}
    (digits : ∀ c ∈ cs, c.isDigit = true) :
    Nat.toDigits 10 acc ++ cs = Nat.toDigits 10 (Nat.ofDigitChars 10 cs acc) := by
  induction cs generalizing acc with
  | nil => rw [List.append_nil, Nat.ofDigitChars_nil]
  | cons c cs ih =>
    have digit := digits c (by simp)
    have small : c.toNat - 48 < 10 := by have := toNat_of_isDigit digit; omega
    have step : Nat.toDigits 10 acc ++ [c] = Nat.toDigits 10 (10 * acc + (c.toNat - 48)) := by
      rw [← Nat.toDigits_append_toDigits (by decide) pos small, Nat.toDigits_of_lt_base small,
        digitChar_of_isDigit digit]
    rw [Nat.ofDigitChars_cons, show '0'.toNat = 48 from rfl,
      ← ih (by omega) (fun d h => digits d (by simp [h])), ← step, List.append_assoc]
    rfl

theorem toDigits_ofDigitChars {c : Char} {cs : List Char} (digits : ∀ d ∈ c :: cs, d.isDigit = true)
    (lead : c ≠ '0') : Nat.toDigits 10 (Nat.ofDigitChars 10 (c :: cs) 0) = c :: cs := by
  have digit := digits c (by simp)
  have range := toNat_of_isDigit digit
  have nonzero : c.toNat ≠ 48 := fun same => lead (Char.ext (UInt32.toNat_inj.mp same))
  have first : Nat.toDigits 10 (c.toNat - 48) = [c] := by
    rw [Nat.toDigits_of_lt_base (by omega), digitChar_of_isDigit digit]
  rw [Nat.ofDigitChars_cons, show '0'.toNat = 48 from rfl, Nat.mul_zero, Nat.zero_add,
    ← toDigits_append_digits (by omega) (fun d h => digits d (by simp [h])), first]
  rfl

end GuildRegistry.Text
