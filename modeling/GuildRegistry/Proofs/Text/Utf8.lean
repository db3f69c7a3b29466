import GuildRegistry.Proofs.Text.Ascii

/-! Reading back UTF-8.

The encoder writes a character in one byte below U+0080, two below U+0800, three below U+10000 and
four beyond; the leading byte it writes allows, by `leadInfo`, exactly the continuation bytes it
writes after it.
-/

set_option autoImplicit false

namespace GuildRegistry.Utf8

theorem continues_iff {lo hi b : UInt8} :
    continues lo hi b = true ↔ lo.toNat ≤ b.toNat ∧ b.toNat ≤ hi.toNat := by
  simp [continues, UInt8.le_iff_toNat_le]

/-! ### One character -/

section Sequences

variable {b₀ b₁ b₂ b₃ lo hi : UInt8} (rest : List UInt8)

theorem readChar_ascii (small : b₀.toNat < 0x80) :
    readChar (b₀ :: rest) = some (Char.ofNat b₀.toNat, rest, true) := by
  have ascii : b₀ < 0x80 := by simp only [UInt8.lt_iff_toNat_lt, UInt8.toNat_ofNat]; omega
  simp only [readChar, if_pos ascii]

theorem readChar_two (lead : 0x80 ≤ b₀.toNat) (info : leadInfo b₀ = (lo, hi, 1))
    (second : continues lo hi b₁ = true) :
    readChar (b₀ :: b₁ :: rest) = some (Char.ofNat (b₀.toNat % 32 * 64 + b₁.toNat % 64), rest, true) := by
  have ascii : ¬ b₀ < 0x80 := by simp only [UInt8.lt_iff_toNat_lt, UInt8.toNat_ofNat]; omega
  simp only [readChar, if_neg ascii, info, second]
  rfl

theorem readChar_three (lead : 0x80 ≤ b₀.toNat) (info : leadInfo b₀ = (lo, hi, 2))
    (second : continues lo hi b₁ = true) (third : continues 0x80 0xBF b₂ = true) :
    readChar (b₀ :: b₁ :: b₂ :: rest) =
      some (Char.ofNat ((b₀.toNat % 16 * 64 + b₁.toNat % 64) * 64 + b₂.toNat % 64), rest, true) := by
  have ascii : ¬ b₀ < 0x80 := by simp only [UInt8.lt_iff_toNat_lt, UInt8.toNat_ofNat]; omega
  simp only [readChar, if_neg ascii, info, second, third]
  rfl

theorem readChar_four (lead : 0x80 ≤ b₀.toNat) (info : leadInfo b₀ = (lo, hi, 3))
    (second : continues lo hi b₁ = true) (third : continues 0x80 0xBF b₂ = true)
    (fourth : continues 0x80 0xBF b₃ = true) :
    readChar (b₀ :: b₁ :: b₂ :: b₃ :: rest) =
      some (Char.ofNat (((b₀.toNat % 8 * 64 + b₁.toNat % 64) * 64 + b₂.toNat % 64) * 64 + b₃.toNat % 64),
        rest, true) := by
  have ascii : ¬ b₀ < 0x80 := by simp only [UInt8.lt_iff_toNat_lt, UInt8.toNat_ofNat]; omega
  simp only [readChar, if_neg ascii, info, second, third, fourth]
  rfl

end Sequences

theorem leadInfo_two : ∀ n < 32, 2 ≤ n → leadInfo (UInt8.ofNat (0xC0 + n)) = (0x80, 0xBF, 1) := by
  decide

theorem leadInfo_three : ∀ n < 16, leadInfo (UInt8.ofNat (0xE0 + n)) =
    (if n = 0 then 0xA0 else 0x80, if n = 13 then 0x9F else 0xBF, 2) := by
  decide

theorem leadInfo_four : ∀ n < 5, leadInfo (UInt8.ofNat (0xF0 + n)) =
    (if n = 0 then 0x90 else 0x80, if n = 4 then 0x8F else 0xBF, 3) := by
  decide

theorem toNat_ofNat_of_lt {n : Nat} (small : n < 256) : (UInt8.ofNat n).toNat = n := by
  rw [UInt8.toNat_ofNat', Nat.mod_eq_of_lt small]

theorem toNat_val (c : Char) : c.val.toNat = c.toNat := rfl

theorem readChar_utf8EncodeChar (c : Char) (rest : List UInt8) :
    readChar (String.utf8EncodeChar c ++ rest) = some (c, rest, true) := by
  have valid : c.toNat < 0xD800 ∨ (0xDFFF < c.toNat ∧ c.toNat < 0x110000) := c.valid
  have back : Char.ofNat c.toNat = c := Char.ofNat_toNat c
  unfold String.utf8EncodeChar
  simp only [toNat_val]
  -- each length of sequence: its leading byte, what that byte allows, and the value read
  by_cases one : c.toNat ≤ 0x7f
  · rw [if_pos one, List.cons_append, List.nil_append,
      readChar_ascii rest (by rw [toNat_ofNat_of_lt (by omega)]; omega), toNat_ofNat_of_lt (by omega), back]
  rw [if_neg one]
  by_cases two : c.toNat ≤ 0x7ff
  · rw [if_pos two, List.cons_append, List.cons_append, List.nil_append]
    have lead : c.toNat / 64 % 32 + 0xc0 = 0xC0 + c.toNat / 64 := by omega
    have b₀ := toNat_ofNat_of_lt (show 0xC0 + c.toNat / 64 < 256 by omega)
    have b₁ := toNat_ofNat_of_lt (show c.toNat % 64 + 0x80 < 256 by omega)
    rw [lead, readChar_two rest (by omega) (leadInfo_two (c.toNat / 64) (by omega) (by omega))
      (by rw [continues_iff, b₁]; simp only [UInt8.toNat_ofNat]; omega), b₀, b₁]
    rw [show (0xC0 + c.toNat / 64) % 32 * 64 + (c.toNat % 64 + 0x80) % 64 = c.toNat by omega, back]
  rw [if_neg two]
  have b₂ := toNat_ofNat_of_lt (show c.toNat % 64 + 0x80 < 256 by omega)
  have tail : continues 0x80 0xBF (UInt8.ofNat (c.toNat % 64 + 0x80)) = true := by
    rw [continues_iff, b₂]; simp only [UInt8.toNat_ofNat]; omega
  by_cases three : c.toNat ≤ 0xffff
  · rw [if_pos three, List.cons_append, List.cons_append, List.cons_append, List.nil_append]
    have lead : c.toNat / 4096 % 16 + 0xe0 = 0xE0 + c.toNat / 4096 := by omega
    have b₀ := toNat_ofNat_of_lt (show 0xE0 + c.toNat / 4096 < 256 by omega)
    have b₁ := toNat_ofNat_of_lt (show c.toNat / 64 % 64 + 0x80 < 256 by omega)
    -- below U+1000 the second byte is at least 0xA0, and from U+D000 on at most 0x9F
    have second : continues (if c.toNat / 4096 = 0 then 0xA0 else 0x80)
        (if c.toNat / 4096 = 13 then 0x9F else 0xBF) (UInt8.ofNat (c.toNat / 64 % 64 + 0x80)) = true := by
      rw [continues_iff, b₁]
      split_ifs <;> simp only [UInt8.toNat_ofNat] <;> omega
    rw [lead, readChar_three rest (by omega) (leadInfo_three (c.toNat / 4096) (by omega)) second tail, b₀, b₁, b₂]
    rw [show ((0xE0 + c.toNat / 4096) % 16 * 64 + (c.toNat / 64 % 64 + 0x80) % 64) * 64 +
      (c.toNat % 64 + 0x80) % 64 = c.toNat by omega, back]
  rw [if_neg three, List.cons_append, List.cons_append, List.cons_append, List.cons_append, List.nil_append]
  have lead : c.toNat / 262144 % 8 + 0xf0 = 0xF0 + c.toNat / 262144 := by omega
  have b₀ := toNat_ofNat_of_lt (show 0xF0 + c.toNat / 262144 < 256 by omega)
  have b₁ := toNat_ofNat_of_lt (show c.toNat / 4096 % 64 + 0x80 < 256 by omega)
  have b₂' := toNat_ofNat_of_lt (show c.toNat / 64 % 64 + 0x80 < 256 by omega)
  -- below U+40000 the second byte is at least 0x90, and from U+100000 on at most 0x8F
  have second : continues (if c.toNat / 262144 = 0 then 0x90 else 0x80)
      (if c.toNat / 262144 = 4 then 0x8F else 0xBF) (UInt8.ofNat (c.toNat / 4096 % 64 + 0x80)) = true := by
    rw [continues_iff, b₁]
    split_ifs <;> simp only [UInt8.toNat_ofNat] <;> omega
  have third : continues 0x80 0xBF (UInt8.ofNat (c.toNat / 64 % 64 + 0x80)) = true := by
    rw [continues_iff, b₂']; simp only [UInt8.toNat_ofNat]; omega
  rw [lead, readChar_four rest (by omega) (leadInfo_four (c.toNat / 262144) (by omega)) second third tail,
    b₀, b₁, b₂', b₂]
  rw [show (((0xF0 + c.toNat / 262144) % 8 * 64 + (c.toNat / 4096 % 64 + 0x80) % 64) * 64 +
    (c.toNat / 64 % 64 + 0x80) % 64) * 64 + (c.toNat % 64 + 0x80) % 64 = c.toNat by omega, back]

/-! ### Texts -/

theorem decodeWith_flatMap (cs : List Char) {fuel : Nat}
    (enough : (cs.flatMap String.utf8EncodeChar).length ≤ fuel) :
    decodeWith fuel (cs.flatMap String.utf8EncodeChar) = (cs, true) := by
  induction cs generalizing fuel with
  | nil => cases fuel <;> rfl
  | cons c rest ih =>
    rw [List.flatMap_cons] at enough ⊢
    have size : 0 < (String.utf8EncodeChar c).length := by
      rw [String.length_utf8EncodeChar]
      exact Char.utf8Size_pos c
    rw [List.length_append] at enough
    obtain ⟨f, rfl⟩ : ∃ f, fuel = f + 1 := ⟨fuel - 1, by omega⟩
    simp only [decodeWith, readChar_utf8EncodeChar, ih (show _ ≤ f by omega), Bool.and_self]

theorem decodeLossy_encode (s : String) : decodeLossy (encode s) = Text.wellFormed s := by
  rw [decodeLossy, encode, toUTF8_toList, decodeWith_flatMap _ (Nat.le_refl _)]
  rfl

end GuildRegistry.Utf8
