import GuildRegistry.Text.Utf8
import GuildRegistry.Proofs.Number.Reading

/-! ASCII text.

A text of ASCII characters holds no surrogate units, so its characters are its code points and
its UTF-8 bytes are its character codes (`Utf8.encode_ascii`). Printable ASCII holds no blanks,
so trimming leaves it as it is (`Text.trimChars_of_printable`).
-/

set_option autoImplicit false

namespace GuildRegistry.Utf8

theorem toList_loop (b : ByteArray) :
    ∀ (d i : Nat) (r : List UInt8), b.size ≤ i + d →
      ByteArray.toList.loop b i r = r.reverse ++ b.data.toList.drop i
  | 0, i, r, h => by
    rw [ByteArray.toList.loop, if_neg (by omega), List.drop_of_length_le (by simpa using h), List.append_nil]
  | d + 1, i, r, h => by
    rw [ByteArray.toList.loop]
    by_cases inside : i < b.size
    · rw [if_pos inside, toList_loop b d (i + 1) _ (by omega),
        List.drop_eq_getElem_cons (show i < b.data.toList.length by simpa using inside)]
      simp only [List.reverse_cons, List.append_assoc, List.singleton_append, Array.getElem_toList]
      congr 2
      show b.data[i]! = _
      exact getElem!_pos b.data i (by simpa using inside)
    · rw [if_neg inside, List.drop_of_length_le (by simp; omega), List.append_nil]

theorem byteArray_toList (b : ByteArray) : b.toList = b.data.toList := by
  rw [ByteArray.toList, toList_loop b b.size 0 [] (by omega)]
  rfl

theorem toUTF8_toList (s : String) : s.toUTF8.toList = s.toList.flatMap String.utf8EncodeChar := by
  rw [String.toUTF8_eq_toByteArray, ← String.utf8Encode_toList, byteArray_toList, List.utf8Encode,
    List.toList_data_toByteArray]

theorem not_surrogate {c : Char} (h : c.toNat < 0xD800) :
    Text.isHighSurrogate c = false ∧ Text.isLowSurrogate c = false := by
  have unit : Text.unitOf c = c.toNat := by
    unfold Text.unitOf Text.surrogateBase
    rw [if_neg (by omega)]
  simp only [Text.isHighSurrogate, Text.isLowSurrogate, unit]
  constructor <;> simp <;> omega

theorem codePoints_of_lt {cs : List Char} (h : ∀ c ∈ cs, c.toNat < 0xD800) : Text.codePoints cs = cs := by
  fun_induction Text.codePoints cs with
  | case1 => rfl
  | case2 c =>
    have := not_surrogate (h c (by simp))
    simp [this]
  | case3 c d more pair ih =>
    have := not_surrogate (h c (by simp))
    simp [this] at pair
  | case4 c d more notPair ih =>
    have := not_surrogate (h c (by simp))
    simp only [this, Bool.or_self, Bool.false_eq_true, if_false]
    rw [ih fun e mem => h e (by simp_all)]

theorem encode_ascii {cs : List Char} (h : ∀ c ∈ cs, c.toNat < 128) :
    encode (String.ofList cs) = cs.map fun c => c.toNat.toUInt8 := by
  rw [encode, Text.toChars, String.toList_ofList, codePoints_of_lt fun c mem => by have := h c mem; omega,
    toUTF8_toList, String.toList_ofList]
  induction cs with
  | nil => rfl
  | cons c cs ih =>
    have small : c.val ≤ 127 := by
      have := h c (by simp)
      rw [UInt32.le_iff_toNat_le]
      exact Nat.le_of_lt_succ this
    rw [List.flatMap_cons, String.utf8EncodeChar_eq_singleton (Char.utf8Size_eq_one_iff.mpr small),
      ih fun d mem => h d (by simp [mem]), List.map_cons, List.singleton_append]
    rfl

end GuildRegistry.Utf8

namespace GuildRegistry.Text

section Printable

variable {cs : List Char}

theorem dropBlanks_of_printable (printable : ∀ c ∈ cs, 33 ≤ c.toNat ∧ c.toNat < 127) : dropBlanks cs = cs := by
  cases cs with
  | nil => rfl
  | cons c rest =>
    have range := printable c (by simp)
    unfold dropBlanks
    rw [List.dropWhile_cons_of_neg (by simp [Binary64.isBlank_of_printable range.1 range.2])]

theorem trimChars_of_printable (printable : ∀ c ∈ cs, 33 ≤ c.toNat ∧ c.toNat < 127) : trimChars cs = cs := by
  unfold trimChars
  rw [dropBlanks_of_printable printable, dropBlanks_of_printable (by simpa using printable), List.reverse_reverse]

end Printable

end GuildRegistry.Text
