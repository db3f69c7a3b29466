import GuildRegistry.Json.Reader
import GuildRegistry.Json.Writer
import Mathlib.Tactic.SplitIfs

/-! Reading back what the writer writes: positions, strings and words.

The reader works on an array of characters and positions in it. `Json.Occurs cs p t` says that the
characters `t` stand in `cs` from `p` on; texts are taken apart with `Occurs.append_iff` and
`Occurs.cons_iff`, so a statement about a piece of written text holds wherever that piece stands.
-/

set_option autoImplicit false

namespace GuildRegistry

namespace Text

theorem unitChar_unitOf (c : Char) : unitChar (unitOf c) = c := by
  have valid : c.toNat < 0xd800 ∨ (0xdfff < c.toNat ∧ c.toNat < 0x110000) := c.valid
  unfold unitChar unitOf surrogateBase
  split_ifs with keeper surrogate surrogate
  · rw [show 0xF0000 + (c.toNat - 0xF0000 + 0xD800 - 0xD800) = c.toNat by omega, Char.ofNat_toNat]
  · omega
  · omega
  · exact Char.ofNat_toNat c

theorem unitOf_lt_of_escaped {c : Char} (escaped : (c.toNat < 0x20 || isHighSurrogate c || isLowSurrogate c) = true) :
    unitOf c < 0x10000 := by
  simp only [isHighSurrogate, isLowSurrogate, Bool.or_eq_true, Bool.and_eq_true, decide_eq_true_eq] at escaped
  unfold unitOf surrogateBase at *
  split_ifs at * <;> omega

theorem surrogate_large {c : Char} (surrogate : (isHighSurrogate c || isLowSurrogate c) = true) :
    0xF0000 ≤ c.toNat := by
  have valid : c.toNat < 0xd800 ∨ (0xdfff < c.toNat ∧ c.toNat < 0x110000) := c.valid
  simp only [isHighSurrogate, isLowSurrogate, Bool.or_eq_true, Bool.and_eq_true, decide_eq_true_eq] at surrogate
  unfold unitOf surrogateBase at surrogate
  split_ifs at surrogate <;> omega

end Text


namespace Json

/-- The characters `t` stand in `cs` from position `p` on. -/
def Occurs (cs : Array Char) (p : Nat) (t : List Char) : Prop := t <+: cs.toList.drop p

namespace Occurs

variable {cs : Array Char} {p : Nat}

theorem nil : Occurs cs p [] := List.nil_prefix

theorem append_iff {a b : List Char} :
    Occurs cs p (a ++ b) ↔ Occurs cs p a ∧ Occurs cs (p + a.length) b := by
  unfold Occurs
  constructor
  · rintro ⟨rest, h⟩
    refine ⟨⟨b ++ rest, by rw [← h, List.append_assoc]⟩, ⟨rest, ?_⟩⟩
    rw [← List.drop_drop, ← h, List.append_assoc, List.drop_left]
  · rintro ⟨⟨r, ha⟩, ⟨r', hb⟩⟩
    refine ⟨r', ?_⟩
    have split : cs.toList.drop p = a ++ cs.toList.drop (p + a.length) := by
      rw [← List.drop_drop, ← ha, List.drop_left]
    rw [split, ← hb, List.append_assoc]

theorem singleton_iff {c : Char} : Occurs cs p [c] ↔ cs[p]? = some c := by
  simp only [Occurs, List.prefix_iff_eq_take, List.length_singleton, List.take_one, List.head?_drop,
    Array.getElem?_toList]
  cases cs[p]? <;> simp [eq_comm]

theorem extract {t : List Char} (here : Occurs cs p t) : (cs.extract p (p + t.length)).toList = t := by
  obtain ⟨rest, h⟩ := here
  rw [Array.toList_extract, List.extract_eq_take_drop, ← h, Nat.add_sub_cancel_left, List.take_left' rfl]

theorem cons_iff {c : Char} {t : List Char} :
    Occurs cs p (c :: t) ↔ cs[p]? = some c ∧ Occurs cs (p + 1) t := by
  rw [show c :: t = [c] ++ t from rfl, append_iff, singleton_iff]
  rfl

end Occurs


variable {cs : Array Char} {p : Nat}

theorem skipBlanks_of_not_blank (stop : ∀ c, cs[p]? = some c → isJsonBlank c = false) :
    skipBlanks cs p = p := by
  rw [skipBlanks]
  split
  · rename_i inside
    rw [if_neg (by simp [stop cs[p] (by simp [inside])])]
  · rfl

theorem tokenAt_of_getElem? {c : Char} (h : cs[p]? = some c) : tokenAt cs p = Token.ofChar c := by
  simp [tokenAt, h]

theorem occurs_pair {a b : Char} (here : Occurs cs p [a, b]) : cs[p]? = some a ∧ cs[p + 1]? = some b := by
  simpa [Occurs.cons_iff, Occurs.nil] using here

theorem digitValue_hexDigit : ∀ n < 16, Binary64.digitValue (hexDigit n) = some n := by decide

theorem hex4_unitEscape {u : Nat} (small : u < 0x10000) (here : Occurs cs p ((unitEscape u).drop 2)) :
    hex4 cs p = .ok u := by
  simp only [unitEscape, List.drop_succ_cons, List.drop_zero, Occurs.cons_iff, Occurs.nil, and_true] at here
  obtain ⟨h0, h1, h2, h3⟩ := here
  simp only [hex4, List.foldlM_cons, List.foldlM_nil, Nat.add_zero, h0, h1, h2, h3, Option.bind_some,
    digitValue_hexDigit _ (Nat.mod_lt _ (by decide : 0 < 16))]
  show Except.ok ((((0 * 16 + u / 4096 % 16) * 16 + u / 256 % 16) * 16 + u / 16 % 16) * 16 + u % 16) = _
  congr 1
  omega

theorem scanString_escapeChar (c : Char) {fuel : Nat} {acc : List Char} (here : Occurs cs p (escapeChar c)) :
    scanString cs (fuel + 1) p acc = scanString cs fuel (p + (escapeChar c).length) (c :: acc) := by
  unfold escapeChar at here ⊢
  split at here
  case h_8 _ quote backslash _ _ _ _ _ =>
    split at here
    · -- a control character or a lone surrogate, as a unit escape
      rename_i escaped
      obtain ⟨h0, rest⟩ := Occurs.cons_iff.mp here
      obtain ⟨h1, digits⟩ := Occurs.cons_iff.mp rest
      have hex := hex4_unitEscape (Text.unitOf_lt_of_escaped escaped) digits
      simp [scanString, h0, h1, hex, Text.unitChar_unitOf, escaped, unitEscape]
    · -- any other character, as itself
      rename_i plain
      have h0 := Occurs.singleton_iff.mp here
      have printable : ¬ c.toNat < 32 := fun small => plain (by simp [small])
      rw [if_neg plain]
      simp [scanString, h0, printable]
  all_goals
    obtain ⟨h0, h1⟩ := occurs_pair here
    simp [scanString, h0, h1]


theorem scanString_plain {c : Char} {fuel : Nat} {acc : List Char} (h0 : cs[p]? = some c) (printable : 32 ≤ c.toNat)
    (quote : c ≠ '"') (backslash : c ≠ '\\') :
    scanString cs (fuel + 1) p acc = scanString cs fuel (p + 1) (c :: acc) := by
  have small : ¬ c.toNat < 32 := by omega
  simp [scanString, h0, quote, backslash, small]

theorem scanString_escapeUnits (s : List Char) {fuel : Nat} {p : Nat} {acc : List Char} (enough : s.length < fuel)
    (here : Occurs cs p (escapeUnits s ++ ['"'])) :
    scanString cs fuel p acc = .ok (String.ofList (acc.reverse ++ s), p + (escapeUnits s).length + 1) := by
  fun_induction escapeUnits s generalizing fuel p acc with
  | case1 =>
    -- the closing quote
    obtain ⟨f, rfl⟩ : ∃ f, fuel = f + 1 := ⟨fuel - 1, by simp at enough; omega⟩
    have h0 := Occurs.singleton_iff.mp here
    simp [scanString, h0]
  | case2 c =>
    obtain ⟨f, rfl⟩ : ∃ f, fuel = f + 2 := ⟨fuel - 2, by simp at enough; omega⟩
    obtain ⟨written, close⟩ := Occurs.append_iff.mp here
    rw [scanString_escapeChar c written]
    simp [scanString, Occurs.singleton_iff.mp close]
  | case3 c d more pair ih =>
    -- a surrogate pair is read unit by unit
    obtain ⟨f, rfl⟩ : ∃ f, fuel = f + 2 := ⟨fuel - 2, by simp at enough; omega⟩
    simp only [Bool.and_eq_true] at pair
    have large := Text.surrogate_large (c := c) (by simp [pair.1])
    have large' := Text.surrogate_large (c := d) (by simp [pair.2])
    obtain ⟨h0, rest⟩ := Occurs.cons_iff.mp here
    obtain ⟨h1, rest⟩ := Occurs.cons_iff.mp rest
    rw [scanString_plain h0 (by omega) (by intro h; subst h; simp at large) (by intro h; subst h; simp at large),
      scanString_plain h1 (by omega) (by intro h; subst h; simp at large') (by intro h; subst h; simp at large'),
      ih (by simp at enough ⊢; omega) rest]
    rw [show p + 1 + 1 + (escapeUnits more).length + 1 = p + ((escapeUnits more).length + 1 + 1) + 1 by omega]
    simp
  | case4 c d more single ih =>
    obtain ⟨f, rfl⟩ : ∃ f, fuel = f + 1 := ⟨fuel - 1, by simp at enough; omega⟩
    rw [List.append_assoc] at here
    obtain ⟨written, rest⟩ := Occurs.append_iff.mp here
    rw [scanString_escapeChar c written, ih (by simp at enough ⊢; omega) rest]
    simp only [List.reverse_cons, List.append_assoc, List.singleton_append, List.length_append]
    rw [Nat.add_assoc p]


theorem scanWord_of_occurs (word : String) (v : Json) (here : Occurs cs p word.toList) :
    scanWord cs p word v = .ok (v, p + word.toList.length) := by
  unfold scanWord
  dsimp only
  rw [here.extract]
  simp

end Json

end GuildRegistry
