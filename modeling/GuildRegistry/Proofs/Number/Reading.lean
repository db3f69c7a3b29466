import GuildRegistry.Proofs.Number.Shortest
import GuildRegistry.Proofs.Text.Digits
import GuildRegistry.Number.Numeral
import GuildRegistry.Ledger.KeyMap
import Mathlib.Tactic.SplitIfs

/-! Reading back the text of a number.

The text of a finite number is its shortest decimal, laid out positionally or with an exponent.
Reading such a text splits it into digits, a point and an exponent, and rounds the decimal once;
since the decimal lies in the rounding interval of the magnitude it was printed from, the rounding
gives that magnitude back.
-/

set_option autoImplicit false

namespace GuildRegistry.Binary64

theorem maxUnits_lt : maxUnits < 2 ^ 2098 := by unfold maxUnits; decide +kernel

theorem two_pow_1024_lt : 2 ^ 2098 < 10 ^ 309 * unit := by unfold unit; decide +kernel

theorem two_unit_lt : 2 * unit < 10 ^ 324 := by unfold unit; decide +kernel

theorem gapAbove_le_self {u : Nat} (hu : 0 < u) : gapAbove u ≤ u :=
  calc gapAbove u = 2 ^ (u.log2 + 1 - 53) := gapAbove_eq u
    _ ≤ 2 ^ u.log2 := Nat.pow_le_pow_right (by decide) (by omega)
    _ ≤ u := Nat.log2_self_le (Nat.pos_iff_ne_zero.mp hu)

theorem le_of_inside {u a b : Nat} (grid : OnGrid u) (bound : u ≤ maxUnits) (inside : Inside u a b) :
    a ≤ 2 ^ 2098 * b := by
  have top := add_gap_le_of_onGrid grid
  have binade : 2 ^ (u.log2 + 1) ≤ 2 ^ 2098 := by
    apply Nat.pow_le_pow_right (by decide)
    rcases Nat.eq_zero_or_pos u with zero | pos
    · rw [zero]; decide
    · have := (Nat.log2_lt (Nat.pos_iff_ne_zero.mp pos)).mpr (Nat.lt_of_le_of_lt bound maxUnits_lt)
      omega
  have ends : 2 * a ≤ (2 * u + gapAbove u) * b := by
    rcases inside.2 with upper | ⟨upper, -⟩ <;> omega
  have wide : (2 * u + gapAbove u) * b ≤ (2 * 2 ^ 2098) * b := Nat.mul_le_mul_right _ (by omega)
  rw [Nat.mul_assoc] at wide
  omega

theorem le_two_mul_of_inside {u a b : Nat} (hu : 0 < u) (inside : Inside u a b) : b ≤ 2 * a := by
  have below : gapBelow u ≤ u := Nat.le_trans (gapBelow_le_gapAbove u) (gapAbove_le_self hu)
  have ends : (2 * u - gapBelow u) * b ≤ 2 * a := by
    rcases inside.1 with lower | ⟨lower, -⟩ <;> omega
  have : 1 * b ≤ (2 * u - gapBelow u) * b := Nat.mul_le_mul_right _ (by omega)
  omega


section DecimalBounds

variable {u : Nat} {c : Nat} {e : Int}

theorem top_lt_of_inside (grid : OnGrid u) (bound : u ≤ maxUnits) (pos : 0 < c)
    (inside : Inside u (Decimal.mk c e).num (Decimal.mk c e).den) : e + digitCount c < 310 := by
  have upper := le_of_inside grid bound inside
  have least := pow_digitCount_le pos
  have overflow := two_pow_1024_lt
  unfold Decimal.num Decimal.den at upper
  dsimp only at upper
  apply Int.lt_of_not_ge
  intro far
  by_cases nonneg : 0 ≤ e
  · rw [if_pos nonneg, if_pos nonneg, Nat.mul_one] at upper
    -- the digits alone reach `10^309`
    have big : 10 ^ 309 ≤ c * 10 ^ e.toNat :=
      calc 10 ^ 309 ≤ 10 ^ (digitCount c - 1 + e.toNat) := Nat.pow_le_pow_right (by decide) (by omega)
        _ = 10 ^ (digitCount c - 1) * 10 ^ e.toNat := Nat.pow_add _ _ _
        _ ≤ c * 10 ^ e.toNat := Nat.mul_le_mul_right _ least
    have := Nat.mul_le_mul_right unit big
    omega
  · rw [if_neg nonneg, if_neg nonneg] at upper
    have big : 10 ^ 309 * 10 ^ (-e).toNat ≤ c :=
      calc 10 ^ 309 * 10 ^ (-e).toNat = 10 ^ (309 + (-e).toNat) := (Nat.pow_add _ _ _).symm
        _ ≤ 10 ^ (digitCount c - 1) := Nat.pow_le_pow_right (by decide) (by omega)
        _ ≤ c := least
    have scaled := Nat.mul_le_mul_right unit big
    have : 2 ^ 2098 * 10 ^ (-e).toNat < 10 ^ 309 * unit * 10 ^ (-e).toNat :=
      Nat.mul_lt_mul_of_pos_right overflow (Nat.pow_pos (by decide))
    rw [Nat.mul_right_comm] at scaled
    omega

theorem top_gt_of_inside (hu : 0 < u) (inside : Inside u (Decimal.mk c e).num (Decimal.mk c e).den) :
    -324 < e + digitCount c := by
  have lower := le_two_mul_of_inside hu inside
  have most := lt_pow_digitCount c
  have tiny := two_unit_lt
  unfold Decimal.num Decimal.den at lower
  dsimp only at lower
  apply Int.lt_of_not_ge
  intro far
  have neg : ¬0 ≤ e := by have := digitCount_pos c; omega
  rw [if_neg neg, if_neg neg] at lower
  -- the denominator would outgrow twice the digits in units
  have split : 10 ^ (-e).toNat = 10 ^ digitCount c * 10 ^ ((-e).toNat - digitCount c) := by
    rw [← Nat.pow_add]; congr 1; omega
  have wide : 10 ^ 324 ≤ 10 ^ ((-e).toNat - digitCount c) := Nat.pow_le_pow_right (by decide) (by omega)
  have : 2 * (c * unit) < 10 ^ digitCount c * (2 * unit) := by
    rw [Nat.mul_comm 2, Nat.mul_assoc, Nat.mul_comm unit 2]
    exact Nat.mul_lt_mul_of_pos_right most (by have := unit_pos; omega)
  have : 10 ^ digitCount c * (2 * unit) < 10 ^ digitCount c * 10 ^ 324 :=
    Nat.mul_lt_mul_of_pos_left tiny (Nat.pow_pos (by decide))
  have : 10 ^ digitCount c * 10 ^ 324 ≤ 10 ^ digitCount c * 10 ^ ((-e).toNat - digitCount c) :=
    Nat.mul_le_mul_left _ wide
  omega

end DecimalBounds

theorem ofRatUnits_of_roundUnits {neg : Bool} {a b n : Nat} (h : roundUnits a b = some n) :
    ofRatUnits neg a b = .finite neg n := by
  unfold ofRatUnits; rw [h]

theorem ofDecimal_of_inside (neg : Bool) {u : Nat} (hu : 0 < u) (grid : OnGrid u)
    (bound : u ≤ maxUnits) {d : Decimal} (pos : 0 < d.digits) (inside : Inside u d.num d.den) :
    ofDecimal neg d.digits d.exponent = .finite neg u := by
  have rounds := roundUnits_of_inside hu grid bound (Decimal.den_pos d) inside
  obtain ⟨c, e⟩ := d
  have high := top_lt_of_inside grid bound pos inside
  have low := top_gt_of_inside hu inside
  dsimp only at pos high low
  unfold ofDecimal digitCount at *
  rw [if_neg (show c ≠ 0 by omega)]
  dsimp only
  rw [if_neg (show ¬310 ≤ e + ((Nat.toDigits 10 c).length : Int) by omega),
    if_neg (show ¬e + ((Nat.toDigits 10 c).length : Int) ≤ -324 by omega)]
  by_cases nonneg : 0 ≤ e
  · have num : (Decimal.mk c e).num = c * 10 ^ e.toNat * unit := if_pos nonneg
    have den : (Decimal.mk c e).den = 1 := if_pos nonneg
    rw [num, den] at rounds
    rw [if_pos nonneg, ofRat, ofRatUnits_of_roundUnits rounds]
  · have num : (Decimal.mk c e).num = c * unit := if_neg nonneg
    have den : (Decimal.mk c e).den = 10 ^ (-e).toNat := if_neg nonneg
    rw [num, den] at rounds
    rw [if_neg nonneg, ofRat, ofRatUnits_of_roundUnits rounds]

/-- The characters the text of a finite number is made of. -/
def isNumeralChar (c : Char) : Bool := c.isDigit || c == '.' || c == 'e' || c == '+' || c == '-'

theorem isNumeralChar_of_isDigit {c : Char} (h : c.isDigit = true) : isNumeralChar c = true := by
  simp [isNumeralChar, h]

theorem digitValue_of_isDigit {c : Char} (h : c.isDigit = true) :
    digitValue c = some (c.toNat - '0'.toNat) ∧ c.toNat - '0'.toNat < 10 := by
  have range := Text.toNat_of_isDigit h
  simp only [Char.isDigit, Bool.and_eq_true, decide_eq_true_eq] at h
  unfold digitValue
  rw [if_pos ⟨h.1, h.2⟩]
  exact ⟨rfl, by simp only [Char.reduceToNat]; omega⟩

theorem toNat_of_isNumeralChar {c : Char} (h : isNumeralChar c = true) :
    43 ≤ c.toNat ∧ (c.toNat ≤ 57 ∨ c.toNat = 101) := by
  simp only [isNumeralChar, Bool.or_eq_true, beq_iff_eq] at h
  rcases h with (((digit | rfl) | rfl) | rfl) | rfl
  · have := Text.toNat_of_isDigit digit; omega
  all_goals decide

variable {ds : List Char}

theorem layout_toList (ds : List Char) (n : Int) :
    (layout (String.ofList ds) n).toList =
      if (ds.length : Int) ≤ n ∧ n ≤ 21 then ds ++ List.replicate (n - ds.length).toNat '0'
      else if 0 < n ∧ n ≤ 21 then ds.take n.toNat ++ '.' :: ds.drop n.toNat
      else if -6 < n ∧ n ≤ 0 then '0' :: '.' :: (List.replicate (-n).toNat '0' ++ ds)
      else (if ds.length = 1 then ds else ds.take 1 ++ '.' :: ds.drop 1) ++
        'e' :: (if 0 ≤ n - 1 then '+' else '-') :: Nat.toDigits 10 (n - 1).natAbs := by
  unfold layout
  simp only [String.length_ofList, String.toList_ofList]
  split_ifs <;> simp [zeros, Nat.toList_repr] <;> omega


theorem spanDigits_append {ds rest : List Char} (digits : ∀ c ∈ ds, c.isDigit = true)
    (stop : ∀ c ∈ rest.head?, c.isDigit = false) : spanDigits (ds ++ rest) = (ds, rest) := by
  unfold spanDigits
  rw [List.takeWhile_append_of_pos digits, List.dropWhile_append_of_pos digits]
  cases rest with
  | nil => simp
  | cons c more =>
    have : c.isDigit = false := stop c rfl
    simp [this]

theorem spanDigits_of_digits {ds : List Char} (digits : ∀ c ∈ ds, c.isDigit = true) :
    spanDigits ds = (ds, []) := by
  simpa using spanDigits_append digits (fun c (mem : c ∈ ([] : List Char).head?) => by simp at mem)

theorem readDigits_of_digits {cs : List Char} (digits : ∀ c ∈ cs, c.isDigit = true) (ne : cs ≠ []) :
    readDigits 10 cs = some (Nat.ofDigitChars 10 cs 0) := by
  unfold readDigits
  rw [if_neg (by simpa using ne)]
  clear ne
  generalize 0 = init
  induction cs generalizing init with
  | nil => rfl
  | cons c rest ih =>
    obtain ⟨value, small⟩ := digitValue_of_isDigit (digits c (by simp))
    rw [List.foldlM_cons, value]
    simp only [if_pos small, Option.bind_eq_bind, Option.bind_some]
    rw [ih (fun d h => digits d (by simp [h])), Nat.ofDigitChars_cons, Nat.mul_comm]


theorem readExponent_sign (m : Int) :
    readExponent ((if 0 ≤ m then '+' else '-') :: Nat.toDigits 10 m.natAbs) = some m := by
  have digits : ∀ c ∈ Nat.toDigits 10 m.natAbs, c.isDigit = true :=
    fun c h => Nat.isDigit_of_mem_toDigits (by decide) (by decide) h
  have read := readDigits_of_digits digits Nat.toDigits_ne_nil
  rw [Nat.ofDigitChars_ten_toDigits] at read
  unfold readExponent
  split_ifs with nonneg
  · show (readDigits 10 (Nat.toDigits 10 m.natAbs)).map Int.ofNat = some m
    rw [read]
    exact congrArg some (Int.natAbs_of_nonneg nonneg)
  · show Option.map (fun n : Int => -n) (readDigits 10 (Nat.toDigits 10 m.natAbs) >>= fun a => pure (a : Int)) =
      some m
    rw [read]
    show some (-(m.natAbs : Int)) = some m
    rw [Int.ofNat_natAbs_of_nonpos (by omega), Int.neg_neg]

section Grammar

variable {whole frac : List Char}

theorem readUnsignedDecimal_digits (hw : ∀ c ∈ whole, c.isDigit = true) (ne : whole ≠ []) :
    readUnsignedDecimal whole = some (Nat.ofDigitChars 10 whole 0, 0) := by
  unfold readUnsignedDecimal
  rw [spanDigits_of_digits hw]
  simp [ne, Text.foldl_digits]

theorem readUnsignedDecimal_point (hw : ∀ c ∈ whole, c.isDigit = true)
    (hf : ∀ c ∈ frac, c.isDigit = true) (ne : whole ≠ []) :
    readUnsignedDecimal (whole ++ '.' :: frac) =
      some (Nat.ofDigitChars 10 (whole ++ frac) 0, -(frac.length : Int)) := by
  unfold readUnsignedDecimal
  rw [spanDigits_append hw (by simp)]
  simp only
  rw [spanDigits_of_digits hf]
  simp [ne, Text.foldl_digits, Nat.ofDigitChars_append]

theorem readUnsignedDecimal_exponent (hw : ∀ c ∈ whole, c.isDigit = true) (ne : whole ≠ [])
    (rest : List Char) :
    readUnsignedDecimal (whole ++ 'e' :: rest) =
      (readExponent rest).map fun e => (Nat.ofDigitChars 10 whole 0, e) := by
  unfold readUnsignedDecimal
  rw [spanDigits_append hw (by simp)]
  simp [ne, Text.foldl_digits]

theorem readUnsignedDecimal_point_exponent (hw : ∀ c ∈ whole, c.isDigit = true)
    (hf : ∀ c ∈ frac, c.isDigit = true) (ne : whole ≠ []) (rest : List Char) :
    readUnsignedDecimal (whole ++ '.' :: (frac ++ 'e' :: rest)) =
      (readExponent rest).map fun e => (Nat.ofDigitChars 10 (whole ++ frac) 0, e - (frac.length : Int)) := by
  unfold readUnsignedDecimal
  rw [spanDigits_append hw (by simp)]
  simp only
  rw [spanDigits_append hf (by simp)]
  simp [ne, Text.foldl_digits, Nat.ofDigitChars_append]

end Grammar

theorem readUnsignedDecimal_layout (digits : ∀ c ∈ ds, c.isDigit = true) (ne : ds ≠ []) (n : Int) :
    readUnsignedDecimal (layout (String.ofList ds) n).toList =
      some (if (ds.length : Int) ≤ n ∧ n ≤ 21 then
          (Nat.ofDigitChars 10 ds 0 * 10 ^ (n - ds.length).toNat, 0)
        else (Nat.ofDigitChars 10 ds 0, n - ds.length)) := by
  have zeros : ∀ m, ∀ c ∈ List.replicate m '0', c.isDigit = true := by
    intro m c h; rw [List.eq_of_mem_replicate h]; rfl
  have first : ds.take 1 ≠ [] := by simp [ne]
  have firstDigits : ∀ c ∈ ds.take 1, c.isDigit = true := fun c h => digits c (List.mem_of_mem_take h)
  have restDigits : ∀ c ∈ ds.drop 1, c.isDigit = true := fun c h => digits c (List.mem_of_mem_drop h)
  have lengthPos : 0 < ds.length := List.length_pos_iff.mpr ne
  rw [layout_toList]
  by_cases fits : (ds.length : Int) ≤ n ∧ n ≤ 21
  · -- the digits, then zeros up to the point
    rw [if_pos fits, if_pos fits, readUnsignedDecimal_digits (by simp only [List.mem_append]; rintro c (h | h) <;> simp_all) (by simp [ne]),
      Nat.ofDigitChars_append, Nat.ofDigitChars_replicate_zero, Nat.mul_comm]
  rw [if_neg fits, if_neg fits]
  by_cases inside : 0 < n ∧ n ≤ 21
  · -- a point inside the digits
    rw [if_pos inside, readUnsignedDecimal_point (fun c h => digits c (List.mem_of_mem_take h))
      (fun c h => digits c (List.mem_of_mem_drop h)) (by simp [ne]; omega), List.take_append_drop,
      List.length_drop]
    congr 2
    omega
  rw [if_neg inside]
  by_cases small : -6 < n ∧ n ≤ 0
  · -- zeros between the point and the digits
    rw [if_pos small, show '0' :: '.' :: (List.replicate (-n).toNat '0' ++ ds) =
      ['0'] ++ '.' :: (List.replicate (-n).toNat '0' ++ ds) from rfl,
      readUnsignedDecimal_point (fun c h => by rw [List.mem_singleton.mp h]; rfl)
        (by simp only [List.mem_append]; rintro c (h | h) <;> simp_all)
        (by simp)]
    rw [Nat.ofDigitChars_append, Nat.ofDigitChars_append, Nat.ofDigitChars_replicate_zero]
    simp only [List.length_append, List.length_replicate]
    congr 2
    omega
  rw [if_neg small]
  -- the exponent form
  by_cases one : ds.length = 1
  · rw [if_pos one, readUnsignedDecimal_exponent digits ne, readExponent_sign]
    simp only [Option.map_some]
    congr 2
    omega
  · rw [if_neg one, List.append_assoc, List.cons_append,
      readUnsignedDecimal_point_exponent firstDigits restDigits first, readExponent_sign, List.take_append_drop]
    simp only [Option.map_some, List.length_drop]
    congr 2
    omega


theorem isBlank_of_printable {c : Char} (lo : 33 ≤ c.toNat) (hi : c.toNat < 127) : Text.isBlank c = false := by
  unfold Text.isBlank
  generalize c.toNat = n at *
  split <;> first | omega | simp only [Bool.and_eq_false_iff, decide_eq_false_iff_not]; omega

theorem isBlank_of_isNumeralChar {c : Char} (h : isNumeralChar c = true) : Text.isBlank c = false := by
  have range := toNat_of_isNumeralChar h
  exact isBlank_of_printable (by omega) (by omega)

section Numerals

variable {cs : List Char}

theorem dropBlanks_of_numeral (numeral : ∀ c ∈ cs, isNumeralChar c = true) : Text.dropBlanks cs = cs := by
  cases cs with
  | nil => rfl
  | cons c rest =>
    unfold Text.dropBlanks
    rw [List.dropWhile_cons_of_neg (by simp [isBlank_of_isNumeralChar (numeral c (by simp))])]

theorem trimChars_of_numeral (numeral : ∀ c ∈ cs, isNumeralChar c = true) : Text.trimChars cs = cs := by
  unfold Text.trimChars
  rw [dropBlanks_of_numeral numeral, dropBlanks_of_numeral (by simpa using numeral), List.reverse_reverse]

theorem readPrefixedInteger_of_numeral (numeral : ∀ c ∈ cs, isNumeralChar c = true) :
    readPrefixedInteger cs = none := by
  unfold readPrefixedInteger
  split
  · rename_i p rest
    have range := toNat_of_isNumeralChar (numeral p (by simp))
    have notHex : ¬(p = 'x' ∨ p = 'X') := by rintro (rfl | rfl) <;> simp at range
    have notOctal : ¬(p = 'o' ∨ p = 'O') := by rintro (rfl | rfl) <;> simp at range
    have notBinary : ¬(p = 'b' ∨ p = 'B') := by rintro (rfl | rfl) <;> simp at range
    simp [notHex, notOctal, notBinary]
  · rfl

end Numerals

theorem readSignedDecimal_sign (neg : Bool) {c : Char} {rest : List Char} (digit : c.isDigit = true) :
    readSignedDecimal ((if neg then ['-'] else []) ++ c :: rest) =
      (readUnsignedDecimal (c :: rest)).map fun (d, e) => ofDecimal neg d e := by
  have range := Text.toNat_of_isDigit digit
  have notInfinity : c :: rest ≠ "Infinity".toList := by
    intro same
    simp only [show "Infinity".toList = ['I', 'n', 'f', 'i', 'n', 'i', 't', 'y'] by simp,
      List.cons.injEq] at same
    rw [same.1] at range
    simp at range
  unfold readSignedDecimal
  cases neg with
  | true =>
    simp only [if_true, List.singleton_append]
    rw [if_neg notInfinity]
  | false =>
    simp only [Bool.false_eq_true, if_false, List.nil_append]
    split
    · rename_i same; cases same; simp at range
    · rename_i same; cases same; simp at range
    · dsimp only
      rw [if_neg notInfinity]

section Layout

variable {ds : List Char}

theorem layout_head (digits : ∀ c ∈ ds, c.isDigit = true) (ne : ds ≠ []) (n : Int) :
    ∃ c rest, (layout (String.ofList ds) n).toList = c :: rest ∧ c.isDigit = true := by
  obtain ⟨d, more, rfl⟩ := List.exists_cons_of_ne_nil ne
  have first : d.isDigit = true := digits d (by simp)
  rw [layout_toList]
  split_ifs with fits inside small one
  · exact ⟨d, _, rfl, first⟩
  · rw [show n.toNat = n.toNat - 1 + 1 by omega, List.take_succ_cons]
    exact ⟨d, _, rfl, first⟩
  · exact ⟨'0', _, rfl, rfl⟩
  all_goals exact ⟨d, _, rfl, first⟩

theorem layout_numeral (digits : ∀ c ∈ ds, c.isDigit = true) (n : Int) :
    ∀ c ∈ (layout (String.ofList ds) n).toList, isNumeralChar c = true := by
  have numeral : ∀ c ∈ ds, isNumeralChar c = true := fun c h => isNumeralChar_of_isDigit (digits c h)
  have exponent : ∀ m, ∀ c ∈ Nat.toDigits 10 m, isNumeralChar c = true := fun m c h =>
    isNumeralChar_of_isDigit (Nat.isDigit_of_mem_toDigits (by decide) (by decide) h)
  have marks : isNumeralChar '0' = true ∧ isNumeralChar '.' = true ∧ isNumeralChar 'e' = true ∧
      isNumeralChar '+' = true ∧ isNumeralChar '-' = true := by decide
  rw [layout_toList]
  intro c mem
  split_ifs at mem <;> simp only [List.mem_append, List.mem_cons, List.mem_replicate] at mem <;>
    grind [List.mem_of_mem_take, List.mem_of_mem_drop]

end Layout

theorem Decimal.num_of_nonneg {d : Decimal} (h : 0 ≤ d.exponent) :
    d.num = d.digits * 10 ^ d.exponent.toNat * unit := if_pos h

theorem Decimal.den_of_nonneg {d : Decimal} (h : 0 ≤ d.exponent) : d.den = 1 := if_pos h

/-- A value whose magnitude binary64 can hold: on the grid, and at most the largest finite
magnitude. -/
def Representable : Binary64 → Prop
  | .finite _ u => OnGrid u ∧ u ≤ maxUnits
  | _ => True

theorem shortestDecimal_digits_pos {u : Nat} (hu : 0 < u) : 0 < (shortestDecimal u).digits := by
  have lower := le_two_mul_of_inside hu (shortestDecimal_inside hu)
  have den := Decimal.den_pos (shortestDecimal u)
  apply Nat.pos_of_ne_zero
  intro zero
  unfold Decimal.num at lower
  rw [zero] at lower
  simp only [Nat.zero_mul, ite_self, Nat.mul_zero] at lower
  omega

theorem format_finite (neg : Bool) {u : Nat} (hu : 0 < u) :
    format (.finite neg u) = (if neg then "-" else "") ++
      layout (toString (shortestDecimal u).digits)
        ((shortestDecimal u).exponent + (toString (shortestDecimal u).digits).length) := by
  obtain ⟨v, rfl⟩ : ∃ v, u = v + 1 := ⟨u - 1, by omega⟩
  cases neg <;> simp [format]

theorem isNumeralChar_format_finite (neg : Bool) (u : Nat) :
    ∀ c ∈ (format (.finite neg u)).toList, isNumeralChar c = true := by
  intro c mem
  rcases Nat.eq_zero_or_pos u with rfl | pos
  · have zero : c = '0' := by cases neg <;> simpa [format] using mem
    rw [zero]
    rfl
  · have text : toString (shortestDecimal u).digits = String.ofList (Nat.toDigits 10 (shortestDecimal u).digits) :=
      Nat.repr_eq_ofList_toDigits
    rw [format_finite neg pos, text, String.toList_append] at mem
    rcases List.mem_append.mp mem with sign | body
    · have minus : c = '-' := by cases neg <;> simp_all
      rw [minus]
      rfl
    · exact layout_numeral (fun c h => Nat.isDigit_of_mem_toDigits (by decide) (by decide) h) _ c body

theorem ofNumeral_format_finite (neg : Bool) {u : Nat} (hu : 0 < u) (grid : OnGrid u)
    (bound : u ≤ maxUnits) : ofNumeral (format (.finite neg u)) = .finite neg u := by
  have inside := shortestDecimal_inside hu
  have pos := shortestDecimal_digits_pos hu
  rw [format_finite neg hu]
  generalize shortestDecimal u = d at inside pos
  -- the digits of the decimal, as characters
  have text : toString d.digits = String.ofList (Nat.toDigits 10 d.digits) := Nat.repr_eq_ofList_toDigits
  have digits : ∀ c ∈ Nat.toDigits 10 d.digits, c.isDigit = true := fun c h =>
    Nat.isDigit_of_mem_toDigits (by decide) (by decide) h
  have value : Nat.ofDigitChars 10 (Nat.toDigits 10 d.digits) 0 = d.digits := Nat.ofDigitChars_ten_toDigits
  have ne : Nat.toDigits 10 d.digits ≠ [] := Nat.toDigits_ne_nil
  rw [text, String.length_ofList]
  generalize Nat.toDigits 10 d.digits = ds at digits value ne
  obtain ⟨c, rest, start, first⟩ := layout_head digits ne (d.exponent + ds.length)
  have numeral : ∀ c ∈ ((if neg then "-" else "") ++ layout (String.ofList ds) (d.exponent + ds.length)).toList,
      isNumeralChar c = true := by
    intro c mem
    rw [String.toList_append] at mem
    rcases List.mem_append.mp mem with sign | body
    · have minus : c = '-' := by cases neg <;> simp_all
      rw [minus]; decide
    · exact layout_numeral digits _ c body
  have whole : ((if neg then "-" else "") ++ layout (String.ofList ds) (d.exponent + ds.length)).toList =
      (if neg then ['-'] else []) ++ c :: rest := by
    rw [String.toList_append, start]; cases neg <;> simp
  unfold ofNumeral
  rw [trimChars_of_numeral numeral]
  dsimp only
  rw [whole] at numeral ⊢
  rw [if_neg (by cases neg <;> simp), readPrefixedInteger_of_numeral numeral, readSignedDecimal_sign neg first,
    ← start, readUnsignedDecimal_layout digits ne, value]
  simp only [Option.map_some, Option.getD_some]
  split
  · -- the layout ends in zeros before the point, and the exponent was taken into the digits
    rename_i fits
    have nonneg : 0 ≤ d.exponent := by omega
    rw [show d.exponent + ds.length - ds.length = d.exponent by omega]
    have num : (Decimal.mk (d.digits * 10 ^ d.exponent.toNat) 0).num = d.num := by
      rw [Decimal.num_of_nonneg (le_refl _), Decimal.num_of_nonneg nonneg]
      simp only [Int.toNat_zero, Nat.pow_zero, Nat.mul_one]
    have den : (Decimal.mk (d.digits * 10 ^ d.exponent.toNat) 0).den = d.den := by
      rw [Decimal.den_of_nonneg (le_refl _), Decimal.den_of_nonneg nonneg]
    exact ofDecimal_of_inside neg hu grid bound (Nat.mul_pos pos (Nat.pow_pos (by decide : 0 < 10)))
      (by rw [num, den]; exact inside)
  · rw [show d.exponent + ds.length - ds.length = d.exponent by omega]
    exact ofDecimal_of_inside neg hu grid bound pos inside

theorem ofNumeral_format {x : Binary64} (hx : x.Representable) :
    ofNumeral (format x) = KeyMap.normalizeKey x := by
  cases x with
  | nan => decide
  | infinity neg => cases neg <;> decide
  | finite neg u =>
    obtain ⟨grid, bound⟩ := hx
    rcases Nat.eq_zero_or_pos u with zero | pos
    · subst zero
      cases neg <;> decide
    · rw [ofNumeral_format_finite neg pos grid bound]
      unfold KeyMap.normalizeKey
      split
      · rename_i same
        simp only [finite.injEq] at same
        omega
      · rfl

example : ofNumeral (format (.finite true 0)) = .finite false 0 := by decide

theorem representable_zero (neg : Bool) : (Binary64.finite neg 0).Representable :=
  ⟨Nat.zero_mod _, Nat.zero_le _⟩

theorem representable_ofRatUnits (neg : Bool) (a b : Nat) : (ofRatUnits neg a b).Representable := by
  unfold ofRatUnits
  split
  · rename_i rounds
    exact roundUnits_onGrid rounds
  · trivial

theorem representable_ofDecimal (neg : Bool) (digits : Nat) (exp10 : Int) :
    (ofDecimal neg digits exp10).Representable := by
  unfold ofDecimal
  dsimp only
  split_ifs
  · exact representable_zero neg
  · trivial
  · exact representable_zero neg
  · exact representable_ofRatUnits _ _ _
  · exact representable_ofRatUnits _ _ _

theorem readPrefixedInteger_eq_some {cs : List Char} {x : Binary64} (h : readPrefixedInteger cs = some x) :
    ∃ n, x = ofNat n := by
  unfold readPrefixedInteger at h
  split at h
  · dsimp only at h
    split_ifs at h
    all_goals obtain ⟨n, -, rfl⟩ := Option.map_eq_some_iff.mp h
    all_goals exact ⟨n, rfl⟩
  · contradiction

theorem readSignedDecimal_representable {cs : List Char} {x : Binary64}
    (h : readSignedDecimal cs = some x) : x.Representable := by
  unfold readSignedDecimal at h
  -- after the sign comes an infinity or a decimal
  split at h
  split at h
  · injection h with h
    subst h
    trivial
  · obtain ⟨d, -, rfl⟩ := Option.map_eq_some_iff.mp h
    exact representable_ofDecimal _ _ _

theorem representable_ofNumeral (s : String) : (ofNumeral s).Representable := by
  unfold ofNumeral
  dsimp only
  split
  · exact representable_zero false
  split
  · -- a prefixed integer is the value nearest to it
    rename_i x prefixed
    obtain ⟨n, rfl⟩ := readPrefixedInteger_eq_some prefixed
    exact representable_ofRatUnits _ _ _
  · rcases signed : readSignedDecimal (Text.trimChars s.toList) with _ | x
    · trivial
    · exact readSignedDecimal_representable signed

end GuildRegistry.Binary64
