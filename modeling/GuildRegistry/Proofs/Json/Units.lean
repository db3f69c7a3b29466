import GuildRegistry.Proofs.Text.Ascii
import GuildRegistry.Proofs.Json.Scanning

/-! Written values as code units.

A snapshot holds the UTF-8 bytes of the characters its text stands for, and a load decodes them into
code units again: the text made well formed (`Utf8.decodeLossy_encode`).
-/

set_option autoImplicit false

namespace GuildRegistry

namespace Text

/-- Whether a character keeps a surrogate unit. -/
def isSurrogate (c : Char) : Bool := isHighSurrogate c || isLowSurrogate c

/-- The code units a character of a text stands for: a kept surrogate is its own unit, any
other character its one or two units. -/
def unitsKept (c : Char) : List Char := if isSurrogate c then [c] else unitsOfChar c

/-- A text as code units: every character beyond U+FFFF that keeps no surrogate becomes its
surrogate pair. -/
def toUnits (s : String) : String := String.ofList (s.toList.flatMap unitsKept)

/-- The code units of the characters that some code units stand for. -/
def wellFormedUnits (cs : List Char) : List Char := (codePoints cs).flatMap unitsOfChar

theorem toList_wellFormed (s : String) : (wellFormed s).toList = wellFormedUnits s.toList := by
  simp [wellFormed, ofChars, toChars, wellFormedUnits]

theorem toList_toUnits (s : String) : (toUnits s).toList = s.toList.flatMap unitsKept := by
  simp [toUnits]

theorem toNat_ofNat_of_valid {n : Nat} (valid : n < 0xD800 ∨ (0xDFFF < n ∧ n < 0x110000)) :
    (Char.ofNat n).toNat = n := by
  have valid' : n.isValidChar := valid
  show (if h : n.isValidChar then Char.ofNatAux n h else '\x00').toNat = n
  rw [dif_pos valid']
  rfl

/-! ### Surrogates by character code -/

theorem isHighSurrogate_iff (c : Char) :
    isHighSurrogate c = true ↔ 0xF0000 ≤ c.toNat ∧ c.toNat < 0xF0400 := by
  have valid : c.toNat < 0xD800 ∨ (0xDFFF < c.toNat ∧ c.toNat < 0x110000) := c.valid
  unfold isHighSurrogate unitOf surrogateBase
  by_cases keeper : 0xF0000 ≤ c.toNat ∧ c.toNat < 0xF0000 + 0x800
  · simp only [if_pos keeper, Bool.and_eq_true, decide_eq_true_iff]
    omega
  · simp only [if_neg keeper, Bool.and_eq_true, decide_eq_true_iff]
    omega

theorem isLowSurrogate_iff (c : Char) :
    isLowSurrogate c = true ↔ 0xF0400 ≤ c.toNat ∧ c.toNat < 0xF0800 := by
  have valid : c.toNat < 0xD800 ∨ (0xDFFF < c.toNat ∧ c.toNat < 0x110000) := c.valid
  unfold isLowSurrogate unitOf surrogateBase
  by_cases keeper : 0xF0000 ≤ c.toNat ∧ c.toNat < 0xF0000 + 0x800
  · simp only [if_pos keeper, Bool.and_eq_true, decide_eq_true_iff]
    omega
  · simp only [if_neg keeper, Bool.and_eq_true, decide_eq_true_iff]
    omega

theorem isSurrogate_iff (c : Char) : isSurrogate c = true ↔ 0xF0000 ≤ c.toNat ∧ c.toNat < 0xF0800 := by
  simp only [isSurrogate, Bool.or_eq_true, isHighSurrogate_iff, isLowSurrogate_iff]
  omega

theorem isSurrogate_of_lt {c : Char} (small : c.toNat < 0xF0000) : isSurrogate c = false := by
  cases h : isSurrogate c
  · rfl
  · have := (isSurrogate_iff c).mp h; omega

theorem toNat_unitChar {u : Nat} (lo : 0xD800 ≤ u) (hi : u ≤ 0xDFFF) :
    (unitChar u).toNat = 0xF0000 + (u - 0xD800) := by
  unfold unitChar surrogateBase
  rw [if_pos ⟨lo, hi⟩, toNat_ofNat_of_valid (by omega)]

/-! ### Code units of characters -/

theorem unitsOfChar_of_lt {c : Char} (small : c.toNat < 0x10000) : unitsOfChar c = [c] := by
  simp [unitsOfChar, small]

theorem unitsOfChar_of_ge {c : Char} (large : 0x10000 ≤ c.toNat) :
    ∃ h l, unitsOfChar c = [h, l] ∧ isHighSurrogate h = true ∧ isLowSurrogate l = true := by
  have valid : c.toNat < 0xD800 ∨ (0xDFFF < c.toNat ∧ c.toNat < 0x110000) := c.valid
  refine ⟨unitChar (0xD800 + (c.toNat - 0x10000) / 0x400), unitChar (0xDC00 + (c.toNat - 0x10000) % 0x400),
    by simp [unitsOfChar, Nat.not_lt.mpr large], ?_, ?_⟩
  · rw [isHighSurrogate_iff, toNat_unitChar (by omega) (by omega)]; omega
  · rw [isLowSurrogate_iff, toNat_unitChar (by omega) (by omega)]; omega

theorem unitsOfChar_pair {c d : Char} (high : isHighSurrogate c = true) (low : isLowSurrogate d = true) :
    unitsOfChar (Char.ofNat (0x10000 + (unitOf c - 0xD800) * 0x400 + (unitOf d - 0xDC00))) = [c, d] := by
  have hc := high
  have hd := low
  simp only [isHighSurrogate, isLowSurrogate, Bool.and_eq_true, decide_eq_true_iff] at hc hd
  have merged : (Char.ofNat (0x10000 + (unitOf c - 0xD800) * 0x400 + (unitOf d - 0xDC00))).toNat =
      0x10000 + (unitOf c - 0xD800) * 0x400 + (unitOf d - 0xDC00) := toNat_ofNat_of_valid (by omega)
  have first : 0xD800 + (0x10000 + (unitOf c - 0xD800) * 0x400 + (unitOf d - 0xDC00) - 0x10000) / 0x400 =
      unitOf c := by omega
  have second : 0xDC00 + (0x10000 + (unitOf c - 0xD800) * 0x400 + (unitOf d - 0xDC00) - 0x10000) % 0x400 =
      unitOf d := by omega
  have large : ¬ 0x10000 + (unitOf c - 0xD800) * 0x400 + (unitOf d - 0xDC00) < 0x10000 := by omega
  simp only [unitsOfChar, merged, if_neg large, first, second, unitChar_unitOf]

theorem unitsKept_of_lt {c : Char} (small : c.toNat < 0x10000) : unitsKept c = [c] := by
  rw [unitsKept, if_neg (by rw [isSurrogate_of_lt (by omega)]; decide), unitsOfChar_of_lt small]

theorem isLowSurrogate_head_unitsKept (c : Char) :
    ∃ e rest, unitsKept c = e :: rest ∧ isLowSurrogate e = isLowSurrogate c := by
  unfold unitsKept
  split
  · exact ⟨c, [], rfl, rfl⟩
  · rename_i plain
    by_cases small : c.toNat < 0x10000
    · exact ⟨c, [], unitsOfChar_of_lt small, rfl⟩
    · obtain ⟨h, l, split, high, -⟩ := unitsOfChar_of_ge (Nat.not_lt.mp small)
      refine ⟨h, [l], split, ?_⟩
      have lowH : isLowSurrogate h = false := by
        cases lh : isLowSurrogate h
        · rfl
        · have := (isLowSurrogate_iff h).mp lh; have := (isHighSurrogate_iff h).mp high; omega
      have lowC : isLowSurrogate c = false := by
        cases lc : isLowSurrogate c
        · rfl
        · simp [isSurrogate, lc] at plain
      rw [lowH, lowC]

/-! ### Well-formed units -/

theorem codePoints_cons_of_not_surrogate {c : Char} (plain : isSurrogate c = false) (rest : List Char) :
    codePoints (c :: rest) = c :: codePoints rest := by
  simp only [isSurrogate, Bool.or_eq_false_iff] at plain
  cases rest with
  | nil => simp [codePoints, plain]
  | cons d more => simp [codePoints, plain]

theorem wellFormedUnits_cons {c : Char} (plain : isSurrogate c = false) (rest : List Char) :
    wellFormedUnits (c :: rest) = unitsOfChar c ++ wellFormedUnits rest := by
  simp [wellFormedUnits, codePoints_cons_of_not_surrogate plain]

theorem wellFormedUnits_pair {c d : Char} (high : isHighSurrogate c = true) (low : isLowSurrogate d = true)
    (rest : List Char) : wellFormedUnits (c :: d :: rest) = c :: d :: wellFormedUnits rest := by
  simp [wellFormedUnits, codePoints, high, low, unitsOfChar_pair high low]

theorem wellFormedUnits_ascii_append {a : List Char} (ascii : ∀ c ∈ a, c.toNat < 128) (rest : List Char) :
    wellFormedUnits (a ++ rest) = a ++ wellFormedUnits rest := by
  induction a with
  | nil => rfl
  | cons c more ih =>
    have small := ascii c (by simp)
    rw [List.cons_append, wellFormedUnits_cons (isSurrogate_of_lt (by omega)), unitsOfChar_of_lt (by omega),
      ih fun e mem => ascii e (by simp [mem])]
    rfl

theorem wellFormedUnits_ascii_cons {c : Char} (ascii : c.toNat < 128) (rest : List Char) :
    wellFormedUnits (c :: rest) = c :: wellFormedUnits rest :=
  wellFormedUnits_ascii_append (a := [c]) (by simpa using ascii) rest

end Text

namespace Json

open Text

/-! ### Escapes -/

theorem escapeUnits_nil : escapeUnits [] = [] := by
  simp [escapeUnits]

theorem escapeUnits_singleton (c : Char) : escapeUnits [c] = escapeChar c := by
  simp [escapeUnits]

theorem escapeUnits_pair {c d : Char} (high : isHighSurrogate c = true) (low : isLowSurrogate d = true)
    (rest : List Char) : escapeUnits (c :: d :: rest) = c :: d :: escapeUnits rest := by
  simp [escapeUnits, high, low]

theorem ascii_unitEscape (u : Nat) : ∀ c ∈ unitEscape u, c.toNat < 128 := by
  have digit : ∀ n < 16, (hexDigit n).toNat < 128 := by decide
  intro c mem
  simp only [unitEscape, List.mem_cons, List.not_mem_nil, or_false] at mem
  rcases mem with rfl | rfl | rfl | rfl | rfl | rfl
  · decide
  · decide
  all_goals exact digit _ (Nat.mod_lt _ (by decide))

theorem escapeChar_cases (c : Char) :
    ((∀ e ∈ escapeChar c, e.toNat < 128) ∧ unitsKept c = [c]) ∨
      (escapeChar c = [c] ∧ isSurrogate c = false) := by
  unfold escapeChar
  split
  case h_8 =>
    split
    · -- a control character or a surrogate
      rename_i escaped
      refine .inl ⟨ascii_unitEscape _, ?_⟩
      unfold unitsKept
      split
      · rfl
      · rename_i plain
        simp only [isSurrogate, Bool.not_eq_true, Bool.or_eq_false_iff] at plain
        simp only [plain, Bool.or_false, decide_eq_true_eq] at escaped
        exact unitsOfChar_of_lt (by omega)
    · rename_i plain
      refine .inr ⟨rfl, ?_⟩
      simp only [Bool.or_eq_true, decide_eq_true_eq, not_or, Bool.not_eq_true] at plain
      simp [isSurrogate, plain.1.2, plain.2]
  all_goals exact .inl ⟨by simp, unitsKept_of_lt (by simp)⟩

theorem wellFormedUnits_escapeChar (c : Char) (rest : List Char) :
    wellFormedUnits (escapeChar c ++ rest) = escapeUnits (unitsKept c) ++ wellFormedUnits rest := by
  rcases escapeChar_cases c with ⟨ascii, kept⟩ | ⟨self, plain⟩
  · rw [wellFormedUnits_ascii_append ascii, kept, escapeUnits_singleton]
  · rw [self, List.singleton_append, wellFormedUnits_cons plain]
    unfold unitsKept
    rw [if_neg (by simp [plain])]
    by_cases small : c.toNat < 0x10000
    · rw [unitsOfChar_of_lt small, escapeUnits_singleton, self]
    · obtain ⟨h, l, split, high, low⟩ := unitsOfChar_of_ge (Nat.not_lt.mp small)
      rw [split, escapeUnits_pair high low, escapeUnits_nil]

theorem escapeUnits_unitsKept_append (c : Char) {ys : List Char}
    (apart : ∀ e ∈ ys.head?, isHighSurrogate c = true → isLowSurrogate e = false) :
    escapeUnits (unitsKept c ++ ys) = escapeUnits (unitsKept c) ++ escapeUnits ys := by
  have single : ∀ {x : Char}, (∀ e ∈ ys.head?, isHighSurrogate x = true → isLowSurrogate e = false) →
      escapeUnits (x :: ys) = escapeChar x ++ escapeUnits ys := by
    intro x alone
    cases ys with
    | nil => simp [escapeUnits]
    | cons e more =>
      have notPair : (isHighSurrogate x && isLowSurrogate e) = false := by
        cases hx : isHighSurrogate x
        · rfl
        · simp [alone e rfl hx]
      simp [escapeUnits, notPair]
  unfold unitsKept
  split
  · rw [List.singleton_append, escapeUnits_singleton]
    exact single apart
  · rename_i plain
    by_cases small : c.toNat < 0x10000
    · rw [unitsOfChar_of_lt small, List.singleton_append, escapeUnits_singleton]
      exact single apart
    · obtain ⟨h, l, split, high, low⟩ := unitsOfChar_of_ge (Nat.not_lt.mp small)
      rw [split, List.cons_append, List.cons_append, List.nil_append, escapeUnits_pair high low,
        escapeUnits_pair high low, escapeUnits_nil]
      rfl

theorem wellFormedUnits_escapeUnits (s : List Char) (rest : List Char) :
    wellFormedUnits (escapeUnits s ++ '"' :: rest) =
      escapeUnits (s.flatMap unitsKept) ++ '"' :: wellFormedUnits rest := by
  fun_induction escapeUnits s with
  | case1 =>
    rw [List.nil_append, List.flatMap_nil, escapeUnits_nil]
    exact wellFormedUnits_ascii_cons (c := '"') (by decide) rest
  | case2 c =>
    rw [wellFormedUnits_escapeChar, wellFormedUnits_ascii_cons (c := '"') (by decide)]
    simp
  | case3 c d more pair ih =>
    simp only [Bool.and_eq_true] at pair
    have keptC : unitsKept c = [c] := if_pos (by simp [isSurrogate, pair.1])
    have keptD : unitsKept d = [d] := if_pos (by simp [isSurrogate, pair.2])
    rw [List.cons_append, List.cons_append, wellFormedUnits_pair pair.1 pair.2, ih, List.flatMap_cons,
      List.flatMap_cons, keptC, keptD, List.singleton_append, List.singleton_append, escapeUnits_pair pair.1 pair.2]
    rfl
  | case4 c d more notPair ih =>
    have split : (c :: d :: more).flatMap unitsKept = unitsKept c ++ (d :: more).flatMap unitsKept :=
      List.flatMap_cons
    rw [List.append_assoc, wellFormedUnits_escapeChar, ih, split, escapeUnits_unitsKept_append c, List.append_assoc]
    -- the unit after `c` is a low surrogate only when `d` keeps one, and they are no pair
    intro e mem high
    obtain ⟨e', rest', heads, same⟩ := isLowSurrogate_head_unitsKept d
    rw [List.flatMap_cons, heads] at mem
    cases mem
    rw [same]
    simpa [high] using notPair

/-! ### Written values -/

mutual

/-- A value with its strings and keys as code units. -/
def toUnits : Json → Json
  | .str s => .str (Text.toUnits s)
  | .arr items => .arr (toUnitsItems items)
  | .obj members => .obj (toUnitsMembers members)
  | j => j

def toUnitsItems : List Json → List Json
  | [] => []
  | v :: rest => toUnits v :: toUnitsItems rest

def toUnitsMembers : List (String × Json) → List (String × Json)
  | [] => []
  | (k, v) :: rest => (Text.toUnits k, toUnits v) :: toUnitsMembers rest

end

theorem ascii_numberText (x : Binary64) : ∀ c ∈ (numberText x).toList, c.toNat < 128 := by
  intro c mem
  unfold numberText at mem
  split at mem
  · rename_i finite
    cases x with
    | finite neg u =>
      have := Binary64.toNat_of_isNumeralChar (Binary64.isNumeralChar_format_finite neg u c mem)
      omega
    | _ => cases finite
  · simp only [show "null".toList = ['n', 'u', 'l', 'l'] from rfl, List.mem_cons, List.not_mem_nil,
      or_false] at mem
    rcases mem with rfl | rfl | rfl | rfl <;> decide

theorem wellFormedUnits_quote (s : String) (rest : List Char) :
    wellFormedUnits ((quote s).toList ++ rest) = (quote (Text.toUnits s)).toList ++ wellFormedUnits rest := by
  simp only [quote, String.toList_ofList, List.cons_append, List.append_assoc]
  rw [wellFormedUnits_ascii_cons (c := '"') (by decide), List.nil_append, List.nil_append, wellFormedUnits_escapeUnits,
    Text.toList_toUnits]

/-! ### The characters of written values -/

theorem render_arr_toList (items : List Json) :
    (render (.arr items)).toList = '[' :: ((renderItems items).toList ++ [']']) := by
  simp [render]

theorem render_obj_toList (members : List (String × Json)) :
    (render (.obj members)).toList = '\x7b' :: ((renderMembers members).toList ++ ['\x7d']) := by
  simp [render]

theorem renderItems_cons_cons_toList (v w : Json) (more : List Json) :
    (renderItems (v :: w :: more)).toList = (render v).toList ++ ',' :: (renderItems (w :: more)).toList := by
  simp [renderItems]

theorem renderMembers_singleton_toList (k : String) (v : Json) :
    (renderMembers [(k, v)]).toList = (quote k).toList ++ ':' :: (render v).toList := by
  simp [renderMembers]

theorem renderMembers_cons_cons_toList (k : String) (v : Json) (w : String × Json) (more : List (String × Json)) :
    (renderMembers ((k, v) :: w :: more)).toList =
      (quote k).toList ++ ':' :: ((render v).toList ++ ',' :: (renderMembers (w :: more)).toList) := by
  simp [renderMembers]

mutual

theorem wellFormedUnits_render : ∀ (j : Json) (rest : List Char),
    wellFormedUnits ((render j).toList ++ rest) = (render (toUnits j)).toList ++ wellFormedUnits rest
  | .null, rest => wellFormedUnits_ascii_append (by simp [render]) rest
  | .bool true, rest => wellFormedUnits_ascii_append (by simp [render]) rest
  | .bool false, rest => wellFormedUnits_ascii_append (by simp [render]) rest
  | .num x, rest => wellFormedUnits_ascii_append (ascii_numberText x) rest
  | .str s, rest => wellFormedUnits_quote s rest
  | .arr items, rest => by
    rw [toUnits, render_arr_toList, render_arr_toList, List.cons_append, List.append_assoc, List.singleton_append,
      wellFormedUnits_ascii_cons (by decide), wellFormedUnits_renderItems items,
      wellFormedUnits_ascii_cons (c := ']') (by decide)]
    simp
  | .obj members, rest => by
    rw [toUnits, render_obj_toList, render_obj_toList, List.cons_append, List.append_assoc, List.singleton_append,
      wellFormedUnits_ascii_cons (by decide), wellFormedUnits_renderMembers members,
      wellFormedUnits_ascii_cons (c := '\x7d') (by decide)]
    simp

theorem wellFormedUnits_renderItems : ∀ (items : List Json) (rest : List Char),
    wellFormedUnits ((renderItems items).toList ++ rest) =
      (renderItems (toUnitsItems items)).toList ++ wellFormedUnits rest
  | [], rest => rfl
  | [v], rest => wellFormedUnits_render v rest
  | v :: w :: more, rest => by
    rw [toUnitsItems, toUnitsItems, renderItems_cons_cons_toList, renderItems_cons_cons_toList, List.append_assoc,
      List.cons_append, wellFormedUnits_render v, wellFormedUnits_ascii_cons (by decide),
      ← toUnitsItems, wellFormedUnits_renderItems (w :: more)]
    simp

theorem wellFormedUnits_renderMembers : ∀ (members : List (String × Json)) (rest : List Char),
    wellFormedUnits ((renderMembers members).toList ++ rest) =
      (renderMembers (toUnitsMembers members)).toList ++ wellFormedUnits rest
  | [], rest => rfl
  | [(k, v)], rest => by
    rw [toUnitsMembers, toUnitsMembers, renderMembers_singleton_toList, renderMembers_singleton_toList,
      List.append_assoc, List.cons_append, wellFormedUnits_quote, wellFormedUnits_ascii_cons (by decide),
      wellFormedUnits_render v]
    simp
  | (k, v) :: w :: more, rest => by
    rw [toUnitsMembers, renderMembers_cons_cons_toList, List.append_assoc, List.cons_append, List.append_assoc,
      List.cons_append, wellFormedUnits_quote, wellFormedUnits_ascii_cons (by decide), wellFormedUnits_render v,
      wellFormedUnits_ascii_cons (by decide), wellFormedUnits_renderMembers (w :: more)]
    obtain ⟨k', v'⟩ := w
    rw [toUnitsMembers, renderMembers_cons_cons_toList, ← toUnitsMembers]
    simp

end

theorem wellFormed_render (j : Json) : Text.wellFormed (render j) = render (toUnits j) := by
  apply String.ext
  have written := wellFormedUnits_render j []
  rw [List.append_nil] at written
  rw [Text.toList_wellFormed, written]
  simp [wellFormedUnits, codePoints]

end Json

end GuildRegistry
