import GuildRegistry.Proofs.Json.Numerals
import GuildRegistry.Proofs.Json.Units

/-! Reading back a written value.

The reader reads every written value back (`Json.parse?_render`), as `Json.reread` makes it:
strings, keys, booleans and `null` as they were, a finite number as the number its text names, any
other number as `null`, and the members of each object set again one after the other, so that the
keys that print as index keys come first in ascending order and a key written twice keeps one place.
-/

set_option autoImplicit false

namespace GuildRegistry.Json

open Binary64

variable {cs : Array Char} {p : Nat}

/-! ### Strings -/

theorem escapeChar_ne_nil (c : Char) : escapeChar c ≠ [] := by
  unfold escapeChar
  split <;> (try split) <;> simp [unitEscape]

theorem length_le_escapeUnits (s : List Char) : s.length ≤ (escapeUnits s).length := by
  fun_induction escapeUnits s with
  | case1 => simp
  | case2 c =>
    have := List.length_pos_iff.mpr (escapeChar_ne_nil c)
    simp only [List.length_singleton]
    omega
  | case3 c d more pair ih => simp; omega
  | case4 c d more single ih =>
    have := List.length_pos_iff.mpr (escapeChar_ne_nil c)
    simp only [List.length_append, List.length_cons] at ih ⊢
    omega

theorem Occurs.le_size {t : List Char} (here : Occurs cs p t) : p + t.length ≤ cs.size ∨ t = [] := by
  cases t with
  | nil => exact .inr rfl
  | cons c rest =>
    left
    obtain ⟨more, h⟩ := here
    have := congrArg List.length h
    simp only [List.length_append, List.length_cons, List.length_drop, Array.length_toList] at this
    simp only [List.length_cons]
    omega

theorem quote_toList (s : String) : (quote s).toList = '"' :: (escapeUnits s.toList ++ ['"']) := by
  simp [quote]

theorem scanString_quote (s : String) (here : Occurs cs p (quote s).toList) :
    scanString cs (cs.size + 1) (p + 1) [] = .ok (s, p + (quote s).toList.length) := by
  rw [quote_toList] at here ⊢
  obtain ⟨-, body⟩ := Occurs.cons_iff.mp here
  have fits := (Occurs.le_size here).resolve_right (by simp)
  have longer := length_le_escapeUnits s.toList
  simp only [List.length_cons, List.length_append, List.length_nil] at fits ⊢
  rw [scanString_escapeUnits s.toList (by omega) body]
  simp only [List.reverse_nil, List.nil_append, String.ofList_toList]
  congr 2
  omega

/-! ### Values -/

mutual

/-- The value the reader makes of a written value: a finite number reads back as the number its
text names, any other as `null`, and the members of every object are set again one by one. -/
def reread : Json → Json
  | .num x => if x.isFinite then .num (Binary64.ofNumeral x.format) else .null
  | .arr items => .arr (rereadItems items)
  | .obj members => .obj (Members.ofList (rereadMembers members))
  | j => j

def rereadItems : List Json → List Json
  | [] => []
  | v :: rest => reread v :: rereadItems rest

def rereadMembers : List (String × Json) → List (String × Json)
  | [] => []
  | (k, v) :: rest => (k, reread v) :: rereadMembers rest

end

theorem notBlank_of_getElem? {c : Char} (h : cs[p]? = some c) (notBlank : isJsonBlank c = false) :
    skipBlanks cs p = p :=
  skipBlanks_of_not_blank fun d found => by rw [h] at found; cases found; exact notBlank

theorem token_of_isDigit {c : Char} (digit : c.isDigit = true) : Token.ofChar c = .number := by
  have range := Text.toNat_of_isDigit digit
  unfold Token.ofChar
  split <;> simp_all

theorem format_head {x : Binary64} (finite : x.isFinite = true) :
    ∃ c rest, (format x).toList = c :: rest ∧ Token.ofChar c = .number ∧ isJsonBlank c = false := by
  cases x with
  | finite neg u =>
    rcases Nat.eq_zero_or_pos u with rfl | pos
    · exact ⟨'0', [], by cases neg <;> rfl, rfl, rfl⟩
    · obtain ⟨whole, frac, exp, text, shape⟩ := format_numeral neg pos
      obtain ⟨d, more, same⟩ := List.exists_cons_of_ne_nil shape.whole_ne
      have digit := shape.whole_digits d (by simp [same])
      have range := Text.toNat_of_isDigit digit
      cases neg with
      | true => exact ⟨'-', whole ++ fractionChars frac ++ exponentChars exp, by simp [text, numeralChars, signChars], rfl, rfl⟩
      | false =>
        refine ⟨d, more ++ fractionChars frac ++ exponentChars exp, by simp [text, numeralChars, signChars, same],
          token_of_isDigit digit, ?_⟩
        simp only [isJsonBlank, Bool.or_eq_false_iff, decide_eq_false_iff_not]
        refine ⟨⟨⟨?_, ?_⟩, ?_⟩, ?_⟩ <;> intro same <;> rw [same] at range <;> simp at range
  | _ => cases finite

theorem render_head (j : Json) :
    ∃ c rest, (render j).toList = c :: rest ∧ isJsonBlank c = false ∧ Token.ofChar c ≠ .closeArray := by
  cases j with
  | null => exact ⟨'n', _, rfl, rfl, by decide⟩
  | bool b => cases b <;> exact ⟨_, _, rfl, rfl, by decide⟩
  | num x =>
    unfold render numberText
    split
    · rename_i finite
      obtain ⟨c, rest, text, number, notBlank⟩ := format_head finite
      exact ⟨c, rest, text, notBlank, by rw [number]; decide⟩
    · exact ⟨'n', _, rfl, rfl, by decide⟩
  | str s => exact ⟨'"', _, by rw [render, quote_toList], rfl, by decide⟩
  | arr items => exact ⟨'[', _, render_arr_toList items, rfl, by decide⟩
  | obj members => exact ⟨'\x7b', _, render_obj_toList members, rfl, by decide⟩

theorem closes_of_getElem? {q : Nat} {c : Char} (h : cs[q]? = some c) (closing : c = ',' ∨ c = ']' ∨ c = '\x7d') :
    Closes cs q := by
  intro d found
  rw [h] at found
  cases found
  exact closing

theorem occurs_render_append {j : Json} {t : List Char} (here : Occurs cs p ((render j).toList ++ t)) :
    Occurs cs p (render j).toList ∧ Occurs cs (p + (render j).toList.length) t :=
  Occurs.append_iff.mp here

theorem length_render_pos (j : Json) : 0 < (render j).toList.length := by
  obtain ⟨c, rest, text, -⟩ := render_head j
  simp [text]

@[simp] theorem token_comma : Token.ofChar ',' = .comma := rfl
@[simp] theorem token_colon : Token.ofChar ':' = .colon := rfl
@[simp] theorem token_closeArray : Token.ofChar ']' = .closeArray := rfl
@[simp] theorem token_closeObject : Token.ofChar '\x7d' = .closeObject := rfl
@[simp] theorem token_string : Token.ofChar '"' = .string := rfl

theorem renderItems_head {items : List Json} (ne : items ≠ []) :
    ∃ c rest, (renderItems items).toList = c :: rest ∧ isJsonBlank c = false ∧ Token.ofChar c ≠ .closeArray := by
  match items, ne with
  | [v], _ => simpa [renderItems] using render_head v
  | v :: w :: more, _ =>
    obtain ⟨c, rest, text, notBlank, notClose⟩ := render_head v
    exact ⟨c, _, by rw [renderItems_cons_cons_toList, text]; rfl, notBlank, notClose⟩

theorem renderMembers_head {members : List (String × Json)} (ne : members ≠ []) :
    ∃ rest, (renderMembers members).toList = '"' :: rest := by
  match members, ne with
  | [(k, v)], _ => exact ⟨_, by rw [renderMembers_singleton_toList, quote_toList]; rfl⟩
  | (k, v) :: w :: more, _ => exact ⟨_, by rw [renderMembers_cons_cons_toList, quote_toList]; rfl⟩

mutual

theorem readValue_render : ∀ (j : Json) {p fuel : Nat}, Occurs cs p (render j).toList →
    Closes cs (p + (render j).toList.length) → (render j).toList.length < fuel →
    readValue cs fuel p = .ok (reread j, p + (render j).toList.length)
  | .null, p, fuel, here, _, enough => by
    obtain ⟨f, rfl⟩ : ∃ f, fuel = f + 1 := ⟨fuel - 1, by omega⟩
    have h0 : cs[p]? = some 'n' := (Occurs.cons_iff.mp here).1
    rw [readValue, notBlank_of_getElem? h0 rfl, tokenAt_of_getElem? h0]
    exact scanWord_of_occurs "null" .null here
  | .bool true, p, fuel, here, _, enough => by
    obtain ⟨f, rfl⟩ : ∃ f, fuel = f + 1 := ⟨fuel - 1, by omega⟩
    have h0 : cs[p]? = some 't' := (Occurs.cons_iff.mp here).1
    rw [readValue, notBlank_of_getElem? h0 rfl, tokenAt_of_getElem? h0]
    exact scanWord_of_occurs "true" (.bool true) here
  | .bool false, p, fuel, here, _, enough => by
    obtain ⟨f, rfl⟩ : ∃ f, fuel = f + 1 := ⟨fuel - 1, by omega⟩
    have h0 : cs[p]? = some 'f' := (Occurs.cons_iff.mp here).1
    rw [readValue, notBlank_of_getElem? h0 rfl, tokenAt_of_getElem? h0]
    exact scanWord_of_occurs "false" (.bool false) here
  | .num x, p, fuel, here, closes, enough => by
    obtain ⟨f, rfl⟩ : ∃ f, fuel = f + 1 := ⟨fuel - 1, by omega⟩
    unfold render numberText at here closes ⊢
    unfold reread
    by_cases finite : x.isFinite = true
    · -- a finite number is written as its text
      rw [if_pos finite] at here closes ⊢
      rw [if_pos finite]
      obtain ⟨c, rest, text, number, notBlank⟩ := format_head finite
      have h0 : cs[p]? = some c := by rw [text] at here; exact (Occurs.cons_iff.mp here).1
      rw [readValue, notBlank_of_getElem? h0 notBlank, tokenAt_of_getElem? h0, number]
      exact scanNumber_format finite here closes
    · -- any other as `null`
      rw [if_neg finite] at here closes ⊢
      rw [if_neg finite]
      have h0 : cs[p]? = some 'n' := (Occurs.cons_iff.mp here).1
      rw [readValue, notBlank_of_getElem? h0 rfl, tokenAt_of_getElem? h0]
      exact scanWord_of_occurs "null" .null here
  | .str s, p, fuel, here, _, enough => by
    obtain ⟨f, rfl⟩ : ∃ f, fuel = f + 1 := ⟨fuel - 1, by omega⟩
    unfold render at here ⊢
    have h0 : cs[p]? = some '"' := by rw [quote_toList] at here; exact (Occurs.cons_iff.mp here).1
    rw [readValue, notBlank_of_getElem? h0 rfl, tokenAt_of_getElem? h0]
    show Except.map _ (scanString cs (cs.size + 1) (p + 1) []) = _
    rw [scanString_quote s here]
    rfl
  | .arr items, p, fuel, here, _, enough => by
    obtain ⟨f, rfl⟩ : ∃ f, fuel = f + 1 := ⟨fuel - 1, by omega⟩
    rw [render_arr_toList] at here enough ⊢
    obtain ⟨h0, inside⟩ := Occurs.cons_iff.mp here
    rw [readValue, notBlank_of_getElem? h0 rfl, tokenAt_of_getElem? h0]
    cases items with
    | nil =>
      have h1 : cs[p + 1]? = some ']' := by simpa [renderItems, Occurs.singleton_iff] using inside
      show (if (tokenAt cs (skipBlanks cs (p + 1)) == .closeArray) = true then _ else _) = _
      rw [notBlank_of_getElem? h1 rfl, tokenAt_of_getElem? h1]
      rfl
    | cons v more =>
      -- the items are read from the first one, which is no closing bracket
      have read := readItems_render (v :: more) (by simp) [] inside
        (show (renderItems (v :: more)).toList.length + 1 < f by
          simp only [List.length_cons, List.length_append, List.length_nil] at enough; omega)
      obtain ⟨c, rest, text, notBlank, notClose⟩ := @renderItems_head (v :: more) (by simp)
      have h1 : cs[p + 1]? = some c := by rw [text] at inside; exact (Occurs.cons_iff.mp inside).1
      show (if (tokenAt cs (skipBlanks cs (p + 1)) == .closeArray) = true then _ else _) = _
      rw [notBlank_of_getElem? h1 notBlank, tokenAt_of_getElem? h1, if_neg (by simpa using notClose), read]
      simp only [List.reverse_nil, List.nil_append, reread, List.length_cons, List.length_append, List.length_nil]
      congr 2
      omega
  | .obj members, p, fuel, here, _, enough => by
    obtain ⟨f, rfl⟩ : ∃ f, fuel = f + 1 := ⟨fuel - 1, by omega⟩
    rw [render_obj_toList] at here enough ⊢
    obtain ⟨h0, inside⟩ := Occurs.cons_iff.mp here
    rw [readValue, notBlank_of_getElem? h0 rfl, tokenAt_of_getElem? h0]
    by_cases empty : members = []
    · subst empty
      have h1 : cs[p + 1]? = some '\x7d' := by simpa [renderMembers, Occurs.singleton_iff] using inside
      show (match tokenAt cs (skipBlanks cs (p + 1)) with
        | .closeObject => _ | .string => _ | _ => _) = _
      rw [notBlank_of_getElem? h1 rfl, tokenAt_of_getElem? h1, token_closeObject]
      rfl
    · -- the members are read from the quote of the first key
      have read := readMembers_render members empty [] inside
        (show (renderMembers members).toList.length < f by
          simp only [List.length_cons, List.length_append, List.length_nil] at enough; omega)
      obtain ⟨rest, text⟩ := renderMembers_head empty
      have h1 : cs[p + 1]? = some '"' := by rw [text] at inside; exact (Occurs.cons_iff.mp inside).1
      show (match tokenAt cs (skipBlanks cs (p + 1)) with
        | .closeObject => _ | .string => _ | _ => _) = _
      rw [notBlank_of_getElem? h1 rfl, tokenAt_of_getElem? h1, token_string]
      dsimp only
      rw [read]
      simp only [reread, List.length_cons, List.length_append, List.length_nil]
      congr 2
      omega

theorem readItems_render : ∀ (items : List Json), items ≠ [] → ∀ (acc : List Json) {p fuel : Nat},
    Occurs cs p ((renderItems items).toList ++ [']']) → (renderItems items).toList.length + 1 < fuel →
    readItems cs fuel acc p = .ok (.arr (acc.reverse ++ rereadItems items), p + (renderItems items).toList.length + 1)
  | [], ne, _, _, _, _, _ => absurd rfl ne
  | [v], _, acc, p, fuel, here, enough => by
    obtain ⟨f, rfl⟩ : ∃ f, fuel = f + 1 := ⟨fuel - 1, by omega⟩
    rw [show (renderItems [v]).toList = (render v).toList by simp [renderItems]] at here enough ⊢
    obtain ⟨item, close⟩ := occurs_render_append here
    have h1 := Occurs.singleton_iff.mp close
    rw [readItems, readValue_render v item (closes_of_getElem? h1 (by simp)) (by omega)]
    dsimp only
    rw [notBlank_of_getElem? h1 rfl, tokenAt_of_getElem? h1, token_closeArray]
    simp [rereadItems]
  | v :: w :: more, _, acc, p, fuel, here, enough => by
    obtain ⟨f, rfl⟩ : ∃ f, fuel = f + 1 := ⟨fuel - 1, by omega⟩
    rw [renderItems_cons_cons_toList] at here enough ⊢
    rw [List.append_assoc, List.cons_append] at here
    obtain ⟨item, after⟩ := occurs_render_append here
    obtain ⟨h1, rest⟩ := Occurs.cons_iff.mp after
    have first := length_render_pos v
    simp only [List.length_append, List.length_cons] at enough
    rw [readItems, readValue_render v item (closes_of_getElem? h1 (by simp)) (by omega)]
    dsimp only
    rw [notBlank_of_getElem? h1 rfl, tokenAt_of_getElem? h1, token_comma]
    dsimp only
    rw [readItems_render (w :: more) (by simp) (reread v :: acc) rest (by omega)]
    simp only [List.reverse_cons, List.append_assoc, List.singleton_append, rereadItems, List.length_append,
      List.length_cons]
    congr 2
    omega

theorem readMembers_render : ∀ (members : List (String × Json)), members ≠ [] → ∀ (acc : List (String × Json))
    {p fuel : Nat}, Occurs cs p ((renderMembers members).toList ++ ['\x7d']) → (renderMembers members).toList.length < fuel →
    readMembers cs fuel acc (p + 1) =
      .ok (.obj ((rereadMembers members).foldl (fun ms m => Members.set ms m.1 m.2) acc),
        p + (renderMembers members).toList.length + 1)
  | [], ne, _, _, _, _, _ => absurd rfl ne
  | [(k, v)], _, acc, p, fuel, here, enough => by
    obtain ⟨f, rfl⟩ : ∃ f, fuel = f + 1 := ⟨fuel - 1, by omega⟩
    rw [renderMembers_singleton_toList] at here enough ⊢
    rw [List.append_assoc, List.cons_append] at here
    obtain ⟨key, afterKey⟩ := Occurs.append_iff.mp here
    obtain ⟨colon, afterColon⟩ := Occurs.cons_iff.mp afterKey
    obtain ⟨item, close⟩ := occurs_render_append afterColon
    have h1 := Occurs.singleton_iff.mp close
    simp only [List.length_append, List.length_cons] at enough
    rw [readMembers, scanString_quote k key]
    dsimp only
    rw [notBlank_of_getElem? colon rfl, tokenAt_of_getElem? colon, token_colon]
    simp only [bne_self_eq_false, Bool.false_eq_true, if_false]
    rw [readValue_render v item (closes_of_getElem? h1 (by simp)) (by omega)]
    dsimp only
    rw [notBlank_of_getElem? h1 rfl, tokenAt_of_getElem? h1, token_closeObject]
    simp only [rereadMembers, List.foldl_cons, List.foldl_nil, List.length_append, List.length_cons]
    congr 2
    omega
  | (k, v) :: w :: more, _, acc, p, fuel, here, enough => by
    obtain ⟨f, rfl⟩ : ∃ f, fuel = f + 1 := ⟨fuel - 1, by omega⟩
    rw [renderMembers_cons_cons_toList] at here enough ⊢
    rw [List.append_assoc, List.cons_append, List.append_assoc, List.cons_append] at here
    obtain ⟨key, afterKey⟩ := Occurs.append_iff.mp here
    obtain ⟨colon, afterColon⟩ := Occurs.cons_iff.mp afterKey
    obtain ⟨item, after⟩ := occurs_render_append afterColon
    obtain ⟨comma, next⟩ := Occurs.cons_iff.mp after
    obtain ⟨rest, text⟩ := @renderMembers_head (w :: more) (by simp)
    have quote : cs[p + (quote k).toList.length + 1 + (render v).toList.length + 1]? = some '"' := by
      rw [text] at next; exact (Occurs.cons_iff.mp next).1
    simp only [List.length_append, List.length_cons] at enough
    rw [readMembers, scanString_quote k key]
    dsimp only
    rw [notBlank_of_getElem? colon rfl, tokenAt_of_getElem? colon, token_colon]
    simp only [bne_self_eq_false, Bool.false_eq_true, if_false]
    rw [readValue_render v item (closes_of_getElem? comma (by simp)) (by omega)]
    dsimp only
    rw [notBlank_of_getElem? comma rfl, tokenAt_of_getElem? comma, token_comma]
    dsimp only
    rw [notBlank_of_getElem? quote rfl, tokenAt_of_getElem? quote, token_string]
    simp only [beq_self_eq_true, if_true]
    rw [readMembers_render (w :: more) (by simp) _ next (by omega)]
    simp only [rereadMembers, List.foldl_cons, List.length_append, List.length_cons]
    congr 2
    omega

end

theorem parseText_render (j : Json) : parseText (render j) = .ok (reread j) := by
  have here : Occurs (render j).toList.toArray 0 (render j).toList := by simp [Occurs]
  have closes : Closes (render j).toList.toArray (0 + (render j).toList.length) := by
    intro c found
    simp at found
  have read := readValue_render j here closes
    (show (render j).toList.length < 2 * (render j).toList.toArray.size + 2 by simp; omega)
  unfold parseText
  dsimp only
  rw [read]
  dsimp only
  rw [skipBlanks, dif_neg (by simp)]
  simp

theorem parse?_render (j : Json) : parse? (render j) = some (reread j) := by
  simp [parse?, parseText_render]

end GuildRegistry.Json
