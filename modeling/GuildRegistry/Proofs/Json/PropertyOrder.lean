import GuildRegistry.Json.PropertyOrder
import GuildRegistry.Proofs.Text.Digits
import Mathlib.Data.List.Perm.Basic

/-! Property order as a normal form.

A member list built by `PropertyOrder.ofList` from pairs with distinct keys holds the index keys
first, ascending, and then the other keys in the order they came. So the list depends only on which
index members there are and on the order of the others (`ofList_eq_of_perm`), and building it again
changes nothing (`ofList_ofList`).
-/

set_option autoImplicit false

open scoped List

namespace GuildRegistry.PropertyOrder

theorem toList_of_indexOfKey? {k : String} {n : Nat} (h : indexOfKey? k = some n) :
    k.toList = Nat.toDigits 10 n := by
  unfold indexOfKey? at h
  split at h
  · rename_i same
    cases h
    rw [same]
    rfl
  · rename_i c rest _ same
    split at h
    · rename_i digits
      dsimp only at h
      split at h
      · cases h
        obtain ⟨low, high, restDigits⟩ := digits
        have first : c.isDigit = true := by
          simp only [Char.isDigit, Bool.and_eq_true, decide_eq_true_eq]
          exact ⟨Nat.le_trans (by decide) low, high⟩
        have all : ∀ d ∈ c :: rest, d.isDigit = true := by
          intro d mem
          rcases List.mem_cons.mp mem with rfl | mem
          · exact first
          · exact List.all_eq_true.mp restDigits d mem
        rw [same, show '0'.toNat = 48 from rfl, Text.foldl_digits,
          Text.toDigits_ofDigitChars all (fun zero => by rw [zero] at low; exact absurd low (by decide))]
      · cases h
    · cases h
  · cases h

theorem indexOfKey?_injective {k k' : String} {n : Nat} (h : indexOfKey? k = some n)
    (h' : indexOfKey? k' = some n) : k = k' :=
  String.toList_inj.mp ((toList_of_indexOfKey? h).trans (toList_of_indexOfKey? h').symm)

/-- Whether a key is a canonical array index. -/
def isIndex (k : String) : Bool := (indexOfKey? k).isSome

/-- Whether a key may stand before another in property order: index keys before the other
keys, ascending among themselves. -/
def Before (k k' : String) : Prop :=
  match indexOfKey? k, indexOfKey? k' with
  | some m, some m' => m < m'
  | some _, none => True
  | none, some _ => False
  | none, none => True

theorem Before.trans {k k' k'' : String} (first : Before k k') (second : Before k' k'') : Before k k'' := by
  unfold Before at *
  rcases hk : indexOfKey? k with _ | m <;> rcases hk' : indexOfKey? k' with _ | m' <;>
    rcases hk'' : indexOfKey? k'' with _ | m'' <;> simp only [hk, hk', hk''] at first second ⊢
  omega

variable {α : Type}

/-- Members in property order. -/
def Ordered (ms : List (String × α)) : Prop := ms.Pairwise fun a b => Before a.1 b.1

theorem insertIndexed_eq (n : Nat) (k : String) (v : α) (ms : List (String × α)) :
    ∃ j, insertIndexed n k v ms = ms.take j ++ (k, v) :: ms.drop j := by
  induction ms with
  | nil => exact ⟨0, rfl⟩
  | cons m rest ih =>
    unfold insertIndexed
    split
    · split
      · obtain ⟨j, hj⟩ := ih
        exact ⟨j + 1, by rw [hj]; rfl⟩
      · exact ⟨0, rfl⟩
    · exact ⟨0, rfl⟩

theorem mem_insertIndexed {n : Nat} {k : String} {v : α} {ms : List (String × α)} {p : String × α} :
    p ∈ insertIndexed n k v ms ↔ p = (k, v) ∨ p ∈ ms := by
  obtain ⟨j, hj⟩ := insertIndexed_eq n k v ms
  rw [hj, List.mem_append, List.mem_cons, or_left_comm, ← List.mem_append, List.take_append_drop]

theorem insertIndexed_ordered {n : Nat} {k : String} (v : α) (hk : indexOfKey? k = some n)
    {ms : List (String × α)} (fresh : ∀ p ∈ ms, indexOfKey? p.1 ≠ some n) (ordered : Ordered ms) :
    Ordered (insertIndexed n k v ms) := by
  induction ms with
  | nil => exact List.pairwise_singleton _ _
  | cons m rest ih =>
    obtain ⟨head, tail⟩ := List.pairwise_cons.mp ordered
    have restFresh : ∀ p ∈ rest, indexOfKey? p.1 ≠ some n := fun p h => fresh p (by simp [h])
    -- the new key may stand before `m`, and so before everything after it
    have before : Before k m.1 → Ordered ((k, v) :: m :: rest) := fun first =>
      List.pairwise_cons.mpr ⟨fun p mem => by
        rcases List.mem_cons.mp mem with rfl | mem
        · exact first
        · exact first.trans (head p mem), ordered⟩
    unfold insertIndexed
    split
    · rename_i m' index
      split
      · rename_i below
        refine List.pairwise_cons.mpr ⟨fun p mem => ?_, ih restFresh tail⟩
        rcases mem_insertIndexed.mp mem with rfl | mem
        · simp only [Before, index, hk]; exact below
        · exact head p mem
      · rename_i above
        have other : m' ≠ n := fun same => fresh m (by simp) (same ▸ index)
        exact before (by simp only [Before, index, hk]; omega)
    · rename_i none
      exact before (by simp only [Before, none, hk])

/-- The keys of members. -/
def keys (ms : List (String × α)) : List String := ms.map (·.1)

/-- Members with the keys that are not array indices. -/
def others (ms : List (String × α)) : List (String × α) := ms.filter fun m => !isIndex m.1

/-- Members with the keys that are array indices. -/
def indexed (ms : List (String × α)) : List (String × α) := ms.filter fun m => isIndex m.1

theorem Ordered.eq_indexed_append {ms : List (String × α)} (ordered : Ordered ms) :
    ms = indexed ms ++ others ms := by
  induction ms with
  | nil => rfl
  | cons m rest ih =>
    obtain ⟨head, tail⟩ := List.pairwise_cons.mp ordered
    unfold indexed others at *
    by_cases index : isIndex m.1 = true
    · simp only [List.filter_cons, index, if_true, Bool.not_true, Bool.false_eq_true, if_false,
        List.cons_append]
      rw [← ih tail]
    · -- after a key that is no index, no index key can follow
      have all_others : ∀ p ∈ m :: rest, isIndex p.1 = false := by
        intro p mem
        rcases List.mem_cons.mp mem with rfl | mem
        · simpa using index
        have := head p mem
        unfold Before at this
        unfold isIndex at index ⊢
        revert this
        cases hm : indexOfKey? m.1 <;> cases hp : indexOfKey? p.1 <;> simp_all
      rw [List.filter_eq_nil_iff.mpr (fun p mem => by simp [all_others p mem]),
        List.filter_eq_self.mpr (fun p mem => by simp [all_others p mem]), List.nil_append]

theorem any_key_eq_false {ms : List (String × α)} {k : String} (fresh : k ∉ keys ms) :
    (ms.any fun m => m.1 == k) = false := by
  simp only [List.any_eq_false, beq_iff_eq]
  intro m mem same
  exact fresh (same ▸ List.mem_map_of_mem mem)

theorem set_fresh_index {ms : List (String × α)} {k : String} {n : Nat} (v : α) (fresh : k ∉ keys ms)
    (hk : indexOfKey? k = some n) : set ms k v = insertIndexed n k v ms := by
  unfold set
  rw [any_key_eq_false fresh, hk]
  rfl

theorem set_fresh_other {ms : List (String × α)} {k : String} (v : α) (fresh : k ∉ keys ms)
    (hk : indexOfKey? k = none) : set ms k v = ms ++ [(k, v)] := by
  unfold set
  rw [any_key_eq_false fresh, hk]
  rfl

theorem set_fresh_spec {ms : List (String × α)} {k : String} (v : α) (fresh : k ∉ keys ms)
    (ordered : Ordered ms) :
    Ordered (set ms k v) ∧ set ms k v ~ ms ++ [(k, v)] ∧ others (set ms k v) = others ms ++ others [(k, v)] := by
  cases hk : indexOfKey? k with
  | some n =>
    -- no member has the index of the new key, since the index names the key
    have distinct : ∀ p ∈ ms, indexOfKey? p.1 ≠ some n := fun p mem same =>
      fresh (indexOfKey?_injective same hk ▸ List.mem_map_of_mem mem)
    have index : isIndex k = true := by simp [isIndex, hk]
    obtain ⟨j, hj⟩ := insertIndexed_eq n k v ms
    rw [set_fresh_index v fresh hk]
    refine ⟨insertIndexed_ordered v hk distinct ordered, ?_, ?_⟩
    · rw [hj]
      calc ms.take j ++ (k, v) :: ms.drop j ~ (k, v) :: (ms.take j ++ ms.drop j) := List.perm_middle
        _ = (k, v) :: ms := by rw [List.take_append_drop]
        _ ~ ms ++ [(k, v)] := List.perm_append_singleton _ _ |>.symm
    · rw [hj]
      unfold others
      rw [List.filter_append, List.filter_cons_of_neg (by simp [index]), ← List.filter_append,
        List.take_append_drop]
      simp [index]
  | none =>
    have other : isIndex k = false := by simp [isIndex, hk]
    rw [set_fresh_other v fresh hk]
    refine ⟨?_, List.Perm.refl _, by simp [others, List.filter_append]⟩
    refine List.pairwise_append.mpr ⟨ordered, List.pairwise_singleton _ _, fun a _ b mem => ?_⟩
    rw [List.mem_singleton.mp mem]
    unfold Before
    rw [hk]
    split <;> trivial

theorem foldl_set_spec (acc ys : List (String × α)) (ordered : Ordered acc)
    (nodup : (keys (acc ++ ys)).Nodup) :
    Ordered (ys.foldl (fun ms p => set ms p.1 p.2) acc) ∧
      ys.foldl (fun ms p => set ms p.1 p.2) acc ~ acc ++ ys ∧
      others (ys.foldl (fun ms p => set ms p.1 p.2) acc) = others acc ++ others ys := by
  induction ys generalizing acc with
  | nil => exact ⟨ordered, by simp, by simp [others]⟩
  | cons p ys ih =>
    have fresh : p.1 ∉ keys acc := by
      intro mem
      simp only [keys, List.map_append, List.map_cons] at nodup
      exact (List.nodup_append.mp nodup).2.2 _ mem _ (by simp) rfl
    obtain ⟨stepOrdered, stepPerm, stepOthers⟩ := set_fresh_spec p.2 fresh ordered
    have keysPerm : keys (set acc p.1 p.2 ++ ys) ~ keys (acc ++ p :: ys) := by
      unfold keys
      apply List.Perm.map
      calc set acc p.1 p.2 ++ ys ~ acc ++ [(p.1, p.2)] ++ ys := stepPerm.append_right ys
        _ = acc ++ p :: ys := by simp
    obtain ⟨o, perm, oth⟩ := ih (set acc p.1 p.2) stepOrdered (keysPerm.nodup_iff.mpr nodup)
    refine ⟨o, perm.trans ?_, ?_⟩
    · calc set acc p.1 p.2 ++ ys ~ acc ++ [(p.1, p.2)] ++ ys := stepPerm.append_right ys
        _ = acc ++ p :: ys := by simp
    · rw [List.foldl_cons, oth, stepOthers, List.append_assoc,
        show p :: ys = [p] ++ ys from rfl]
      simp only [others, List.filter_append]

theorem Perm.keys_nodup {xs ys : List (String × α)} (perm : xs ~ ys) (nodup : (keys xs).Nodup) :
    (keys ys).Nodup :=
  (perm.map Prod.fst).nodup_iff.mp nodup

theorem ofList_spec {xs : List (String × α)} (nodup : (keys xs).Nodup) :
    Ordered (ofList xs) ∧ ofList xs ~ xs ∧ others (ofList xs) = others xs := by
  obtain ⟨ordered, perm, same⟩ := foldl_set_spec [] xs List.Pairwise.nil (by simpa using nodup)
  unfold ofList
  rw [List.nil_append] at perm
  exact ⟨ordered, perm, by rw [same]; rfl⟩

theorem Ordered.eq_of_perm {ms ms' : List (String × α)} (ordered : Ordered ms)
    (ordered' : Ordered ms') (perm : ms ~ ms') (same : others ms = others ms') : ms = ms' := by
  rw [ordered.eq_indexed_append, ordered'.eq_indexed_append, same]
  congr 1
  apply @List.Perm.eq_of_pairwise _ (fun a b => Before a.1 b.1)
  · -- two index keys never both stand before each other
    intro a b ina inb ab ba
    have ia : isIndex a.1 = true := (List.mem_filter.mp ina).2
    have ib : isIndex b.1 = true := (List.mem_filter.mp inb).2
    unfold Before at ab ba
    unfold isIndex at ia ib
    exfalso
    revert ab ba
    cases ha : indexOfKey? a.1 <;> cases hb : indexOfKey? b.1 <;> simp_all
    omega
  · exact ordered.sublist (List.filter_sublist)
  · exact ordered'.sublist (List.filter_sublist)
  · exact perm.filter _

theorem ofList_eq_of_perm {xs ys : List (String × α)} (nodup : (keys xs).Nodup)
    (perm : xs ~ ys) (same : others xs = others ys) : ofList xs = ofList ys := by
  obtain ⟨ordered, permX, othersX⟩ := ofList_spec nodup
  obtain ⟨ordered', permY, othersY⟩ := ofList_spec (Perm.keys_nodup perm nodup)
  exact ordered.eq_of_perm ordered' (permX.trans (perm.trans permY.symm))
    (othersX.trans (same.trans othersY.symm))

theorem ofList_ofList {xs : List (String × α)} (nodup : (keys xs).Nodup) :
    ofList (ofList xs) = ofList xs := by
  obtain ⟨-, perm, same⟩ := ofList_spec nodup
  exact ofList_eq_of_perm (Perm.keys_nodup perm.symm nodup) perm same

theorem ofList_map_value {β : Type} (f : α → β) {xs : List (String × α)} (nodup : (keys xs).Nodup) :
    ofList (xs.map fun p => (p.1, f p.2)) = (ofList xs).map fun p => (p.1, f p.2) := by
  have sameKeys : ∀ ms : List (String × α), keys (ms.map fun p => (p.1, f p.2)) = keys ms := by
    intro ms; simp [keys]
  have othersMap : ∀ ms : List (String × α),
      others (ms.map fun p => (p.1, f p.2)) = (others ms).map fun p => (p.1, f p.2) := by
    intro ms; simp [others, List.filter_map, Function.comp_def]
  obtain ⟨ordered, perm, same⟩ := ofList_spec nodup
  obtain ⟨ordered', perm', same'⟩ := ofList_spec (by rw [sameKeys]; exact nodup)
  have mapped : Ordered ((ofList xs).map fun p => (p.1, f p.2)) := List.pairwise_map.mpr ordered
  apply ordered'.eq_of_perm mapped
  · exact perm'.trans (perm.map _).symm
  · rw [same', othersMap, othersMap, same]

/-! ### One key at a time -/

section OneKey

variable {ms : List (String × α)} {k key : String}

theorem set_eq_of_fresh (v : α) (fresh : k ∉ keys ms) : ∃ j, set ms k v = ms.take j ++ (k, v) :: ms.drop j := by
  cases hk : indexOfKey? k with
  | some n =>
    rw [set_fresh_index v fresh hk]
    exact insertIndexed_eq n k v ms
  | none => exact ⟨ms.length, by simp [set_fresh_other v fresh hk]⟩

theorem set_perm_of_fresh (v : α) (fresh : k ∉ keys ms) : set ms k v ~ ms ++ [(k, v)] := by
  obtain ⟨j, hj⟩ := set_eq_of_fresh v fresh
  rw [hj]
  calc ms.take j ++ (k, v) :: ms.drop j ~ (k, v) :: (ms.take j ++ ms.drop j) := List.perm_middle
    _ = (k, v) :: ms := by rw [List.take_append_drop]
    _ ~ ms ++ [(k, v)] := List.perm_append_singleton _ _ |>.symm

theorem set_of_mem (v : α) (present : k ∈ keys ms) :
    set ms k v = ms.map fun m => if m.1 == k then (m.1, v) else m := by
  have any : (ms.any fun m => m.1 == k) = true := by
    obtain ⟨m, mem, rfl⟩ := List.mem_map.mp present
    exact List.any_eq_true.mpr ⟨m, mem, beq_self_eq_true _⟩
  unfold set
  rw [if_pos any]

theorem find?_replace (v : α) (k key : String) :
    ((fun m : String × α => m.1 == key) ∘ fun m => if m.1 == k then (m.1, v) else m) = fun m => m.1 == key := by
  funext m
  simp only [Function.comp_apply]
  split <;> rfl

theorem keys_set_of_mem (v : α) (present : k ∈ keys ms) : keys (set ms k v) = keys ms := by
  rw [set_of_mem v present]
  unfold keys
  rw [List.map_map]
  congr 1
  funext m
  simp only [Function.comp_apply]
  split <;> rfl

theorem mem_keys_set (v : α) : key ∈ keys (set ms k v) ↔ key = k ∨ key ∈ keys ms := by
  by_cases present : k ∈ keys ms
  · rw [keys_set_of_mem v present]
    exact ⟨Or.inr, fun either => either.elim (fun same => same ▸ present) id⟩
  · unfold keys at present ⊢
    rw [((set_perm_of_fresh v present).map (·.1)).mem_iff]
    simp [or_comm]

theorem nodup_keys_set (v : α) (nodup : (keys ms).Nodup) : (keys (set ms k v)).Nodup := by
  by_cases present : k ∈ keys ms
  · rwa [keys_set_of_mem v present]
  · unfold keys at present nodup ⊢
    rw [((set_perm_of_fresh v present).map (·.1)).nodup_iff, List.map_append, List.map_singleton,
      List.nodup_append]
    refine ⟨nodup, by simp, fun a mem b single same => ?_⟩
    rw [List.mem_singleton] at single
    rw [same, single] at mem
    exact present mem

theorem find?_eq_none_of_fresh (fresh : k ∉ keys ms) : ms.find? (fun m => m.1 == k) = none := by
  simp only [List.find?_eq_none, beq_iff_eq]
  intro m mem same
  exact fresh (same ▸ List.mem_map_of_mem mem)

theorem get?_of_mem {p : String × α} (nodup : (keys ms).Nodup) (mem : p ∈ ms) : get? ms p.1 = some p.2 := by
  induction ms with
  | nil => cases mem
  | cons m rest ih =>
    simp only [keys, List.map_cons, List.nodup_cons] at nodup
    rcases List.mem_cons.mp mem with rfl | inRest
    · simp [get?]
    · have other : m.1 ≠ p.1 := fun same => nodup.1 (same ▸ List.mem_map_of_mem inRest)
      unfold get? at ih ⊢
      rw [List.find?_cons_of_neg (by simpa using other)]
      exact ih nodup.2 inRest

theorem get?_set_self (v : α) : get? (set ms k v) k = some v := by
  by_cases present : k ∈ keys ms
  · have any : (ms.any fun m => m.1 == k) = true := by
      obtain ⟨m, mem, rfl⟩ := List.mem_map.mp present
      exact List.any_eq_true.mpr ⟨m, mem, beq_self_eq_true _⟩
    obtain ⟨m, found⟩ := Option.isSome_iff_exists.mp (List.find?_isSome.mpr (List.any_eq_true.mp any))
    have sameKey : m.1 = k := by simpa using List.find?_some found
    unfold get?
    rw [set_of_mem v present, List.find?_map, find?_replace, found]
    simp [sameKey]
  · obtain ⟨j, hj⟩ := set_eq_of_fresh v present
    have before : (ms.take j).find? (fun m => m.1 == k) = none :=
      find?_eq_none_of_fresh fun mem => present (((List.take_sublist j ms).map (·.1)).subset mem)
    unfold get?
    rw [hj, List.find?_append, before]
    simp

theorem get?_set_of_ne (v : α) (ne : key ≠ k) : get? (set ms k v) key = get? ms key := by
  by_cases present : k ∈ keys ms
  · unfold get?
    rw [set_of_mem v present, List.find?_map, find?_replace]
    cases found : ms.find? (fun m => m.1 == key) with
    | none => rfl
    | some m =>
      have sameKey : m.1 = key := by simpa using List.find?_some found
      simp [sameKey, ne]
  · obtain ⟨j, hj⟩ := set_eq_of_fresh v present
    unfold get?
    rw [hj, List.find?_append, List.find?_cons_of_neg (by simpa using Ne.symm ne), ← List.find?_append,
      List.take_append_drop]

end OneKey

end GuildRegistry.PropertyOrder
