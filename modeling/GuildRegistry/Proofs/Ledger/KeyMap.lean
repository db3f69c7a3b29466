import GuildRegistry.Ledger.Basic
import GuildRegistry.Proofs.Json.PropertyOrder
import GuildRegistry.Proofs.Number.Reading
import Mathlib.Data.List.Nodup

/-! Number-keyed maps and their stored form.

Keys are compared by `sameValueZero`, which is equality of stored keys (`-0` stored as `+0`). A map
is valid when its keys are distinct stored keys that binary64 can hold. Writing a valid map as a
text-keyed table and reading it back (`reread`) keeps its entries and the order of the keys that are
no array index, and only moves the index keys into ascending order.
-/

set_option autoImplicit false

open scoped List

namespace GuildRegistry

namespace KeyMap

@[simp] theorem normalizeKey_nan : normalizeKey .nan = .nan := rfl

@[simp] theorem normalizeKey_infinity (s : Bool) : normalizeKey (.infinity s) = .infinity s := rfl

/-- A zero is stored as `+0`; every other finite value as it is. -/
@[simp] theorem normalizeKey_finite (s : Bool) (u : Nat) :
    normalizeKey (.finite s u) = .finite (if u = 0 then false else s) u := by
  cases s <;> cases u <;> rfl

end KeyMap

namespace Binary64

theorem sameValueZero_iff {a b : Binary64} :
    sameValueZero a b = true ↔ KeyMap.normalizeKey a = KeyMap.normalizeKey b := by
  cases a with
  | nan => cases b <;> simp [sameValueZero, isNaN, eq, compare?]
  | infinity s =>
    cases b with
    | nan => simp [sameValueZero, isNaN, eq, compare?]
    | infinity s' => cases s <;> cases s' <;> decide
    | finite s' u' => cases s <;> simp [sameValueZero, isNaN, eq, compare?]
  | finite s u =>
    cases b with
    | nan => simp [sameValueZero, isNaN, eq, compare?]
    | infinity s' => cases s' <;> simp [sameValueZero, isNaN, eq, compare?]
    | finite s' u' =>
      simp only [sameValueZero, isNaN, eq, compare?, KeyMap.normalizeKey_finite, finite.injEq]
      by_cases zero : u = 0 ∧ u' = 0
      · simp [zero]
      · rw [if_neg zero]
        cases s <;> cases s' <;> simp <;> omega

end Binary64

namespace KeyMap

variable {α β : Type}

@[simp] theorem normalizeKey_normalizeKey (k : Binary64) : normalizeKey (normalizeKey k) = normalizeKey k := by
  cases k <;> simp

theorem sameValueZero_normalizeKey (k : Binary64) : Binary64.sameValueZero (normalizeKey k) k = true :=
  Binary64.sameValueZero_iff.mpr (normalizeKey_normalizeKey k)

/-- A key as a map stores it: `+0` for a zero, and a value binary64 can hold. -/
def StoredKey (k : Binary64) : Prop := normalizeKey k = k ∧ k.Representable

theorem storedKey_normalizeKey {k : Binary64} (h : k.Representable) : StoredKey (normalizeKey k) := by
  refine ⟨normalizeKey_normalizeKey k, ?_⟩
  cases k with
  | nan => trivial
  | infinity s => trivial
  | finite s u => simpa [Binary64.Representable] using h

theorem sameValueZero_stored {k : Binary64} (stored : StoredKey k) (k' : Binary64) :
    Binary64.sameValueZero k k' = true ↔ k = normalizeKey k' := by
  rw [Binary64.sameValueZero_iff, stored.1]

/-- A map whose keys are distinct stored keys. -/
structure Valid (m : KeyMap α) : Prop where
  nodup : m.keys.Nodup
  stored : ∀ k ∈ m.keys, StoredKey k

theorem Valid.stored_of_mem {m : KeyMap α} (valid : Valid m) {e : Binary64 × α} (mem : e ∈ m.entries) :
    StoredKey e.1 :=
  valid.stored e.1 (List.mem_map_of_mem mem)

theorem Valid.eq_of_key_eq {m : KeyMap α} (valid : Valid m) {e e' : Binary64 × α} (mem : e ∈ m.entries)
    (mem' : e' ∈ m.entries) (same : e.1 = e'.1) : e = e' :=
  List.inj_on_of_nodup_map valid.nodup mem mem' same

theorem Valid.contains_iff {m : KeyMap α} (valid : Valid m) (k : Binary64) :
    m.contains k = true ↔ normalizeKey k ∈ m.keys := by
  unfold contains keys
  simp only [List.any_eq_true, List.mem_map]
  constructor
  · rintro ⟨e, mem, same⟩
    exact ⟨e, mem, (sameValueZero_stored (valid.stored_of_mem mem) k).mp same⟩
  · rintro ⟨e, mem, same⟩
    exact ⟨e, mem, (sameValueZero_stored (valid.stored_of_mem mem) k).mpr same⟩

theorem Valid.get?_eq_some_iff {m : KeyMap α} (valid : Valid m) (k : Binary64) (v : α) :
    m.get? k = some v ↔ (normalizeKey k, v) ∈ m.entries := by
  unfold get?
  simp only [Option.map_eq_some_iff]
  constructor
  · rintro ⟨e, found, rfl⟩
    have mem := List.mem_of_find?_eq_some found
    have hit := List.find?_some found
    have same := (sameValueZero_stored (valid.stored_of_mem mem) k).mp hit
    rw [← same]
    exact mem
  · intro mem
    obtain ⟨e, found⟩ : ∃ e, m.entries.find? (fun e => Binary64.sameValueZero e.1 k) = some e := by
      apply Option.isSome_iff_exists.mp
      rw [List.find?_isSome]
      exact ⟨_, mem, sameValueZero_normalizeKey k⟩
    have foundMem := List.mem_of_find?_eq_some found
    have hit := List.find?_some found
    have same := (sameValueZero_stored (valid.stored_of_mem foundMem) k).mp hit
    exact ⟨e, found, by rw [valid.eq_of_key_eq foundMem mem same]⟩

theorem Valid.of_perm {m m' : KeyMap α} (valid : Valid m) (perm : m.entries ~ m'.entries) : Valid m' where
  nodup := (perm.map Prod.fst).nodup_iff.mp valid.nodup
  stored k mem := valid.stored k ((perm.map Prod.fst).mem_iff.mpr mem)

theorem Valid.get?_eq_of_perm {m m' : KeyMap α} (valid : Valid m) (perm : m.entries ~ m'.entries)
    (k : Binary64) : m.get? k = m'.get? k := by
  apply Option.ext
  intro v
  rw [valid.get?_eq_some_iff, (valid.of_perm perm).get?_eq_some_iff, perm.mem_iff]

theorem Valid.contains_eq_of_perm {m m' : KeyMap α} (valid : Valid m) (perm : m.entries ~ m'.entries)
    (k : Binary64) : m.contains k = m'.contains k := by
  apply Bool.eq_iff_iff.mpr
  rw [valid.contains_iff, (valid.of_perm perm).contains_iff]
  exact (perm.map Prod.fst).mem_iff

/-! ### Writing a map -/

theorem set_of_contains {m : KeyMap α} {k : Binary64} (h : m.contains k = true) (v : α) :
    m.set k v = ⟨m.entries.map fun e => if Binary64.sameValueZero e.1 k then (e.1, v) else e⟩ :=
  if_pos h

theorem set_of_not_contains {m : KeyMap α} {k : Binary64} (h : m.contains k = false) (v : α) :
    m.set k v = ⟨m.entries ++ [(normalizeKey k, v)]⟩ := by
  rw [set, if_neg (by simp [h])]

theorem keys_replace (m : KeyMap α) (k : Binary64) (v : α) :
    (m.entries.map fun e => if Binary64.sameValueZero e.1 k then (e.1, v) else e).map Prod.fst = m.keys := by
  rw [keys, List.map_map]
  apply List.map_congr_left
  intro e _
  by_cases same : Binary64.sameValueZero e.1 k <;> simp [same]

theorem contains_eq_any_keys (m : KeyMap α) (k : Binary64) :
    m.contains k = m.keys.any (Binary64.sameValueZero · k) := by
  simp [contains, keys, List.any_map, Function.comp_def]

theorem keys_set (m : KeyMap α) (k : Binary64) (v : α) :
    (m.set k v).keys = if m.contains k then m.keys else m.keys ++ [normalizeKey k] := by
  cases h : m.contains k
  · rw [set_of_not_contains h]; simp [keys]
  · rw [set_of_contains h]; exact keys_replace m k v

theorem contains_set_self (m : KeyMap α) (k : Binary64) (v : α) : (m.set k v).contains k = true := by
  rw [contains_eq_any_keys, keys_set]
  cases h : m.contains k
  · simp [sameValueZero_normalizeKey]
  · rw [if_pos rfl, ← contains_eq_any_keys]; exact h

theorem contains_set_of_contains {m : KeyMap α} {k' : Binary64} (h : m.contains k' = true)
    (k : Binary64) (v : α) : (m.set k v).contains k' = true := by
  rw [contains_eq_any_keys, keys_set]
  rw [contains_eq_any_keys] at h
  split <;> simp_all

theorem keys_erase_sublist (m : KeyMap α) (k : Binary64) : (m.erase k).keys.Sublist m.keys :=
  List.Sublist.map Prod.fst List.filter_sublist

theorem mem_values_set {m : KeyMap α} {k : Binary64} {v w : α} (mem : w ∈ (m.set k v).values) :
    w = v ∨ w ∈ m.values := by
  unfold set at mem
  split at mem
  · simp only [values, List.map_map, List.mem_map, Function.comp_def] at mem
    obtain ⟨e, eMem, rfl⟩ := mem
    by_cases same : Binary64.sameValueZero e.1 k
    · left; simp [same]
    · right; simpa [same, values] using List.mem_map_of_mem (f := Prod.snd) eMem
  · simp only [values, List.map_append, List.mem_append, List.mem_map, List.mem_singleton] at mem
    rcases mem with ⟨e, eMem, rfl⟩ | ⟨e, rfl, rfl⟩
    · exact .inr (List.mem_map_of_mem eMem)
    · exact .inl rfl

theorem Valid.set {m : KeyMap α} (valid : Valid m) {k : Binary64} (hk : k.Representable) (v : α) :
    Valid (m.set k v) := by
  cases h : m.contains k
  · rw [set_of_not_contains h]
    have fresh : normalizeKey k ∉ m.keys := by
      rw [← valid.contains_iff]; simp [h]
    have keysEq : (⟨m.entries ++ [(normalizeKey k, v)]⟩ : KeyMap α).keys = m.keys ++ [normalizeKey k] := by
      simp [keys]
    constructor
    · rw [keysEq, List.nodup_append]
      refine ⟨valid.nodup, List.nodup_singleton _, fun a mem b single same => fresh ?_⟩
      rw [← List.mem_singleton.mp single, ← same]
      exact mem
    · intro x mem
      rw [keysEq, List.mem_append, List.mem_singleton] at mem
      rcases mem with old | rfl
      · exact valid.stored x old
      · exact storedKey_normalizeKey hk
  · rw [set_of_contains h]
    have same := keys_replace m k v
    exact ⟨by rw [keys, same]; exact valid.nodup, fun x mem => valid.stored x (by rw [keys, same] at mem; exact mem)⟩

theorem Valid.erase {m : KeyMap α} (valid : Valid m) (k : Binary64) : Valid (m.erase k) where
  nodup := (List.Sublist.map Prod.fst List.filter_sublist).nodup valid.nodup
  stored x mem := valid.stored x ((List.Sublist.map Prod.fst List.filter_sublist).subset mem)

theorem Valid.mapValues {m : KeyMap α} (valid : Valid m) (f : α → β) : Valid (m.mapValues f) := by
  have same : (m.mapValues f).keys = m.keys := by simp [KeyMap.mapValues, keys]
  exact ⟨same ▸ valid.nodup, fun x mem => valid.stored x (same ▸ mem)⟩

theorem valid_empty : Valid (empty : KeyMap α) := ⟨List.nodup_nil, fun _ mem => by simp [empty, keys] at mem⟩

theorem ofList_of_valid {pairs : List (Binary64 × α)} (valid : Valid ⟨pairs⟩) : ofList pairs = ⟨pairs⟩ := by
  -- the accumulator grows by one fresh pair at each step
  suffices grow : ∀ (done : List (Binary64 × α)), Valid ⟨done ++ pairs⟩ →
      pairs.foldl (fun (m : KeyMap α) p => m.set p.1 p.2) ⟨done⟩ = ⟨done ++ pairs⟩ by
    have := grow [] (by simpa using valid)
    simpa [ofList, empty] using this
  clear valid
  induction pairs with
  | nil => simp
  | cons p rest ih =>
    intro done whole
    have prefixValid : Valid ⟨done⟩ :=
      ⟨(List.Sublist.map Prod.fst (List.sublist_append_left done _)).nodup whole.nodup,
        fun x mem => whole.stored x (by simp only [keys, List.map_append, List.mem_append] at mem ⊢; exact .inl mem)⟩
    have stored : StoredKey p.1 := whole.stored p.1 (by simp [keys])
    have fresh : p.1 ∉ (⟨done⟩ : KeyMap α).keys := by
      have := whole.nodup
      simp only [keys, List.map_append, List.map_cons, List.nodup_append, List.mem_cons] at this
      exact fun mem => this.2.2 p.1 mem p.1 (.inl rfl) rfl
    have absent : (⟨done⟩ : KeyMap α).contains p.1 = false := by
      rw [Bool.eq_false_iff, ne_eq, prefixValid.contains_iff, stored.1]; exact fresh
    rw [List.foldl_cons, set_of_not_contains absent, stored.1]
    simpa using ih (done ++ [p]) (by simpa using whole)

theorem mem_entries_set {m : KeyMap α} {k : Binary64} {v : α} {e : Binary64 × α}
    (mem : e ∈ (m.set k v).entries) :
    (e.2 = v ∧ Binary64.sameValueZero e.1 k = true) ∨ e ∈ m.entries := by
  unfold set at mem
  split at mem
  · obtain ⟨e', e'Mem, rfl⟩ := List.mem_map.mp mem
    by_cases same : Binary64.sameValueZero e'.1 k = true
    · left; simp [same]
    · right; simpa [same] using e'Mem
  · rcases List.mem_append.mp mem with old | fresh
    · exact .inr old
    · rw [List.mem_singleton.mp fresh]
      exact .inl ⟨rfl, sameValueZero_normalizeKey k⟩

theorem mem_ofList {pairs : List (Binary64 × α)} {e : Binary64 × α} (mem : e ∈ (ofList pairs).entries) :
    ∃ p ∈ pairs, p.2 = e.2 ∧ Binary64.sameValueZero e.1 p.1 = true := by
  -- an entry of the map built so far comes from the start map or from the pairs set
  suffices grow : ∀ m : KeyMap α, e ∈ (pairs.foldl (fun m p => m.set p.1 p.2) m).entries →
      e ∈ m.entries ∨ ∃ p ∈ pairs, p.2 = e.2 ∧ Binary64.sameValueZero e.1 p.1 = true by
    rcases grow empty mem with absurd | found
    · simp [empty] at absurd
    · exact found
  clear mem
  induction pairs with
  | nil => exact fun m mem => .inl mem
  | cons p rest ih =>
    intro m mem
    rcases ih (m.set p.1 p.2) mem with inSet | ⟨q, qMem, value, same⟩
    · rcases mem_entries_set inSet with ⟨value, same⟩ | old
      · exact .inr ⟨p, List.mem_cons_self, value.symm, same⟩
      · exact .inl old
    · exact .inr ⟨q, List.mem_cons_of_mem _ qMem, value, same⟩

theorem mem_values_ofList {pairs : List (Binary64 × α)} {v : α} (mem : v ∈ (ofList pairs).values) :
    v ∈ pairs.map (·.2) := by
  obtain ⟨e, eMem, rfl⟩ := List.mem_map.mp mem
  obtain ⟨p, pMem, value, -⟩ := mem_ofList eMem
  exact List.mem_map.mpr ⟨p, pMem, value⟩

theorem valid_ofList {pairs : List (Binary64 × α)} (hk : ∀ p ∈ pairs, p.1.Representable) :
    Valid (ofList pairs) := by
  suffices grow : ∀ m : KeyMap α, Valid m → Valid (pairs.foldl (fun m p => m.set p.1 p.2) m) from
    grow empty valid_empty
  induction pairs with
  | nil => exact fun m valid => valid
  | cons p rest ih =>
    intro m valid
    rw [List.foldl_cons]
    exact ih (fun q mem => hk q (List.mem_cons_of_mem _ mem)) _ (valid.set (hk p List.mem_cons_self) _)

/-! ### Changing values -/

@[simp] theorem get?_mapValues (m : KeyMap α) (f : α → β) (k : Binary64) :
    (m.mapValues f).get? k = (m.get? k).map f := by
  simp [get?, KeyMap.mapValues, List.find?_map, Function.comp_def]

@[simp] theorem contains_mapValues (m : KeyMap α) (f : α → β) (k : Binary64) :
    (m.mapValues f).contains k = m.contains k := by
  simp [contains, KeyMap.mapValues, Function.comp_def]

theorem set_mapValues (m : KeyMap α) (f : α → β) (k : Binary64) (v : α) :
    (m.set k v).mapValues f = (m.mapValues f).set k (f v) := by
  cases h : m.contains k
  · rw [set_of_not_contains h, set_of_not_contains (by rw [contains_mapValues]; exact h)]
    simp [KeyMap.mapValues]
  · rw [set_of_contains h, set_of_contains (by rw [contains_mapValues]; exact h)]
    simp only [KeyMap.mapValues, List.map_map, KeyMap.mk.injEq]
    apply List.map_congr_left
    intro e _
    by_cases same : Binary64.sameValueZero e.1 k <;> simp [same]

theorem erase_mapValues (m : KeyMap α) (f : α → β) (k : Binary64) :
    (m.erase k).mapValues f = (m.mapValues f).erase k := by
  simp [KeyMap.erase, KeyMap.mapValues, List.filter_map, Function.comp_def]

/-! ### The text-keyed form of a map

A map is written keyed by the text of each key, in property order: keys whose text is an
index key move to the front in ascending order, the others keep their order. Reading it
back gives the same entries, reordered in the same way, so two maps that differ only in
the order of index-like keys have the same text-keyed form. -/

/-- The entries of a map keyed by the text of each key, in the map's order. -/
def texts (m : KeyMap α) : List (String × α) := m.entries.map fun (k, v) => (k.format, v)

/-- The entries whose keys do not print as index keys, in order. -/
def others (m : KeyMap α) : List (Binary64 × α) :=
  m.entries.filter fun e => !PropertyOrder.isIndex e.1.format

/-- Two maps with the same entries, in the same order apart from keys that print as index
keys. -/
structure Similar (m m' : KeyMap α) : Prop where
  perm : m.entries ~ m'.entries
  others_eq : m.others = m'.others

/-- A map as it reads back from its text-keyed form. -/
def reread (m : KeyMap α) : KeyMap α := ofList (Ledger.numberKeyed (Ledger.textKeyed m))

theorem textKeyed_eq (m : KeyMap α) : Ledger.textKeyed m = PropertyOrder.ofList m.texts := rfl

theorem Similar.refl (m : KeyMap α) : Similar m m := ⟨List.Perm.refl _, rfl⟩

theorem Similar.symm {m m' : KeyMap α} (h : Similar m m') : Similar m' m := ⟨h.perm.symm, h.others_eq.symm⟩

theorem Similar.trans {m m' m'' : KeyMap α} (h : Similar m m') (h' : Similar m' m'') : Similar m m'' :=
  ⟨h.perm.trans h'.perm, h.others_eq.trans h'.others_eq⟩

theorem format_injective {k k' : Binary64} (hk : StoredKey k) (hk' : StoredKey k')
    (same : k.format = k'.format) : k = k' :=
  calc k = normalizeKey k := hk.1.symm
    _ = Binary64.ofNumeral k.format := (Binary64.ofNumeral_format hk.2).symm
    _ = Binary64.ofNumeral k'.format := by rw [same]
    _ = k' := by rw [Binary64.ofNumeral_format hk'.2, hk'.1]

theorem Valid.keys_texts_nodup {m : KeyMap α} (valid : Valid m) : (PropertyOrder.keys m.texts).Nodup := by
  have keysEq : PropertyOrder.keys m.texts = m.keys.map Binary64.format := by
    simp [PropertyOrder.keys, texts, keys]
  rw [keysEq]
  exact valid.nodup.map_on fun k mem k' mem' same =>
    format_injective (valid.stored k mem) (valid.stored k' mem') same

theorem others_texts (m : KeyMap α) : PropertyOrder.others m.texts = m.others.map fun (k, v) => (k.format, v) := by
  simp [PropertyOrder.others, texts, others, List.filter_map, Function.comp_def]

theorem numberKeyed_texts {l : List (Binary64 × α)} (stored : ∀ e ∈ l, StoredKey e.1) :
    Ledger.numberKeyed (l.map fun (k, v) => (k.format, v)) = l := by
  unfold Ledger.numberKeyed
  rw [List.map_map]
  conv => rhs; rw [← List.map_id l]
  apply List.map_congr_left
  intro e mem
  simp [Binary64.ofNumeral_format (stored e mem).2, (stored e mem).1]

theorem Valid.textKeyed_eq_of_similar {m m' : KeyMap α} (valid : Valid m) (similar : Similar m m') :
    Ledger.textKeyed m = Ledger.textKeyed m' := by
  have same : PropertyOrder.others m.texts = PropertyOrder.others m'.texts := by
    rw [others_texts, others_texts, similar.others_eq]
  rw [textKeyed_eq, textKeyed_eq]
  exact PropertyOrder.ofList_eq_of_perm valid.keys_texts_nodup (similar.perm.map _) same

theorem Valid.reread_spec {m : KeyMap α} (valid : Valid m) :
    reread m = ⟨Ledger.numberKeyed (Ledger.textKeyed m)⟩ ∧ Valid (reread m) ∧ Similar (reread m) m := by
  obtain ⟨-, perm, same⟩ := PropertyOrder.ofList_spec valid.keys_texts_nodup
  rw [← textKeyed_eq] at perm same
  have back : Ledger.numberKeyed m.texts = m.entries := numberKeyed_texts fun e => valid.stored_of_mem
  have readPerm : Ledger.numberKeyed (Ledger.textKeyed m) ~ m.entries := back ▸ perm.map _
  have readValid : Valid (⟨Ledger.numberKeyed (Ledger.textKeyed m)⟩ : KeyMap α) := valid.of_perm readPerm.symm
  have eq : reread m = ⟨Ledger.numberKeyed (Ledger.textKeyed m)⟩ := ofList_of_valid readValid
  refine ⟨eq, eq ▸ readValid, eq ▸ ⟨readPerm, ?_⟩⟩
  -- each text in the written form reads back to the entry it was written from
  have textBack : ∀ e ∈ Ledger.textKeyed m, (Binary64.ofNumeral e.1).format = e.1 := by
    intro e mem
    obtain ⟨x, xMem, rfl⟩ := List.mem_map.mp (perm.subset mem)
    simp [Binary64.ofNumeral_format (valid.stored_of_mem xMem).2, (valid.stored_of_mem xMem).1]
  calc others ⟨Ledger.numberKeyed (Ledger.textKeyed m)⟩
      = Ledger.numberKeyed (PropertyOrder.others (Ledger.textKeyed m)) := by
        simp only [others, Ledger.numberKeyed, PropertyOrder.others, List.filter_map, Function.comp_def]
        congr 1
        exact List.filter_congr fun e mem => by rw [textBack e mem]
    _ = Ledger.numberKeyed (PropertyOrder.others m.texts) := by rw [same]
    _ = m.others := by
        rw [others_texts]
        exact numberKeyed_texts fun e mem => valid.stored_of_mem (List.mem_of_mem_filter mem)

theorem valid_reread {m : KeyMap α} (valid : Valid m) : Valid (reread m) := valid.reread_spec.2.1

theorem Valid.similar_reread {m : KeyMap α} (valid : Valid m) : Similar (reread m) m := valid.reread_spec.2.2

theorem Valid.reread_eq_of_similar {m m' : KeyMap α} (valid : Valid m) (similar : Similar m m') :
    reread m = reread m' := by
  rw [reread, reread, valid.textKeyed_eq_of_similar similar]

theorem Valid.reread_reread {m : KeyMap α} (valid : Valid m) : reread (reread m) = reread m :=
  (valid_reread valid).reread_eq_of_similar valid.similar_reread

/-! ### Similar maps answer alike and stay similar under writes -/

theorem Similar.get?_eq {m m' : KeyMap α} (valid : Valid m) (similar : Similar m m') (k : Binary64) :
    m.get? k = m'.get? k :=
  valid.get?_eq_of_perm similar.perm k

theorem Similar.contains_eq {m m' : KeyMap α} (valid : Valid m) (similar : Similar m m') (k : Binary64) :
    m.contains k = m'.contains k :=
  valid.contains_eq_of_perm similar.perm k

theorem Similar.values_perm {m m' : KeyMap α} (similar : Similar m m') : m.values ~ m'.values :=
  similar.perm.map _

theorem others_map_of_fst {l : List (Binary64 × α)} {f : Binary64 × α → Binary64 × β}
    (keep : ∀ e, (f e).1 = e.1) : others ⟨l.map f⟩ = (others ⟨l⟩).map f := by
  simp [others, List.filter_map, Function.comp_def, keep]

theorem Similar.set {m m' : KeyMap α} (valid : Valid m) (similar : Similar m m') (k : Binary64) (v : α) :
    Similar (m.set k v) (m'.set k v) := by
  have sameContains := similar.contains_eq valid k
  cases h : m.contains k
  · rw [set_of_not_contains h, set_of_not_contains (sameContains ▸ h)]
    refine ⟨similar.perm.append_right _, ?_⟩
    simp only [others, List.filter_append]
    exact congrArg (· ++ _) similar.others_eq
  · rw [set_of_contains h, set_of_contains (sameContains ▸ h)]
    have keep : ∀ e : Binary64 × α, (if Binary64.sameValueZero e.1 k then (e.1, v) else e).1 = e.1 := by
      intro e; split <;> rfl
    refine ⟨similar.perm.map _, ?_⟩
    rw [others_map_of_fst keep, others_map_of_fst keep]
    exact congrArg (List.map _) similar.others_eq

theorem Similar.erase {m m' : KeyMap α} (similar : Similar m m') (k : Binary64) :
    Similar (m.erase k) (m'.erase k) := by
  refine ⟨similar.perm.filter _, ?_⟩
  have swap : ∀ n : KeyMap α, (n.erase k).others = n.others.filter fun e => !Binary64.sameValueZero e.1 k := by
    intro n; simp [KeyMap.erase, others, List.filter_filter, Bool.and_comm]
  rw [swap, swap, similar.others_eq]

theorem Similar.mapValues {m m' : KeyMap α} (similar : Similar m m') (f : α → β) :
    Similar (m.mapValues f) (m'.mapValues f) := by
  have keep : ∀ e : Binary64 × α, ((fun (k, v) => (k, f v)) e : Binary64 × β).1 = e.1 := fun _ => rfl
  refine ⟨similar.perm.map _, ?_⟩
  rw [KeyMap.mapValues, KeyMap.mapValues, others_map_of_fst keep, others_map_of_fst keep]
  exact congrArg (List.map _) similar.others_eq

end KeyMap

end GuildRegistry
