import Mathlib
import GuildRegistry.Ledger.Views
import GuildRegistry.Proofs.Json.PropertyOrder

/-! Application statistics.

The statistics count the history: every entry has one status, so the status counts add up to the
total (`sum_statusCounts`). Languages are tallied in a plain record of tallies keyed by language.
-/

set_option autoImplicit false

namespace GuildRegistry

open scoped List

/-! ### Tallies -/

/-- The tally of a key counted `n` times from nothing. -/
def countTally : Nat → Option Tally
  | 0 => none
  | n + 1 => some (.count (n + 1))

theorem bump_countTally (n : Nat) : Tally.bump (countTally n) = .count (n + 1) := by
  cases n <;> rfl

theorem ne_proto_of_inheritedText? {key : String} (ordinary : inheritedText? key = none) : key ≠ "__proto__" := by
  rintro rfl
  exact absurd ordinary (by decide)

section Tallies

variable {acc : List (String × Tally)} {key k : String}

theorem get?_tallyKey_self (ordinary : inheritedText? key = none) :
    PropertyOrder.get? (tallyKey acc key) key = some (Tally.bump (PropertyOrder.get? acc key)) := by
  unfold tallyKey
  rw [if_neg (ne_proto_of_inheritedText? ordinary), PropertyOrder.get?_set_self]
  cases PropertyOrder.get? acc key <;> simp [ordinary]

theorem get?_tallyKey_of_ne (ne : k ≠ key) :
    PropertyOrder.get? (tallyKey acc key) k = PropertyOrder.get? acc k := by
  unfold tallyKey
  split
  · rfl
  · exact PropertyOrder.get?_set_of_ne _ ne

theorem get?_foldl_tallyKey (ordinary : inheritedText? k = none) (keys : List String) (n : Nat)
    (start : PropertyOrder.get? acc k = countTally n) :
    PropertyOrder.get? (keys.foldl tallyKey acc) k = countTally (n + keys.count k) := by
  induction keys generalizing acc n with
  | nil => simpa using start
  | cons key rest ih =>
    rw [List.foldl_cons, List.count_cons]
    by_cases same : key = k
    · subst same
      rw [ih (n + 1) (by rw [get?_tallyKey_self ordinary, start, bump_countTally]; rfl)]
      simp only [beq_self_eq_true, if_true]
      congr 1
      omega
    · rw [ih n (by rw [get?_tallyKey_of_ne (Ne.symm same), start])]
      simp [same]

theorem get?_foldl_tallyKey_of_count_eq_zero (keys : List String) (absent : keys.count k = 0) :
    PropertyOrder.get? (keys.foldl tallyKey acc) k = PropertyOrder.get? acc k := by
  induction keys generalizing acc with
  | nil => rfl
  | cons key rest ih =>
    have other : k ≠ key := fun same => by simp [same] at absent
    rw [List.foldl_cons, ih (by simpa [List.count_cons, Ne.symm other] using absent), get?_tallyKey_of_ne other]

theorem mem_keys_foldl_tallyKey (keys : List String) :
    k ∈ PropertyOrder.keys (keys.foldl tallyKey acc) ↔
      k ∈ PropertyOrder.keys acc ∨ (k ∈ keys ∧ k ≠ "__proto__") := by
  induction keys generalizing acc with
  | nil => simp
  | cons key rest ih =>
    have step : k ∈ PropertyOrder.keys (tallyKey acc key) ↔
        k ∈ PropertyOrder.keys acc ∨ (k = key ∧ k ≠ "__proto__") := by
      unfold tallyKey
      split
      · rename_i proto
        exact ⟨Or.inl, fun either => either.elim id fun ⟨same, notProto⟩ => absurd (same.trans proto) notProto⟩
      · rename_i notProto
        rw [PropertyOrder.mem_keys_set]
        constructor
        · rintro (same | old)
          · exact Or.inr ⟨same, same ▸ notProto⟩
          · exact Or.inl old
        · rintro (old | ⟨same, -⟩)
          · exact Or.inr old
          · exact Or.inl same
    rw [List.foldl_cons, ih, step, List.mem_cons]
    tauto

theorem nodup_keys_foldl_tallyKey (keys : List String) (nodup : (PropertyOrder.keys acc).Nodup) :
    (PropertyOrder.keys (keys.foldl tallyKey acc)).Nodup := by
  induction keys generalizing acc with
  | nil => exact nodup
  | cons key rest ih =>
    apply ih
    unfold tallyKey
    split
    · exact nodup
    · exact PropertyOrder.nodup_keys_set _ nodup

theorem tallies_sum (keys : List String) (ordinary : ∀ key ∈ keys, inheritedText? key = none) :
    (keys.foldl tallyKey []).map (·.2) = ((keys.foldl tallyKey []).map fun p => keys.count p.1).map Tally.count ∧
      ((keys.foldl tallyKey []).map fun p => keys.count p.1).sum = keys.length := by
  have nodup : (PropertyOrder.keys (keys.foldl tallyKey [])).Nodup :=
    nodup_keys_foldl_tallyKey keys List.nodup_nil
  have counted : ∀ key, key ∈ PropertyOrder.keys (keys.foldl tallyKey []) ↔ key ∈ keys := fun key => by
    rw [mem_keys_foldl_tallyKey]
    exact ⟨fun either => either.elim (fun none => by cases none) And.left,
      fun mem => Or.inr ⟨mem, ne_proto_of_inheritedText? (ordinary key mem)⟩⟩
  constructor
  · -- each member reads as the tally of its key
    rw [List.map_map]
    apply List.map_congr_left
    intro p mem
    have read := PropertyOrder.get?_of_mem nodup mem
    have key : p.1 ∈ keys := (counted p.1).mp (List.mem_map_of_mem mem)
    rw [get?_foldl_tallyKey (ordinary p.1 key) keys 0 rfl, Nat.zero_add] at read
    show p.2 = .count (keys.count p.1)
    cases times : keys.count p.1 with
    | zero => rw [times] at read; cases read
    | succ n =>
      rw [times] at read
      exact (Option.some.inj read).symm
  · -- the keys are the distinct keys counted
    have perm : PropertyOrder.keys (keys.foldl tallyKey []) ~ keys.dedup :=
      (List.perm_ext_iff_of_nodup nodup (List.nodup_dedup keys)).mpr fun key => by
        rw [counted, List.mem_dedup]
    have sameSum : ((keys.foldl tallyKey []).map fun p => keys.count p.1) =
        (PropertyOrder.keys (keys.foldl tallyKey [])).map keys.count := by
      simp [PropertyOrder.keys, List.map_map, Function.comp_def]
    rw [sameSum, (perm.map _).sum_eq, List.sum_map_count_dedup_eq_length]

end Tallies

/-! ### Statuses -/

theorem sum_statusCounts (entries : List HistoryEntry) :
    (Status.all.map fun s => (entries.filter (·.status == s)).length).sum = entries.length := by
  induction entries with
  | nil => rfl
  | cons e rest ih =>
    simp only [Status.all, List.map_cons, List.map_nil, List.sum_cons, List.sum_nil] at ih ⊢
    cases status : e.status <;> simp [status] <;> omega

/-! ### Newest first -/

/-- How new a stored time is: its instant, and below every instant when unrecognised. -/
def newness (raw : String) : WithBot Int :=
  match Timestamp.parse? raw with
  | some t => t.ms
  | none => ⊥

theorem compareNewest_nonpos_iff (a b : String) :
    Timestamp.compareNewest a b ≤ 0 ↔ newness b ≤ newness a := by
  unfold Timestamp.compareNewest newness
  cases Timestamp.parse? a with
  | none => cases Timestamp.parse? b <;> simp
  | some ta =>
    cases Timestamp.parse? b with
    | none => simp
    | some tb =>
      simp only [WithBot.coe_le_coe]
      split_ifs <;> omega

/-- The order of the latest updates: an entry may come first when it is at least as new. -/
def newerFirst (a b : Binary64 × HistoryEntry) : Bool :=
  Timestamp.compareNewest a.2.updatedAt b.2.updatedAt ≤ 0

theorem newerFirst_iff (a b : Binary64 × HistoryEntry) :
    newerFirst a b = true ↔ newness b.2.updatedAt ≤ newness a.2.updatedAt := by
  rw [newerFirst, decide_eq_true_iff, compareNewest_nonpos_iff]

theorem newerFirst_trans (a b c : Binary64 × HistoryEntry) (first : newerFirst a b = true)
    (second : newerFirst b c = true) : newerFirst a c = true := by
  rw [newerFirst_iff] at *
  exact le_trans second first

theorem newerFirst_total (a b : Binary64 × HistoryEntry) : (newerFirst a b || newerFirst b a) = true := by
  rw [Bool.or_eq_true, newerFirst_iff, newerFirst_iff]
  exact le_total _ _

/-! ### The statistics -/

/-- The key an entry's language is tallied under: `unknown` when it has none. -/
def HistoryEntry.languageKey (e : HistoryEntry) : String :=
  match e.languageCode with
  | some c => if c.isEmpty then "unknown" else c
  | none => "unknown"

namespace Ledger

variable (l : Ledger)

theorem statistics_languageCounts :
    l.statistics.languageCounts = (l.history.values.map (·.languageKey)).foldl tallyKey [] := by
  rw [List.foldl_map]
  rfl

theorem statistics_recentUpdates :
    l.statistics.recentUpdates = (l.history.entries.mergeSort newerFirst).take recentLimit := rfl

theorem statistics_total : l.statistics.total = l.history.values.length := by
  simp [statistics, KeyMap.size, KeyMap.values]

/-- The latest updates are the first of the history sorted newest first, where the sort keeps
every entry with its user, and puts two entries in the history's order whenever the earlier
one is at least as new. -/
theorem recentUpdates_spec :
    ∃ sorted, l.statistics.recentUpdates = sorted.take recentLimit ∧ sorted ~ l.history.entries ∧
      sorted.Pairwise (fun a b => newness b.2.updatedAt ≤ newness a.2.updatedAt) ∧
      ∀ a b, [a, b] <+ l.history.entries → newness b.2.updatedAt ≤ newness a.2.updatedAt → [a, b] <+ sorted := by
  refine ⟨l.history.entries.mergeSort newerFirst, statistics_recentUpdates l,
    List.mergeSort_perm _ _, ?_, fun a b kept newer => ?_⟩
  · exact (List.pairwise_mergeSort newerFirst_trans newerFirst_total _).imp fun first => (newerFirst_iff _ _).mp first
  · exact List.pair_sublist_mergeSort newerFirst_trans newerFirst_total ((newerFirst_iff a b).mpr newer) kept

/-- The statistics are consistent counts of the history: the total is the number of entries,
and so is the sum of the status counts; the pending count is the number of applications; a
language with nothing inherited under its name has the number of entries in it as its tally,
and no language without entries has a tally, so when no language is named like an inherited
member the tallies add up to the total too; the latest updates are the first five of the
history sorted newest first, unrecognised times last, ties in the history's order. -/
theorem statistics_consistent :
    l.statistics.total = l.history.values.length ∧
      (l.statistics.statusCounts.map (·.2)).sum = l.statistics.total ∧
      l.statistics.pendingCount = l.applications.values.length ∧
      (PropertyOrder.keys l.statistics.languageCounts).Nodup ∧
      (∀ k, inheritedText? k = none → PropertyOrder.get? l.statistics.languageCounts k =
        countTally ((l.history.values.map (·.languageKey)).count k)) ∧
      (∀ k, (l.history.values.map (·.languageKey)).count k = 0 →
        PropertyOrder.get? l.statistics.languageCounts k = none) ∧
      ((∀ e ∈ l.history.values, inheritedText? e.languageKey = none) → ∃ counts : List Nat,
        l.statistics.languageCounts.map (·.2) = counts.map Tally.count ∧ counts.sum = l.statistics.total) ∧
      l.statistics.recentUpdates.length = min recentLimit l.statistics.total ∧
      ∃ sorted, l.statistics.recentUpdates = sorted.take recentLimit ∧ sorted ~ l.history.entries ∧
        sorted.Pairwise (fun a b => newness b.2.updatedAt ≤ newness a.2.updatedAt) ∧
        ∀ a b, [a, b] <+ l.history.entries → newness b.2.updatedAt ≤ newness a.2.updatedAt → [a, b] <+ sorted := by
  have total := statistics_total l
  have languages := statistics_languageCounts l
  refine ⟨total, ?_, by simp [statistics, KeyMap.size, KeyMap.values], ?_, fun k ordinary => ?_,
    fun k absent => ?_, fun ordinary => ?_, ?_, recentUpdates_spec l⟩
  · rw [total, ← sum_statusCounts l.history.values]
    simp [statistics, List.map_map, Function.comp_def]
  · rw [languages]
    exact nodup_keys_foldl_tallyKey _ List.nodup_nil
  · rw [languages, get?_foldl_tallyKey ordinary _ 0 rfl, Nat.zero_add]
  · rw [languages, get?_foldl_tallyKey_of_count_eq_zero _ absent]
    rfl
  · have keysOrdinary : ∀ key ∈ l.history.values.map (·.languageKey), inheritedText? key = none := by
      intro key mem
      obtain ⟨e, inHistory, rfl⟩ := List.mem_map.mp mem
      exact ordinary e inHistory
    obtain ⟨values, sum⟩ := tallies_sum _ keysOrdinary
    refine ⟨_, by rw [languages]; exact values, ?_⟩
    rw [sum, List.length_map, total]
  · rw [statistics_recentUpdates, List.length_take, List.length_mergeSort, total]
    simp [KeyMap.values]

/-- Two entries, one in English and one with no language, tally to one each. -/
theorem statistics_tallies_two_languages :
    ∃ counts : List Nat,
      (Ledger.statistics { Ledger.empty with history := ⟨[
        (Binary64.ofNat 1, ⟨.pending, "2024-05-01T09:30:00.000Z", none, some "en"⟩),
        (Binary64.ofNat 2, ⟨.approved, "", none, none⟩)]⟩ }).languageCounts.map (·.2) = counts.map Tally.count ∧
        counts.sum = (Ledger.statistics { Ledger.empty with history := ⟨[
          (Binary64.ofNat 1, ⟨.pending, "2024-05-01T09:30:00.000Z", none, some "en"⟩),
          (Binary64.ofNat 2, ⟨.approved, "", none, none⟩)]⟩ }).total :=
  (statistics_consistent _).2.2.2.2.2.2.1 (by decide)

/-- A language named `constructor` starts from the text of the constructor every plain record
inherits, so its tally is that text followed by `1`, not a count. -/
theorem statistics_constructor_tally :
    (Ledger.statistics { Ledger.empty with history := ⟨[
      (Binary64.ofNat 1, ⟨.pending, "2024-05-01T09:30:00.000Z", none, some "constructor"⟩)]⟩ }).languageCounts =
      [("constructor", .text "function Object() \x7b [native code] \x7d1")] := by
  decide

end Ledger

end GuildRegistry
