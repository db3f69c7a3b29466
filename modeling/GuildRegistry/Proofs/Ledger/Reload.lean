import GuildRegistry.Proofs.Ledger.KeyMap

/-! A ledger read back from its own document.

`Consistent` gathers what every ledger the store holds satisfies: distinct admins, maps with
distinct stored keys, every application stored under its own identifier and with a history entry.
-/

set_option autoImplicit false

open scoped List

namespace GuildRegistry

namespace Application

/-- An application with its identifier in stored form, `-0` as `+0`. -/
def normId (a : Application) : Application := { a with userId := KeyMap.normalizeKey a.userId }

end Application

namespace Ledger

open KeyMap

/-- The applications stamped with the keys they are stored under, as a load stamps them. -/
def ownIds (m : KeyMap Application) : KeyMap Application :=
  ⟨m.entries.map fun (k, a) => (k, { a with userId := k })⟩

/-- What every ledger the store can hold satisfies. -/
structure Consistent (l : Ledger) : Prop where
  admins_distinct : l.admins.Pairwise fun a b => Binary64.sameValueZero a b = false
  profiles : l.profiles.Valid
  applications : l.applications.Valid
  history : l.history.Valid
  xp : l.xp.Valid
  scores : ∀ t ∈ l.xp.values, t.Valid
  cups : l.cups.Valid
  own_ids : ∀ e ∈ l.applications.entries, normalizeKey e.2.userId = e.1
  recorded : ∀ k ∈ l.applications.keys, l.history.contains k = true

theorem consistent_empty : empty.Consistent where
  admins_distinct := List.Pairwise.nil
  profiles := valid_empty
  applications := valid_empty
  history := valid_empty
  xp := valid_empty
  scores := fun _ mem => by simp [empty, KeyMap.empty, KeyMap.values] at mem
  cups := valid_empty
  own_ids := fun _ mem => by simp [empty, KeyMap.empty] at mem
  recorded := fun _ mem => by simp [empty, KeyMap.empty, KeyMap.keys] at mem

/-! ### Admins -/

theorem foldl_addDistinct (acc : List Binary64) {xs : List Binary64}
    (distinct : (acc ++ xs).Pairwise fun a b => Binary64.sameValueZero a b = false) :
    xs.foldl addDistinct acc = acc ++ xs := by
  induction xs generalizing acc with
  | nil => simp
  | cons x rest ih =>
    have fresh : acc.any (Binary64.sameValueZero · x) = false := by
      rw [List.any_eq_false]
      intro a mem
      rw [List.pairwise_append] at distinct
      simpa using distinct.2.2 a mem x List.mem_cons_self
    rw [List.foldl_cons, addDistinct, if_neg (by simp [fresh])]
    simpa using ih (acc ++ [x]) (by simpa using distinct)

theorem foldl_addDistinct_distinct {acc : List Binary64} (xs : List Binary64)
    (distinct : acc.Pairwise fun a b => Binary64.sameValueZero a b = false) :
    (xs.foldl addDistinct acc).Pairwise fun a b => Binary64.sameValueZero a b = false := by
  induction xs generalizing acc with
  | nil => exact distinct
  | cons x rest ih =>
    rw [List.foldl_cons]
    apply ih
    unfold addDistinct
    split
    · exact distinct
    · rename_i present
      rw [List.pairwise_append]
      refine ⟨distinct, List.pairwise_singleton _ _, fun a mem b single => ?_⟩
      rw [List.mem_singleton.mp single]
      simpa using fun same => present (List.any_eq_true.mpr ⟨a, mem, same⟩)

/-! ### History entries for pending applications -/

theorem withPendingEntries_of_recorded {apps : KeyMap Application} {h : KeyMap HistoryEntry}
    (recorded : ∀ k ∈ apps.keys, h.contains k = true) : withPendingEntries apps h = h := by
  unfold withPendingEntries
  have keep : ∀ es : List (Binary64 × Application), (∀ e ∈ es, h.contains e.1 = true) →
      es.foldl (fun h (k, a) => if h.contains k then h else h.set k (pendingEntry a)) h = h := by
    intro es
    induction es with
    | nil => intro _; rfl
    | cons e rest ih =>
      intro held
      obtain ⟨k, a⟩ := e
      rw [List.foldl_cons]
      dsimp only
      rw [if_pos (held (k, a) List.mem_cons_self)]
      exact ih fun e mem => held e (List.mem_cons_of_mem _ mem)
  exact keep _ fun e mem => recorded e.1 (List.mem_map_of_mem mem)

/-! ### Reading back each part -/

section Reload

variable {l : Ledger}

theorem reload_admins (c : l.Consistent) : l.reload.admins = l.admins := by
  show l.admins.foldl addDistinct [] = l.admins
  have distinct : ([] ++ l.admins).Pairwise fun a b => Binary64.sameValueZero a b = false := by
    simpa using c.admins_distinct
  simpa using foldl_addDistinct [] distinct

theorem reload_profiles (l : Ledger) : l.reload.profiles = reread l.profiles := rfl

theorem reload_cups (l : Ledger) : l.reload.cups = reread l.cups := rfl

theorem keys_ownIds (m : KeyMap Application) : (ownIds m).keys = m.keys := by
  simp [ownIds, keys]

theorem reload_applications (c : l.Consistent) : l.reload.applications = ownIds (reread l.applications) := by
  obtain ⟨eq, valid, -⟩ := c.applications.reread_spec
  have stamped : Valid (ownIds (reread l.applications)) :=
    ⟨by rw [keys_ownIds]; exact valid.nodup, fun k mem => valid.stored k (by rwa [keys_ownIds] at mem)⟩
  calc l.reload.applications
      = ofList ((reread l.applications).entries.map fun (k, a) => (k, { a with userId := k })) := by
        rw [eq]; rfl
    _ = ownIds (reread l.applications) := ofList_of_valid stamped

theorem reload_history (c : l.Consistent) : l.reload.history = reread l.history := by
  show withPendingEntries l.reload.applications (reread l.history) = _
  apply withPendingEntries_of_recorded
  intro k mem
  rw [reload_applications c, keys_ownIds] at mem
  -- the reread maps hold the same keys as the maps they come from
  have held : k ∈ l.applications.keys :=
    (c.applications.similar_reread.perm.map Prod.fst).subset mem
  rw [c.history.similar_reread.contains_eq (valid_reread c.history) k]
  exact c.recorded k held

theorem textKeyed_mapValues {α β : Type} {m : KeyMap α} (valid : m.Valid) (f : α → β) :
    textKeyed (m.mapValues f) = (textKeyed m).map fun p => (p.1, f p.2) := by
  have texts_map : (m.mapValues f).texts = m.texts.map fun p => (p.1, f p.2) := by
    simp [texts, KeyMap.mapValues]
  rw [textKeyed_eq, textKeyed_eq, texts_map, PropertyOrder.ofList_map_value f valid.keys_texts_nodup]

theorem reload_xp (c : l.Consistent) : l.reload.xp = (reread l.xp).mapValues reread := by
  obtain ⟨eq, valid, -⟩ := c.xp.reread_spec
  have tables : Valid ((reread l.xp).mapValues reread) := valid.mapValues reread
  calc l.reload.xp
      = ofList ((numberKeyed (textKeyed (l.xp.mapValues textKeyed))).map
          fun p => (p.1, ofList (numberKeyed p.2))) := rfl
    _ = ofList ((reread l.xp).mapValues reread).entries := by
        rw [textKeyed_mapValues c.xp, eq]
        simp [numberKeyed, KeyMap.mapValues, reread, Function.comp_def]
    _ = (reread l.xp).mapValues reread := ofList_of_valid tables

end Reload

/-! ### Ledgers that answer alike -/

/-- Two ledgers that answer every query by key alike and write the same snapshot: the same
admins, and maps with the same entries in the same order apart from keys that print as index
keys. Applications are compared with their identifiers in stored form, XP tables as they
read back. -/
structure Equiv (l l' : Ledger) : Prop where
  admins : l.admins = l'.admins
  profiles : Similar l.profiles l'.profiles
  applications : Similar (l.applications.mapValues Application.normId)
    (l'.applications.mapValues Application.normId)
  history : Similar l.history l'.history
  xp : Similar (l.xp.mapValues reread) (l'.xp.mapValues reread)
  cups : Similar l.cups l'.cups

theorem Equiv.refl (l : Ledger) : Equiv l l :=
  ⟨rfl, .refl _, .refl _, .refl _, .refl _, .refl _⟩

theorem Equiv.symm {l l' : Ledger} (h : Equiv l l') : Equiv l' l :=
  ⟨h.admins.symm, h.profiles.symm, h.applications.symm, h.history.symm, h.xp.symm, h.cups.symm⟩

theorem Equiv.trans {l l' l'' : Ledger} (h : Equiv l l') (h' : Equiv l' l'') : Equiv l l'' :=
  ⟨h.admins.trans h'.admins, h.profiles.trans h'.profiles, h.applications.trans h'.applications,
    h.history.trans h'.history, h.xp.trans h'.xp, h.cups.trans h'.cups⟩

theorem mapValues_mapValues {α β γ : Type} (m : KeyMap α) (f : α → β) (g : β → γ) :
    (m.mapValues f).mapValues g = m.mapValues (g ∘ f) := by
  simp [KeyMap.mapValues]

theorem mapValues_congr {α β : Type} {m : KeyMap α} {f g : α → β} (same : ∀ v ∈ m.values, f v = g v) :
    m.mapValues f = m.mapValues g := by
  simp only [KeyMap.mapValues, KeyMap.mk.injEq]
  apply List.map_congr_left
  intro e mem
  simp [same e.2 (List.mem_map_of_mem mem)]

theorem values_ownIds (m : KeyMap Application) :
    (ownIds m).mapValues Application.normId = m.mapValues Application.normId ↔
      ∀ e ∈ m.entries, normalizeKey e.1 = normalizeKey e.2.userId := by
  simp [ownIds, KeyMap.mapValues, Application.normId]

section Reload

variable {l : Ledger}

theorem mem_reread {α : Type} {m : KeyMap α} (valid : m.Valid) {e : Binary64 × α}
    (mem : e ∈ (reread m).entries) : e ∈ m.entries :=
  valid.similar_reread.perm.subset mem

theorem reread_values_valid (c : l.Consistent) : ∀ t ∈ (reread l.xp).values, t.Valid := by
  intro t mem
  exact c.scores t ((c.xp.similar_reread.values_perm).subset mem)

theorem reload_equiv (c : l.Consistent) : Equiv l.reload l := by
  refine ⟨reload_admins c, c.profiles.similar_reread, ?_, ?_, ?_, c.cups.similar_reread⟩
  · -- the stamped identifiers are the stored forms of the ones the applications had
    have stamped : (ownIds (reread l.applications)).mapValues Application.normId =
        (reread l.applications).mapValues Application.normId := by
      rw [values_ownIds]
      intro e mem
      rw [c.own_ids e (mem_reread c.applications mem)]
      exact ((valid_reread c.applications).stored_of_mem mem).1
    rw [reload_applications c, stamped]
    exact c.applications.similar_reread.mapValues _
  · rw [reload_history c]
    exact c.history.similar_reread
  · -- each table was reread once already, and rereading again changes nothing
    have twice : ((reread l.xp).mapValues reread).mapValues reread = (reread l.xp).mapValues reread := by
      rw [mapValues_mapValues]
      exact mapValues_congr fun t mem => (reread_values_valid c t mem).reread_reread
    rw [reload_xp c, twice]
    exact c.xp.similar_reread.mapValues _

theorem consistent_reload (c : l.Consistent) : l.reload.Consistent where
  admins_distinct := by rw [reload_admins c]; exact c.admins_distinct
  profiles := valid_reread c.profiles
  applications := by
    have valid := valid_reread c.applications
    rw [reload_applications c]
    exact ⟨by rw [keys_ownIds]; exact valid.nodup, fun k mem => valid.stored k (by rwa [keys_ownIds] at mem)⟩
  history := by rw [reload_history c]; exact valid_reread c.history
  xp := by rw [reload_xp c]; exact (valid_reread c.xp).mapValues _
  scores := by
    rw [reload_xp c]
    intro t mem
    simp only [KeyMap.values, KeyMap.mapValues, List.map_map, List.mem_map] at mem
    obtain ⟨e, eMem, rfl⟩ := mem
    exact valid_reread (reread_values_valid c e.2 (List.mem_map_of_mem eMem))
  cups := valid_reread c.cups
  own_ids := by
    rw [reload_applications c]
    intro e mem
    simp only [ownIds, List.mem_map] at mem
    obtain ⟨x, xMem, rfl⟩ := mem
    exact ((valid_reread c.applications).stored_of_mem xMem).1
  recorded := by
    intro k mem
    rw [reload_applications c, keys_ownIds] at mem
    rw [reload_history c, c.history.similar_reread.contains_eq (valid_reread c.history) k]
    exact c.recorded k ((c.applications.similar_reread.perm.map Prod.fst).subset mem)

end Reload

/-! ### Every document reads as a consistent ledger -/

theorem representable_numberKeyed {α : Type} (pairs : List (String × α)) :
    ∀ p ∈ numberKeyed pairs, p.1.Representable := by
  intro p mem
  obtain ⟨q, -, rfl⟩ := List.mem_map.mp mem
  exact Binary64.representable_ofNumeral _

section PendingEntries

variable {apps : KeyMap Application}

theorem valid_withPendingEntries {h : KeyMap HistoryEntry} (appsValid : apps.Valid) (valid : h.Valid) :
    (withPendingEntries apps h).Valid := by
  unfold withPendingEntries
  have keys : ∀ e ∈ apps.entries, e.1.Representable := fun e mem => (appsValid.stored_of_mem mem).2
  generalize apps.entries = es at keys ⊢
  induction es generalizing h with
  | nil => exact valid
  | cons e rest ih =>
    rw [List.foldl_cons]
    apply ih _ fun e' mem => keys e' (List.mem_cons_of_mem _ mem)
    obtain ⟨k, a⟩ := e
    dsimp only
    split
    · exact valid
    · exact valid.set (keys (k, a) List.mem_cons_self) _

theorem contains_pendingEntries_of_contains {h : KeyMap HistoryEntry} {k : Binary64} (held : h.contains k = true)
    (es : List (Binary64 × Application)) :
    (es.foldl (fun h (k, a) => if h.contains k then h else h.set k (pendingEntry a)) h).contains k = true := by
  induction es generalizing h with
  | nil => exact held
  | cons e rest ih =>
    rw [List.foldl_cons]
    apply ih
    obtain ⟨k', a⟩ := e
    dsimp only
    split
    · exact held
    · exact contains_set_of_contains held _ _

theorem contains_withPendingEntries (h : KeyMap HistoryEntry) {k : Binary64} (mem : k ∈ apps.keys) :
    (withPendingEntries apps h).contains k = true := by
  unfold withPendingEntries
  obtain ⟨e, eMem, rfl⟩ := List.mem_map.mp mem
  generalize apps.entries = es at eMem
  induction es generalizing h with
  | nil => simp at eMem
  | cons e' rest ih =>
    rw [List.foldl_cons]
    rcases List.mem_cons.mp eMem with rfl | later
    · -- the step at the application's own entry leaves its key in the history
      apply contains_pendingEntries_of_contains
      obtain ⟨k, a⟩ := e
      dsimp only
      split
      · assumption
      · exact contains_set_self _ _ _
    · exact ih _ later

end PendingEntries

/-- A ledger read from any document is consistent: reading dedups the admins, reads every
key as a number binary64 holds, stamps each application with its key and gives it a history
entry. -/
theorem consistent_ofDocument (d : Document) : (ofDocument d).Consistent := by
  have appsValid : (ofDocument d).applications.Valid := by
    apply valid_ofList
    intro p mem
    obtain ⟨q, qMem, rfl⟩ := List.mem_map.mp mem
    exact representable_numberKeyed _ q qMem
  refine ⟨foldl_addDistinct_distinct d.admins List.Pairwise.nil, valid_ofList (representable_numberKeyed _),
    appsValid, valid_withPendingEntries appsValid (valid_ofList (representable_numberKeyed _)), ?_, ?_,
    valid_ofList (representable_numberKeyed _), ?_, fun k mem => contains_withPendingEntries _ mem⟩
  · apply valid_ofList
    intro p mem
    obtain ⟨q, qMem, rfl⟩ := List.mem_map.mp mem
    exact representable_numberKeyed _ q qMem
  · -- each XP table is read from its own pairs
    intro t mem
    obtain ⟨p, pMem, rfl⟩ := List.mem_map.mp (mem_values_ofList mem)
    obtain ⟨q, -, rfl⟩ := List.mem_map.mp pMem
    exact valid_ofList (representable_numberKeyed _)
  · -- an application holds the key it was read under, which is the same number as its entry's
    intro e mem
    obtain ⟨p, pMem, value, same⟩ := mem_ofList mem
    obtain ⟨q, -, rfl⟩ := List.mem_map.mp pMem
    rw [← value]
    exact ((sameValueZero_stored (appsValid.stored_of_mem mem) _).mp same).symm

end Ledger

end GuildRegistry
