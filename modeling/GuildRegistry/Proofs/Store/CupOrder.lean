import Mathlib
import GuildRegistry.Proofs.Store.Queue
import GuildRegistry.Proofs.Store.Lifecycle

/-! Cup history, newest first.

A chat's cup history numbers the chat's cups by their place in its list and sorts them by creation
time, newest first, a cup of the same time as another coming first when it stands later
(`Ledger.cupOrder`, which is comparison by `Ledger.cupKey`).
-/

set_option autoImplicit false

namespace GuildRegistry

theorem pairwise_zipIdx {α : Type} {R : α → α → Prop} {xs : List α} (ordered : xs.Pairwise R) (k : Nat) :
    (xs.zipIdx k).Pairwise fun p q => R p.1 q.1 ∧ p.2 < q.2 := by
  induction ordered generalizing k with
  | nil => exact List.Pairwise.nil
  | @cons x rest first _ ih =>
    refine List.pairwise_cons.mpr ⟨fun q mem => ⟨first q.1 (List.fst_mem_of_mem_zipIdx mem), ?_⟩, ih (k + 1)⟩
    exact Nat.lt_of_succ_le (List.le_snd_of_mem_zipIdx mem)

namespace Ledger

/-- The order of the cup history: a numbered cup may come first when it is newer, or as new and
numbered no lower. -/
def cupOrder (p q : Cup × Nat) : Bool :=
  let c := Timestamp.compareNewest p.1.createdAt q.1.createdAt
  if c ≠ 0 then c < 0 else q.2 ≤ p.2

theorem cupHistory_eq (l : Ledger) (chat limit : Binary64) :
    l.cupHistory chat limit = takeLimit limit ((((l.cups.get? chat).getD []).zipIdx.mergeSort cupOrder).map (·.1)) :=
  rfl

/-- The key the cup history sorts by, largest first: how new a cup is, then its number. -/
def cupKey (p : Cup × Nat) : WithBot Int ×ₗ Nat := toLex (newness p.1.createdAt, p.2)

theorem cupOrder_iff (p q : Cup × Nat) : cupOrder p q = true ↔ cupKey q ≤ cupKey p := by
  have newer := compareNewest_nonpos_iff p.1.createdAt q.1.createdAt
  have older := compareNewest_nonneg_iff p.1.createdAt q.1.createdAt
  rw [cupKey, cupKey, Prod.Lex.toLex_le_toLex, cupOrder]
  by_cases tied : Timestamp.compareNewest p.1.createdAt q.1.createdAt = 0
  · have same : newness p.1.createdAt = newness q.1.createdAt :=
      le_antisymm (older.mp tied.ge) (newer.mp tied.le)
    simp [tied, same]
  · have apart : newness p.1.createdAt ≠ newness q.1.createdAt := fun same =>
      tied (le_antisymm (newer.mpr same.ge) (older.mpr same.le))
    simp only [ne_eq, tied, not_false_eq_true, if_true, decide_eq_true_eq, apart.symm, false_and, or_false]
    rw [← not_le, older, not_le]

theorem cupOrder_trans (a b c : Cup × Nat) (first : cupOrder a b = true) (second : cupOrder b c = true) :
    cupOrder a c = true := by
  rw [cupOrder_iff] at *
  exact le_trans second first

theorem cupOrder_total (a b : Cup × Nat) : (cupOrder a b || cupOrder b a) = true := by
  rw [Bool.or_eq_true, cupOrder_iff, cupOrder_iff]
  exact (le_total _ _).symm

theorem mergeSort_cupOrder {cups : List Cup}
    (chronological : (cups.map (·.createdAt)).Pairwise fun a b => newness a ≤ newness b) :
    cups.zipIdx.mergeSort cupOrder = cups.zipIdx.reverse := by
  have rising : cups.zipIdx.Pairwise fun p q => cupKey p < cupKey q := by
    refine (pairwise_zipIdx (List.pairwise_map.mp chronological) 0).imp fun {p q} ⟨older, before⟩ => ?_
    rw [cupKey, cupKey, Prod.Lex.toLex_lt_toLex]
    exact (lt_or_eq_of_le older).imp_right fun same => ⟨same, before⟩
  have sorted := List.pairwise_mergeSort cupOrder_trans cupOrder_total cups.zipIdx
  have perm := (List.mergeSort_perm cups.zipIdx cupOrder).trans (List.reverse_perm _).symm
  refine @List.Perm.eq_of_pairwise _ (fun p q => cupOrder p q = true) _ _ (fun p q hp hq first second => ?_)
    sorted ?_ perm
  · have same : cupKey p = cupKey q :=
      le_antisymm ((cupOrder_iff _ _).mp second) ((cupOrder_iff _ _).mp first)
    rw [cupKey, cupKey, toLex_inj, Prod.mk.injEq] at same
    have atP := List.mem_zipIdx_iff_getElem?.mp ((List.mergeSort_perm _ _).subset hp)
    have atQ := List.mem_zipIdx_iff_getElem?.mp (List.mem_reverse.mp hq)
    rw [same.2, atQ, Option.some.injEq] at atP
    exact Prod.ext atP.symm same.2
  · rw [List.pairwise_reverse]
    exact rising.imp fun before => (cupOrder_iff _ _).mpr before.le

/-- The creation times of a chat's cups, in the order of its list. -/
def cupTimes (l : Ledger) (chat : Binary64) : List String := ((l.cups.get? chat).getD []).map (·.createdAt)

theorem cupHistory_of_chronological (l : Ledger) {chat : Binary64}
    (chronological : (l.cupTimes chat).Pairwise fun a b => newness a ≤ newness b) (limit : Binary64) :
    l.cupHistory chat limit = takeLimit limit ((l.cups.get? chat).getD []).reverse := by
  rw [cupHistory_eq, mergeSort_cupOrder chronological, List.map_reverse, List.zipIdx_map_fst]

/-! ### Cups stamped by a clock that never moves back -/

/-- Every chat's cup times never decrease along its list, and each is the stamp of an instant of
a four-digit year no later than the bound. -/
structure CupsInOrder (l : Ledger) (bound : Int) : Prop where
  chronological : ∀ chat, (l.cupTimes chat).Pairwise fun a b => newness a ≤ newness b
  stamped : ∀ chat, ∀ x ∈ l.cupTimes chat, ∃ t : Instant, Timestamp.FourDigitYear t ∧ x = t.toIso ∧ t.ms ≤ bound

variable {l l' : Ledger} {bound : Int}

theorem CupsInOrder.mono (ordered : l.CupsInOrder bound) {bound' : Int} (later : bound ≤ bound') :
    l.CupsInOrder bound' where
  chronological := ordered.chronological
  stamped chat x mem := by
    obtain ⟨t, four, stamp, early⟩ := ordered.stamped chat x mem
    exact ⟨t, four, stamp, early.trans later⟩

theorem CupsInOrder.of_cupTimes (ordered : l.CupsInOrder bound) (same : ∀ chat, l'.cupTimes chat = l.cupTimes chat) :
    l'.CupsInOrder bound where
  chronological chat := (same chat).symm ▸ ordered.chronological chat
  stamped chat := (same chat).symm ▸ ordered.stamped chat

theorem CupsInOrder.of_cups (ordered : l.CupsInOrder bound) (same : l'.cups = l.cups) : l'.CupsInOrder bound :=
  ordered.of_cupTimes fun chat => by rw [cupTimes, cupTimes, same]

theorem cupsInOrder_empty (bound : Int) : empty.CupsInOrder bound where
  chronological _ := List.Pairwise.nil
  stamped _ _ mem := absurd mem List.not_mem_nil

theorem newness_toIso {t : Instant} (four : Timestamp.FourDigitYear t) : newness t.toIso = t.ms := by
  rw [newness, Timestamp.parse?_toIso four]

theorem cupTimes_addCup {r : Registry} {stamp : String} {chat : Binary64} {cup : NewCup} {c : Change Cup}
    (ok : r.addCup (.ok stamp) chat cup = .ok c) (chat' : Binary64) :
    c.after.ledger.cupTimes chat' =
      if Binary64.sameValueZero chat' chat = true then r.ledger.cupTimes chat ++ [stamp] else r.ledger.cupTimes chat' := by
  cases ok
  split
  · rename_i same
    simp [cupTimes, KeyMap.get?_congr _ same, KeyMap.get?_set_self]
  · rename_i other
    simp [cupTimes, KeyMap.get?_set_of_other _ _ (Bool.eq_false_iff.mpr other)]

theorem CupsInOrder.addCup {r : Registry} {t : Instant} (ordered : r.ledger.CupsInOrder t.ms)
    (four : Timestamp.FourDigitYear t) {chat : Binary64} {cup : NewCup} {c : Change Cup}
    (ok : r.addCup (.ok t.toIso) chat cup = .ok c) : c.after.ledger.CupsInOrder t.ms where
  chronological chat' := by
    rw [cupTimes_addCup ok]
    split
    · refine List.pairwise_append.mpr ⟨ordered.chronological chat, List.pairwise_singleton _ _, fun x mem y latest => ?_⟩
      rw [List.mem_singleton] at latest
      obtain ⟨s, sFour, rfl, early⟩ := ordered.stamped chat x mem
      rw [latest, newness_toIso sFour, newness_toIso four]
      exact WithBot.coe_le_coe.mpr early
    · exact ordered.chronological chat'
  stamped chat' x mem := by
    rw [cupTimes_addCup ok] at mem
    split at mem
    · rcases List.mem_append.mp mem with old | latest
      · exact ordered.stamped chat x old
      · exact ⟨t, four, List.mem_singleton.mp latest, le_rfl⟩
    · exact ordered.stamped chat' x mem

theorem CupsInOrder.changes {req : Request} {r r' : Registry} {t : Instant} (ordered : r.ledger.CupsInOrder t.ms)
    (four : Timestamp.FourDigitYear t) (moved : req.Changes (.ok t.toIso) r r') : r'.ledger.CupsInOrder t.ms := by
  rcases Request.tables_changes moved with ⟨-, cups⟩ | ⟨chat, u, amount, -, -, rfl⟩ | ⟨chat, cup, c, -, ok, rfl⟩
  · exact ordered.of_cups cups
  · exact ordered.of_cups rfl
  · exact ordered.addCup four ok

theorem cupTimes_reload (c : l.Consistent) (chat : Binary64) : l.reload.cupTimes chat = l.cupTimes chat := by
  rw [cupTimes, cupTimes, reload_cups, ← KeyMap.Similar.get?_eq c.cups c.cups.similar_reread.symm]

theorem normalize_toIso {t : Instant} (four : Timestamp.FourDigitYear t) :
    Timestamp.normalize (Text.toUnits t.toIso) = t.toIso := by
  have ascii : ∀ c ∈ t.toIso.toList, c.toNat < 128 := fun c mem => by
    have printable := Timestamp.printable_toIso t c mem
    omega
  rw [Text.toUnits_of_ascii ascii, Timestamp.normalize, Timestamp.parse?_toIso four]

theorem cupTimes_of_restores (ordered : l.CupsInOrder bound) (restores : l.Restores l') (chat : Binary64) :
    l'.cupTimes chat = l.cupTimes chat := by
  have read := restores.cupTimes chat
  have stamped := ordered.stamped chat
  unfold cupTimes at stamped ⊢
  cases found : l.cups.get? chat with
  | none =>
    rw [found, Option.map_none, Option.map_eq_none_iff] at read
    rw [read]
  | some cups =>
    rw [found, Option.map_some, Option.map_eq_some_iff] at read
    obtain ⟨cups', found', times⟩ := read
    rw [found] at stamped
    rw [found', Option.getD_some, times, Option.getD_some]
    -- every stamp reads back as itself
    refine List.map_congr_left fun c mem => ?_
    obtain ⟨t, four, stamp, -⟩ := stamped c.createdAt (List.mem_map_of_mem mem)
    rw [stamp, normalize_toIso four]

end Ledger

namespace SnapshotFile

variable {f : SnapshotFile}

/-- The snapshot, when there is one, holds the sealed document of a consistent ledger whose cups
are in order and made no later than the bound. -/
def HoldsCupsInOrder (f : SnapshotFile) (d : Disk) (bound : Int) : Prop :=
  ∀ bytes, d.read? f.path = some bytes → ∃ l : Ledger, l.Consistent ∧ l.CupsInOrder bound ∧ bytes = f.sealed l

theorem HoldsCupsInOrder.mono {d : Disk} {bound bound' : Int} (holds : f.HoldsCupsInOrder d bound)
    (later : bound ≤ bound') : f.HoldsCupsInOrder d bound' := fun bytes found => by
  obtain ⟨l, c, ordered, sealed⟩ := holds bytes found
  exact ⟨l, c, ordered.mono later, sealed⟩

theorem cupsInOrder_ofSnapshot {w w' : World} {doc : Option Document} {bound : Int}
    (holds : f.HoldsCupsInOrder w.disk bound) (loaded : f.load w = .ok doc w') :
    (Ledger.ofSnapshot doc).CupsInOrder bound := by
  cases doc with
  | none => exact Ledger.cupsInOrder_empty bound
  | some d =>
    obtain ⟨bytes, found, -⟩ := f.load_some loaded
    obtain ⟨l, c, ordered, rfl⟩ := holds bytes found
    exact ordered.of_cupTimes (Ledger.cupTimes_of_restores ordered (f.load_restores c found loaded))

end SnapshotFile

namespace Store

variable {f : SnapshotFile}

/-- The clock reads an instant of a four-digit year, and the memory and the snapshot hold
consistent ledgers whose cups are in order and made no later than that instant. -/
structure CupsInOrderAt (f : SnapshotFile) (s : Store) (t : Instant) : Prop where
  clock : Instant.ofTimeValue? s.clock = some t
  four : Timestamp.FourDigitYear t
  consistent : s.registry.ledger.Consistent
  memory : s.registry.ledger.CupsInOrder t.ms
  snapshot : f.HoldsCupsInOrder s.world.disk t.ms

/-- The clock may move to a time that reads an instant of a four-digit year, no earlier than the
instant it reads. -/
def ClockMovesTo (s : Store) (c : Binary64) : Prop :=
  ∃ t t', Instant.ofTimeValue? s.clock = some t ∧ Instant.ofTimeValue? c = some t' ∧
    Timestamp.FourDigitYear t' ∧ t.ms ≤ t'.ms

theorem now_of_clock {s : Store} {t : Instant} (clock : Instant.ofTimeValue? s.clock = some t) :
    now s = .ok t.toIso := by
  rw [now, clock]

theorem CupsInOrderAt.of_frame {s s' : Store} {t t' : Instant} (kept : s.CupsInOrderAt f t)
    (clock : Instant.ofTimeValue? s'.clock = some t') (four : Timestamp.FourDigitYear t') (later : t.ms ≤ t'.ms)
    (registry : s'.registry = s.registry)
    (snapshot : s'.world.disk.read? f.path = s.world.disk.read? f.path ∨ s'.world.disk.read? f.path = none) :
    s'.CupsInOrderAt f t' where
  clock := clock
  four := four
  consistent := registry ▸ kept.consistent
  memory := registry ▸ kept.memory.mono later
  snapshot bytes found := by
    rcases snapshot with same | gone
    · rw [same] at found
      exact kept.snapshot.mono later bytes found
    · rw [gone] at found
      cases found

theorem cupsInOrderAt_start {clock : Binary64} {staleTemp : Option String} {t : Instant}
    (clocked : Instant.ofTimeValue? clock = some t) (four : Timestamp.FourDigitYear t) :
    (Session.start f clock none staleTemp).CupsInOrderAt f t where
  clock := clocked
  four := four
  consistent := Ledger.consistent_empty
  memory := Ledger.cupsInOrder_empty t.ms
  snapshot bytes found := by
    -- a stale temporary file is beside the snapshot, not in its place
    cases staleTemp with
    | none => cases found
    | some text =>
      change (Disk.empty.put f.tempPath (Utf8.encode text)).read? f.path = some bytes at found
      rw [Disk.read?_put_of_ne _ f.path_ne_tempPath] at found
      cases found

end Store

namespace Request

variable {f : SnapshotFile}

theorem cupsInOrder_persists {req : Request} {s s' : Store} {t : Instant} (held : req.IdsHeld)
    (kept : s.CupsInOrderAt f t) (framed : Store.Framed s s') (persists : req.Persists f s s') :
    s'.CupsInOrderAt f t := by
  have consistent := consistent_leaves kept.consistent held persists.leaves
  have memory : s'.registry.ledger.CupsInOrder t.ms := by
    rcases persists with ⟨same | moved, -⟩ | ⟨-, ⟨-, reread⟩ | ⟨-, doc, w, loaded, left⟩⟩
    · rw [same]
      exact kept.memory
    · rw [Store.now_of_clock kept.clock] at moved
      exact kept.memory.changes kept.four moved
    · rw [reread]
      exact kept.memory.of_cupTimes (Ledger.cupTimes_reload kept.consistent)
    · rw [left]
      exact f.cupsInOrder_ofSnapshot kept.snapshot loaded
  refine ⟨by rw [framed.1]; exact kept.clock, kept.four, consistent, memory, fun bytes found => ?_⟩
  rcases persists with ⟨-, saved | ⟨unchanged, -⟩⟩ | ⟨unchanged, -⟩
  · rw [saved, Option.some.injEq] at found
    exact ⟨_, consistent, memory, found.symm⟩
  · rw [unchanged] at found
    exact kept.snapshot bytes found
  · rw [unchanged] at found
    exact kept.snapshot bytes found

end Request

namespace Action

/-- An action as a store that keeps time runs it: a call hands identifiers binary64 can hold, the
clock moves only forward and within four-digit years, and nothing writes the snapshot from
outside. -/
def Timely (s : Store) : Action → Prop
  | .call req => req.IdsHeld
  | .setClock c => s.ClockMovesTo c
  | .advance ms => s.ClockMovesTo (s.clock + ms)
  | .writeSnapshot _ => False
  | _ => True

end Action

namespace Store

variable {f : SnapshotFile}

theorem CupsInOrderAt.run {s : Store} {t : Instant} {a : Action} (kept : s.CupsInOrderAt f t)
    (timely : a.Timely s) : ∃ t', (stateAfter (a.run f s)).CupsInOrderAt f t' := by
  -- a move of the clock starts from the instant it reads
  have moves : ∀ c, s.ClockMovesTo c →
      ∃ t', Instant.ofTimeValue? c = some t' ∧ Timestamp.FourDigitYear t' ∧ t.ms ≤ t'.ms := by
    rintro c ⟨t₀, t', current, next, four, later⟩
    rw [kept.clock, Option.some.injEq] at current
    exact ⟨t', next, four, current ▸ later⟩
  cases a with
  | call req =>
    obtain ⟨framed, persists⟩ := req.run_persists s
    exact ⟨t, Request.cupsInOrder_persists timely kept framed persists⟩
  | setClock c =>
    obtain ⟨t', clock, four, later⟩ := moves c timely
    exact ⟨t', kept.of_frame clock four later rfl (.inl rfl)⟩
  | advance ms =>
    obtain ⟨t', clock, four, later⟩ := moves _ timely
    exact ⟨t', kept.of_frame clock four later rfl (.inl rfl)⟩
  | writeSnapshot c => exact timely.elim
  | deleteSnapshot =>
    exact ⟨t, kept.of_frame kept.clock kept.four le_rfl rfl (.inr (Disk.read?_delete_self _ _))⟩
  | writeTemp text =>
    exact ⟨t, kept.of_frame kept.clock kept.four le_rfl rfl (.inl (Disk.read?_put_of_ne _ f.path_ne_tempPath _))⟩
  | plant p times code => exact ⟨t, kept.of_frame kept.clock kept.four le_rfl rfl (.inl rfl)⟩
  | report =>
    rw [Action.report_run]
    exact ⟨t, kept⟩

end Store

namespace Session

variable {f : SnapshotFile}

/-- In every store reached from one with nothing in memory and no snapshot, its clock at an
instant of a four-digit year, by actions that move the clock only forward and within four-digit
years and never write the snapshot from outside (restarts, failed and rolled-back calls
included), every chat's cup history is the chat's list of cups read backwards, cut to the limit:
each cup once, newest first, and cups added at the same instant latest added first. -/
theorem cups_newest_first {clock : Binary64} {staleTemp : Option String} {s : Store}
    (started : ∃ t, Instant.ofTimeValue? clock = some t ∧ Timestamp.FourDigitYear t)
    (reached : Reaches f Action.Timely (start f clock none staleTemp) s) (chat limit : Binary64) :
    s.registry.ledger.cupHistory chat limit = takeLimit limit ((s.registry.ledger.cups.get? chat).getD []).reverse := by
  obtain ⟨t₀, clocked, four⟩ := started
  obtain ⟨t, kept⟩ := reached.holds (P := fun s => ∃ t, s.CupsInOrderAt f t)
    ⟨t₀, Store.cupsInOrderAt_start clocked four⟩ fun _ _ timely ⟨_, kept⟩ => kept.run timely
  exact s.registry.ledger.cupHistory_of_chronological (kept.memory.chronological chat) limit

-- Checking that the literal ids are on the grid unfolds `2 ^ 1074` one step at a time.
set_option maxRecDepth 20000 in
/-- Two cups added at the same instant, the clock moved on a minute, and a third cup added: the
history lists the third, then the second, then the first. -/
theorem cups_newest_first_after_a_minute :
    let f : SnapshotFile := ⟨"data/storage.enc", ⟨[], []⟩⟩
    let s₀ := start f 1714555800000 none none
    let add : String → Action := fun title => .call (.addCup 7 ⟨title, "", []⟩)
    let s₂ := stateAfter ((add "Second").run f (stateAfter ((add "First").run f s₀)))
    let s := stateAfter ((add "Third").run f (stateAfter ((Action.advance 60000).run f s₂)))
    (∃ t, Instant.ofTimeValue? 1714555800000 = some t ∧ Timestamp.FourDigitYear t) ∧
      Reaches f Action.Timely s₀ s ∧
      s.registry.ledger.cupHistory 7 10 = takeLimit 10 ((s.registry.ledger.cups.get? 7).getD []).reverse := by
  intro f s₀ add s₂ s
  have started : ∃ t, Instant.ofTimeValue? 1714555800000 = some t ∧ Timestamp.FourDigitYear t :=
    ⟨⟨1714555800000⟩, by decide +kernel, by decide⟩
  have moved : Action.Timely s₂ (.advance 60000) :=
    ⟨⟨1714555800000⟩, ⟨1714555860000⟩, by decide +kernel, by decide +kernel, by decide, by decide⟩
  have reached : Reaches f Action.Timely s₀ s :=
    .tail (.tail (.tail (.tail .refl (Binary64.representable_ofNat 7)) (Binary64.representable_ofNat 7)) moved)
      (Binary64.representable_ofNat 7)
  exact ⟨started, reached, cups_newest_first started reached 7 10⟩

end Session

end GuildRegistry
