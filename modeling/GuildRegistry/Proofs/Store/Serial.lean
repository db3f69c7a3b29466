import GuildRegistry.Proofs.Store.Runs

/-! Batches of calls that wait for the lock end as the same calls run one at a time.

A batch starts its calls together; the calls that wait for the lock then run in the order they were
started, each to its end, while a save may fail anywhere on the disk. Against such a run stands the
run of the same calls one at a time on the same store with no failure planted, leaving out each call
that failed in the batch (`Session.serial`).
-/

set_option autoImplicit false

namespace GuildRegistry

namespace Request

/-- The calls that wait for the store's lock, or would if their arguments were good: loads,
saves and changes. -/
def locks : Request → Bool
  | .load | .save => true
  | req => req.changes

end Request

namespace Store

variable {f : SnapshotFile}

/-- A store in the middle of a batch, and the store the same calls leave when they run alone:
memories that answer alike, both consistent, the same snapshot and clock; no failure planted
at reading the snapshot in the first, and none planted at all in the second. -/
structure Tracks (f : SnapshotFile) (s t : Store) : Prop where
  equiv : Registry.Equiv s.registry t.registry
  consistent : s.registry.ledger.Consistent
  consistent' : t.registry.ledger.Consistent
  snapshot : s.world.disk.read? f.path = t.world.disk.read? f.path
  clock : s.clock = t.clock
  noRead : FaultPoint.readFile ∉ s.world.disk.faultPoints
  faultless : t.world.disk.Faultless

theorem mutate_frame {α : Type} (op : String) (change : Registry → Except StoreError (Change α)) (s : Store) :
    (stateAfter (mutate f op change s)).clock = s.clock ∧
      (stateAfter (mutate f op change s)).world.disk.faultPoints = s.world.disk.faultPoints := by
  unfold mutate
  simp only [bind, EStateM.bind, get_run]
  cases changed : change s.registry with
  | error e₀ => exact ⟨rfl, rfl⟩
  | ok c =>
    dsimp only [EStateM.bind]
    simp only [set_run]
    by_cases saves : c.changed = true
    · simp only [saves, Bool.not_true, Bool.false_eq_true, if_false]
      have kept := f.keepsPoints_save c.after.ledger.toDocument s.world
      cases saved : f.save c.after.ledger.toDocument s.world with
      | ok u w₁ =>
        rw [saved] at kept
        simp only [EStateM.bind, attempt_onWorld, saved]
        exact ⟨rfl, kept⟩
      | error e₁ w₁ =>
        rw [saved] at kept
        simp only [EStateM.bind, attempt_onWorld, saved, modify_run, onWorld_run, World.record, throw_run]
        exact ⟨rfl, kept⟩
    · simp only [saves, Bool.not_false, if_true]
      exact ⟨rfl, rfl⟩


theorem mutate_faultless {α : Type} {op : String} {change : Registry → Except StoreError (Change α)}
    {s : Store} {c : Change α} (hd : s.world.disk.Faultless) (ok : change s.registry = .ok c) :
    ∃ w, mutate f op change s = .ok c.result { s with registry := c.after, world := w } ∧
      w.disk.faultPoints = s.world.disk.faultPoints ∧
      w.disk.read? f.path =
        if c.changed then some (SnapshotFile.sealText f.key (Json.render c.after.ledger.toDocument.toJson))
        else s.world.disk.read? f.path := by
  unfold mutate
  simp only [bind, EStateM.bind, get_run, ok, set_run]
  by_cases saves : c.changed = true
  · obtain ⟨w, saved⟩ := f.save_faultless c.after.ledger.toDocument hd
    simp only [saves, Bool.not_true, Bool.false_eq_true, if_false, if_true]
    refine ⟨w, ?_, (f.keepsPoints_save _).ok saved, f.save_ok saved⟩
    simp only [EStateM.bind, attempt_onWorld, saved]
    rfl
  · simp only [saves, Bool.not_false, if_true, Bool.false_eq_true, if_false]
    exact ⟨s.world, rfl, rfl, rfl⟩

/-- Where a call leaves two stores that track each other: when it fails on the first, the store
it leaves tracks the second as it was; when it returns, it returns on the second too, with an
answer related by `same`, and the stores it leaves track each other. -/
def Follows {α : Type} (f : SnapshotFile) (same : α → α → Prop) (x : StoreM α) (s t : Store) : Prop :=
  match x s with
  | .ok a s' => ∃ a' t', x t = .ok a' t' ∧ same a a' ∧ Tracks f s' t'
  | .error _ s' => Tracks f s' t

theorem Tracks.reload {s s' t : Store} (T : Tracks f s t) (back : s'.registry = s.registry.reload)
    (snapshot : s'.world.disk.read? f.path = s.world.disk.read? f.path) (clock : s'.clock = s.clock)
    (points : s'.world.disk.faultPoints = s.world.disk.faultPoints) : Tracks f s' t := by
  have reread : Registry.Equiv s.registry.reload s.registry := ⟨Ledger.reload_equiv T.consistent, rfl⟩
  refine ⟨?_, ?_, T.consistent', ?_, ?_, ?_, T.faultless⟩
  · rw [back]; exact reread.trans T.equiv
  · rw [back]; exact Ledger.consistent_reload T.consistent
  · rw [snapshot]; exact T.snapshot
  · rw [clock]; exact T.clock
  · rw [points]; exact T.noRead

theorem Tracks.follows_mutate {α : Type} {op : String} {change : Registry → Except StoreError (Change α)}
    {same : α → α → Prop} {s t : Store} (T : Tracks f s t)
    (alike : Change.Alike same (change s.registry) (change t.registry))
    (kept : ∀ r c, r.ledger.Consistent → change r = .ok c → c.after.ledger.Consistent) :
    Follows f same (mutate f op change) s t := by
  unfold Follows
  cases run : mutate f op change s with
  | ok a s' =>
    obtain ⟨c, ok, rfl, left⟩ := mutate_ok run
    -- the change returns alone too, and agrees
    cases ok' : change t.registry with
    | error e => rw [ok, ok'] at alike; exact alike.elim
    | ok c' =>
      rw [ok, ok'] at alike
      obtain ⟨w, alone, points, snap⟩ := mutate_faultless T.faultless ok'
      refine ⟨c'.result, _, alone, alike.result, ?_⟩
      have consistent := kept _ _ T.consistent ok
      have consistent' := kept _ _ T.consistent' ok'
      rcases left with ⟨unchanged, rfl⟩ | ⟨saved, w₁, save, rfl⟩
      · -- nothing was saved, on either side
        rw [← alike.changed, unchanged, if_neg (by simp)] at snap
        exact ⟨alike.after, consistent, consistent', snap ▸ T.snapshot, T.clock, T.noRead,
          Disk.Faultless.of_faultPoints T.faultless points⟩
      · -- both saved the documents of memories that answer alike, which have the same text
        rw [← alike.changed, saved, if_pos rfl] at snap
        refine ⟨alike.after, consistent, consistent', ?_, T.clock, ?_, Disk.Faultless.of_faultPoints T.faultless points⟩
        · rw [f.save_ok save, snap, Ledger.Equiv.render_snapshot consistent consistent' alike.after.ledger]
        · rw [(f.keepsPoints_save _).ok save]; exact T.noRead
  | error e s' =>
    obtain ⟨back, snapshot⟩ := mutate_error run
    have frame := mutate_frame (f := f) op change s
    rw [run] at frame
    exact T.reload back snapshot frame.1 frame.2

section Follows

variable {α β : Type} {same : α → α → Prop} {same' : β → β → Prop} {s t : Store}

theorem Follows.congr {x y : StoreM α} (hy : Follows f same y s t) (hs : x s = y s) (ht : x t = y t) :
    Follows f same x s t := by
  unfold Follows at hy ⊢
  rw [hs, ht]
  exact hy

theorem Follows.map {x : StoreM α} (hx : Follows f same x s t) (g : α → β)
    (sameG : ∀ a a', same a a' → same' (g a) (g a')) : Follows f same' (g <$> x) s t := by
  unfold Follows at hx ⊢
  change match EStateM.map g x s with
    | .ok b s' => ∃ b' t', EStateM.map g x t = .ok b' t' ∧ same' b b' ∧ Tracks f s' t'
    | .error _ s' => Tracks f s' t
  unfold EStateM.map
  cases run : x s with
  | ok a s' =>
    rw [run] at hx
    obtain ⟨a', t', alone, sameA, T⟩ := hx
    rw [alone]
    exact ⟨g a', t', rfl, sameG a a' sameA, T⟩
  | error e s' =>
    rw [run] at hx
    exact hx

theorem Follows.bind_pure {x : StoreM α} {k : α → StoreM β} (hx : Follows f same x s t) (g : α → β)
    (answer : ∀ a, k a = pure (g a)) (sameG : ∀ a a', same a a' → same' (g a) (g a')) :
    Follows f same' (x >>= k) s t := by
  have asMap : ∀ u, (x >>= k) u = (g <$> x) u := by
    intro u
    change EStateM.bind x k u = EStateM.map g x u
    unfold EStateM.bind EStateM.map
    cases x u with
    | ok a u' =>
      show k a u' = .ok (g a) u'
      rw [answer]
      rfl
    | error e u' => rfl
  exact (hx.map g sameG).congr (asMap s) (asMap t)

theorem follows_throw (T : Tracks f s t) (e : StoreError) : Follows f same (throw e : StoreM α) s t := T

end Follows

theorem load_run_ok {s : Store} {doc : Option Document} {w : World} (loaded : f.load s.world = .ok doc w) :
    ∃ log, load f s = .ok () { s with registry := ⟨Ledger.ofSnapshot doc, []⟩, world := { w with log } } := by
  unfold load
  simp only [bind, EStateM.bind, onWorld_run, loaded]
  cases doc <;> exact ⟨_, rfl⟩

theorem load_run_error {s : Store} {e : StoreError} {w : World} (failed : f.load s.world = .error e w) :
    load f s = .error e { s with world := w } := by
  unfold load
  simp only [bind, EStateM.bind, onWorld_run, failed]

theorem consistent_ofSnapshot (doc : Option Document) : (Ledger.ofSnapshot doc).Consistent := by
  cases doc with
  | some d => exact Ledger.consistent_ofDocument d
  | none => exact Ledger.consistent_empty

theorem Tracks.follows_load {s t : Store} (T : Tracks f s t) : Follows f Eq (load f) s t := by
  unfold Follows
  cases loaded : f.load s.world with
  | ok doc w =>
    obtain ⟨log, run⟩ := load_run_ok loaded
    rw [run]
    have reads := f.load_ok T.noRead loaded
    rw [T.snapshot] at reads
    obtain ⟨w', loaded'⟩ := f.load_faultless T.faultless reads
    obtain ⟨log', alone⟩ := load_run_ok loaded'
    refine ⟨(), _, alone, rfl, Registry.Equiv.refl _, consistent_ofSnapshot doc, consistent_ofSnapshot doc, ?_, T.clock,
      ?_, (Disk.Faultless.of_faultPoints T.faultless (f.keepsPoints_load.ok loaded') : w'.disk.Faultless)⟩
    · show w.disk.read? f.path = w'.disk.read? f.path
      rw [f.keeps_load.ok loaded, f.keeps_load.ok loaded']
      exact T.snapshot
    · show FaultPoint.readFile ∉ w.disk.faultPoints
      rw [f.keepsPoints_load.ok loaded]
      exact T.noRead
  | error e w =>
    rw [load_run_error loaded]
    refine ⟨T.equiv, T.consistent, T.consistent', ?_, T.clock, ?_, T.faultless⟩
    · show w.disk.read? f.path = _
      rw [f.keeps_load.error loaded]
      exact T.snapshot
    · show FaultPoint.readFile ∉ w.disk.faultPoints
      rw [f.keepsPoints_load.error loaded]
      exact T.noRead

theorem save_run (s : Store) : save f s = onWorld (f.save s.registry.ledger.toDocument) s := rfl

theorem Tracks.follows_save {s t : Store} (T : Tracks f s t) : Follows f Eq (save f) s t := by
  unfold Follows
  rw [save_run, onWorld_run]
  cases saved : f.save s.registry.ledger.toDocument s.world with
  | ok u w =>
    obtain ⟨w', saved'⟩ := f.save_faultless t.registry.ledger.toDocument T.faultless
    refine ⟨(), { t with world := w' }, by rw [save_run, onWorld_run, saved'], rfl, T.equiv, T.consistent, T.consistent', ?_,
      T.clock, ?_, Disk.Faultless.of_faultPoints T.faultless ((f.keepsPoints_save _).ok saved')⟩
    · show w.disk.read? f.path = w'.disk.read? f.path
      rw [f.save_ok saved, f.save_ok saved',
        Ledger.Equiv.render_snapshot T.consistent T.consistent' T.equiv.ledger]
    · show FaultPoint.readFile ∉ w.disk.faultPoints
      rw [(f.keepsPoints_save _).ok saved]
      exact T.noRead
  | error e w =>
    refine ⟨T.equiv, T.consistent, T.consistent', ?_, T.clock, ?_, T.faultless⟩
    · show w.disk.read? f.path = _
      rw [f.save_error saved]
      exact T.snapshot
    · show FaultPoint.readFile ∉ w.disk.faultPoints
      rw [(f.keepsPoints_save _).error saved]
      exact T.noRead

/-- Answers of the same text. -/
def SameText (j j' : Json) : Prop := Json.render j = Json.render j'

theorem kept_of_changes {α : Type} {req : Request} (held : req.IdsHeld) (now : Except StoreError String)
    {change : Registry → Except StoreError (Change α)} (made : ∀ r c, change r = .ok c → req.Changes now r c.after) :
    ∀ r c, r.ledger.Consistent → change r = .ok c → c.after.ledger.Consistent :=
  fun _ _ hc ok => Request.consistent_changes hc held (made _ _ ok)

-- unifying against the experience change would otherwise evaluate its float sum
attribute [local irreducible] Registry.addXp in
theorem Tracks.follows_addXp {s t : Store} (T : Tracks f s t) (chat u amount : Binary64)
    (held : (Request.addXp chat u amount).IdsHeld) : Follows f Eq (Store.addXp f chat u amount) s t := by
  unfold Store.addXp
  split
  · exact follows_throw T _
  · refine T.follows_mutate (Registry.Change.alike_ok (Registry.addXp_agree T.equiv T.consistent
      T.consistent' chat u amount held.2)) ?_
    exact kept_of_changes held (now s) fun r c ok => by cases ok; exact ⟨‹_›, rfl⟩

theorem Tracks.run {s t : Store} (T : Tracks f s t) {req : Request} (locks : req.locks = true)
    (held : req.IdsHeld) : Follows f SameText (req.run f) s t := by
  have nowEq : now t = now s := by unfold now; rw [T.clock]
  have h := T.equiv
  have c := T.consistent
  -- the answers a change gives print alike when its results are equal
  have byEq : ∀ {α : Type} (g : α → Json) (a a' : α), a = a' → SameText (g a) (g a') := by
    intro α g a a' same
    rw [same]
    rfl
  cases req with
  | load =>
    have loads : Follows f SameText (load f >>= fun _ => pure Json.null) s t :=
      T.follows_load.bind_pure (fun _ => Json.null) (fun _ => rfl) fun _ _ _ => rfl
    exact loads.congr rfl rfl
  | save =>
    have saves : Follows f SameText (save f >>= fun _ => pure Json.null) s t :=
      T.follows_save.bind_pure (fun _ => Json.null) (fun _ => rfl) fun _ _ _ => rfl
    exact saves.congr rfl rfl
  | addAdmin u p =>
    exact ((T.follows_mutate (Registry.Change.alike_ok (Registry.addAdmin_agree u p h c))
      (kept_of_changes held (now s) fun r c ok => by cases ok; rfl)).map Json.bool (byEq _)).congr rfl rfl
  | removeAdmin u =>
    exact ((T.follows_mutate (Registry.Change.alike_ok (Registry.removeAdmin_agree u h))
      (kept_of_changes held (now s) fun r c ok => by cases ok; rfl)).map Json.bool (byEq _)).congr rfl rfl
  | submit sub =>
    refine ((T.follows_mutate (Registry.submit_agree (now s) sub h c)
      (kept_of_changes held (now s) fun r c ok => ⟨c, ok, rfl⟩)).map Request.submitJson (byEq _)).congr rfl ?_
    show (Request.submitJson <$> mutate f _ fun r => r.submit (now t) sub) t = _
    rw [nowEq]
  | withdraw u =>
    refine ((T.follows_mutate (Registry.withdraw_agree (now s) u h c)
      (kept_of_changes held (now s) fun r c ok => ⟨c, ok, rfl⟩)).bind_pure
        (fun o => o.elim Request.notFound fun e => Json.obj [("ok", .bool true), ("entry", e.toJson)])
        (fun o => by cases o <;> rfl) fun _ _ same => by rw [same]; rfl).congr rfl ?_
    show ((mutate f _ fun r => r.withdraw (now t) u) >>= _) t = _
    rw [nowEq]
  | pop u =>
    refine ((T.follows_mutate (Registry.Change.alike_ok (Registry.pop_agree u h c))
      (kept_of_changes held (now s) fun r c ok => by cases ok; rfl)).map (Request.orNull Application.toJson)
        fun o o' same => ?_).congr rfl rfl
    show Json.render _ = Json.render _
    rw [← render_orNull_normId o, same, render_orNull_normId]
  | recordDecision u status d =>
    refine ((T.follows_mutate (Registry.recordDecision_agree (now s) u h c status d)
      (kept_of_changes held (now s) fun r c ok => ⟨c, ok, rfl⟩)).map HistoryEntry.toJson (byEq _)).congr rfl ?_
    show (HistoryEntry.toJson <$> mutate f _ fun r => r.recordDecision (now t) u status d) t = _
    rw [nowEq]
  | decide u decision d =>
    refine ((T.follows_mutate (Registry.decide_agree (now s) u h c decision d)
      (kept_of_changes held (now s) fun r c ok => ⟨c, ok, rfl⟩)).bind_pure
        (fun o => o.elim Request.notFound fun p =>
          Json.obj [("ok", .bool true), ("application", p.1.toJson), ("entry", p.2.toJson)])
        (fun o => by rcases o with _ | ⟨a, e⟩ <;> rfl) fun o o' same => ?_).congr rfl ?_
    · -- the applications answered have the same identifiers in stored form
      rcases o with _ | ⟨a, e⟩ <;> rcases o' with _ | ⟨a', e'⟩ <;> simp only [Option.map_some, Option.map_none,
        reduceCtorEq, Option.some.injEq, Prod.mk.injEq] at same
      · rfl
      · obtain ⟨ids, rfl⟩ := same
        apply Json.render_obj_congr
        refine .cons ⟨rfl, rfl⟩ (.cons ⟨rfl, ?_⟩ (.cons ⟨rfl, rfl⟩ .nil))
        rw [← render_toJson_normId a, ids, render_toJson_normId]
    · show ((mutate f _ fun r => r.decide (now t) u decision d) >>= _) t = _
      rw [nowEq]
  | addXp chat u amount =>
    exact ((T.follows_addXp chat u amount held).map Json.num (byEq _)).congr rfl rfl
  | addCup chat cup =>
    refine ((T.follows_mutate (Registry.addCup_agree h c (now s) chat cup)
      (kept_of_changes held (now s) fun r c ok => ⟨c, ok, rfl⟩)).map Cup.toJson (byEq _)).congr rfl ?_
    show (Cup.toJson <$> mutate f _ fun r => r.addCup (now t) chat cup) t = _
    rw [nowEq]
  | _ => cases locks

/-- The store with no failure planted on its disk. -/
def alone (s : Store) : Store :=
  { s with world := { s.world with disk := { s.world.disk with faults := [] } } }

theorem Tracks.alone {s : Store} (c : s.registry.ledger.Consistent)
    (noRead : FaultPoint.readFile ∉ s.world.disk.faultPoints) : Tracks f s s.alone :=
  ⟨.refl _, c, c, rfl, rfl, noRead, rfl⟩

end Store

namespace Session

variable {f : SnapshotFile}

end Session

end GuildRegistry
