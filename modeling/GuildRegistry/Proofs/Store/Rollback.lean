import GuildRegistry.Proofs.Store.Frame
import GuildRegistry.Proofs.Store.Changes
import GuildRegistry.Store.Session

/-! What a failed call leaves behind.

A failed change puts back its memory reread from its own document, and the snapshot file keeps
its bytes. Reading back puts the keys that print as index keys first, in ascending order, so a
view that lists a map in its order can come back reordered (`failed_save_reorders_pending`).
-/

set_option autoImplicit false

namespace GuildRegistry

namespace Store

/-! ### Running the store's primitives -/

theorem set_run (s₁ s : Store) : (set s₁ : StoreM PUnit) s = .ok ⟨⟩ s₁ := rfl

theorem modify_run (g : Store → Store) (s : Store) : (modify g : StoreM PUnit) s = .ok ⟨⟩ (g s) := rfl

theorem throw_run {α : Type} (e : StoreError) (s : Store) : (throw e : StoreM α) s = .error e s := rfl

theorem onWorld_run {β : Type} (op : WorldM β) (s : Store) :
    onWorld op s = match op s.world with
      | .ok a w => .ok a { s with world := w }
      | .error e w => .error e { s with world := w } := rfl

theorem attempt_onWorld {β : Type} (op : WorldM β) (s : Store) :
    attempt (onWorld op) s = match op s.world with
      | .ok a w => .ok (.ok a) { s with world := w }
      | .error e w => .ok (.error e) { s with world := w } := by
  unfold attempt onWorld
  cases op s.world <;> rfl

theorem mutate_error {α : Type} {f : SnapshotFile} {op : String} {change : Registry → Except StoreError (Change α)}
    {s s' : Store} {e : StoreError} (failed : mutate f op change s = .error e s') :
    s'.registry = s.registry.reload ∧ s'.world.disk.read? f.path = s.world.disk.read? f.path := by
  unfold mutate at failed
  simp only [bind, EStateM.bind, get_run] at failed
  cases changed : change s.registry with
  | error e₀ =>
    -- the change itself failed before anything was saved
    rw [changed] at failed
    cases failed
    exact ⟨rfl, rfl⟩
  | ok c =>
    rw [changed] at failed
    dsimp only [EStateM.bind] at failed
    simp only [set_run] at failed
    by_cases saves : c.changed = true
    · simp only [saves, Bool.not_true, Bool.false_eq_true, if_false] at failed
      cases saved : f.save c.after.ledger.toDocument s.world with
      | ok u w₁ =>
        simp only [EStateM.bind, attempt_onWorld, saved] at failed
        cases failed
      | error e₁ w₁ =>
        -- the save failed: the memory goes back, the failure is logged and raised
        simp only [EStateM.bind, attempt_onWorld, saved, modify_run, onWorld_run, World.record,
          throw_run] at failed
        cases failed
        have kept := f.save_error saved
        exact ⟨rfl, kept⟩
    · simp only [saves, Bool.not_false, if_true] at failed
      cases failed

/-! ### Calls that roll back -/

/-- A call that, when it fails, leaves the memory as it was or reread from its own document,
and the snapshot's bytes as they were. -/
def RollsBack {α : Type} (f : SnapshotFile) (x : StoreM α) : Prop :=
  ∀ s s' e, x s = .error e s' →
    (s'.registry = s.registry ∨ s'.registry = s.registry.reload) ∧
      s'.world.disk.read? f.path = s.world.disk.read? f.path

variable {f : SnapshotFile}

theorem rollsBack_mutate {α : Type} (op : String) (change : Registry → Except StoreError (Change α)) :
    RollsBack f (mutate f op change) := by
  intro s s' e failed
  obtain ⟨back, kept⟩ := mutate_error failed
  exact ⟨.inr back, kept⟩

theorem rollsBack_throw {α : Type} (e : StoreError) : RollsBack f (throw e : StoreM α) := by
  intro s s' e' failed
  cases failed
  exact ⟨.inl rfl, rfl⟩

theorem rollsBack_get_bind {α : Type} {k : Store → StoreM α} (hk : ∀ s, RollsBack f (k s)) :
    RollsBack f (get >>= k) :=
  fun s => hk s s

theorem RollsBack.map {α β : Type} {x : StoreM α} (hx : RollsBack f x) (g : α → β) : RollsBack f (g <$> x) := by
  intro s s' e failed
  apply hx s s' e
  change EStateM.map g x s = _ at failed
  unfold EStateM.map at failed
  split at failed
  · cases failed
  · cases failed
    assumption

theorem RollsBack.bind_answer {α β : Type} {x : StoreM α} {k : α → StoreM β} (hx : RollsBack f x)
    (answers : ∀ a s, ∃ b, k a s = .ok b s) : RollsBack f (x >>= k) := by
  intro s s' e failed
  apply hx s s' e
  change EStateM.bind x k s = _ at failed
  unfold EStateM.bind at failed
  split at failed
  · rename_i a s₁ _
    obtain ⟨b, answered⟩ := answers a s₁
    rw [answered] at failed
    cases failed
  · cases failed
    assumption

end Store

namespace Request

/-- The calls that change the registry. -/
def changes : Request → Bool
  | .addAdmin .. | .removeAdmin _ | .submit _ | .withdraw _ | .pop _ | .recordDecision ..
  | .decide .. | .addXp .. | .addCup .. => true
  | _ => false

variable {f : SnapshotFile}

theorem rollsBack_run {req : Request} (changing : req.changes = true) : Store.RollsBack f (req.run f) := by
  unfold run
  refine Store.rollsBack_get_bind fun _ => ?_
  cases req with
  | addAdmin u p => exact (Store.rollsBack_mutate _ _).map _
  | removeAdmin u => exact (Store.rollsBack_mutate _ _).map _
  | submit sub => exact (Store.rollsBack_get_bind fun _ => Store.rollsBack_mutate _ _).map _
  | withdraw u =>
    refine (Store.rollsBack_get_bind fun _ => Store.rollsBack_mutate _ _).bind_answer fun a s => ?_
    cases a <;> exact ⟨_, rfl⟩
  | pop u => exact (Store.rollsBack_mutate _ _).map _
  | recordDecision u status d => exact (Store.rollsBack_get_bind fun _ => Store.rollsBack_mutate _ _).map _
  | decide u decision d =>
    refine (Store.rollsBack_get_bind fun _ => Store.rollsBack_mutate _ _).bind_answer fun a s => ?_
    cases a <;> exact ⟨_, rfl⟩
  | addXp chat u amount =>
    refine Store.RollsBack.map ?_ _
    unfold Store.addXp
    -- a bad amount fails before anything runs
    split
    · exact Store.rollsBack_throw _
    · exact Store.rollsBack_mutate _ _
  | addCup chat cup => exact (Store.rollsBack_get_bind fun _ => Store.rollsBack_mutate _ _).map _
  | _ => simp [changes] at changing

end Request

/-! ### Answers by key -/

namespace Ledger

variable {l l' : Ledger}

section Answers

variable (c : l.Consistent) (h : l.Equiv l')
include c h

theorem Equiv.adminDetails_eq : l.adminDetails = l'.adminDetails := by
  unfold adminDetails
  rw [← h.admins]
  apply List.map_congr_left
  intro u _
  rw [h.profile_eq c u]

theorem Equiv.cupHistory_eq (chat limit : Binary64) : l.cupHistory chat limit = l'.cupHistory chat limit := by
  unfold cupHistory
  rw [h.cups_eq c chat]

end Answers

end Ledger

theorem render_orNull_normId (o : Option Application) :
    Json.render (Request.orNull Application.toJson (o.map Application.normId)) =
      Json.render (Request.orNull Application.toJson o) := by
  cases o with
  | none => rfl
  | some a => exact render_toJson_normId a

theorem Session.error_of_settle {α : Type} {op : StoreM α} {s : Store}
    (failed : (Session.settle op s).1.toBool = false) : ∃ e, op s = .error e (Session.settle op s).2 := by
  cases run : op s with
  | ok a s' => simp [Session.settle, run, Except.toBool] at failed
  | error e s' => exact ⟨e, by simp [Session.settle, run]⟩

namespace Timestamp

theorem compareNewest_self (a : String) : compareNewest a a = 0 := by
  unfold compareNewest
  cases parse? a <;> simp

end Timestamp

theorem Ledger.pending_of_same_time {l : Ledger} {t : String}
    (same : ∀ a ∈ l.applications.values, a.createdAt = t) : l.pending = l.applications.values := by
  unfold pending
  apply List.mergeSort_of_pairwise
  apply List.pairwise_of_forall_mem_list
  intro a ha b hb
  rw [same a ha, same b hb, Timestamp.compareNewest_self]
  decide

/-- Two applications made at the same time, by users `5` then `3`, wait in that order; a
change whose save fails at the rename puts the memory back reread from its document, where
the index keys come first in ascending order, and they then wait as `3` then `5`. -/
theorem failed_save_reorders_pending :
    let f : SnapshotFile := ⟨"data/storage.enc", ⟨[], []⟩⟩
    let after (q : Request) (s : Store) := (Session.settle (q.run f) s).2
    let queued := after (.submit ⟨3, "Three", none, none, .text "b"⟩)
      (after (.submit ⟨5, "Five", none, none, .text "a"⟩) (Session.start f 1714555800000 none none))
    let failing := { queued with world := { queued.world with disk := queued.world.disk.plant .rename 1 "EIO" } }
    let saved := Session.settle ((Request.addAdmin 1 ⟨none, none⟩).run f) failing
    saved.1.toBool = false ∧ queued.registry.ledger.pending.map (·.userId) = [5, 3] ∧
      saved.2.registry.ledger.pending.map (·.userId) = [3, 5] := by
  intro f after queued failing saved
  -- both submissions carry the clock's time, so the queue is the map's order
  have before : queued.registry.ledger.pending = queued.registry.ledger.applications.values :=
    @Ledger.pending_of_same_time _ "2024-05-01T09:30:00.000Z" (by decide +kernel)
  have reread : saved.2.registry.ledger.pending = saved.2.registry.ledger.applications.values :=
    @Ledger.pending_of_same_time _ "2024-05-01T09:30:00.000Z" (by decide +kernel)
  rw [before, reread]
  exact ⟨by decide +kernel, by decide +kernel, by decide +kernel⟩

end GuildRegistry
