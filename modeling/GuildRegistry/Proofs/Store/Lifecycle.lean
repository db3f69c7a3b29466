import GuildRegistry.Proofs.Store.Persisted

/-! The lifecycle every memory of the store keeps.

In every memory a session reaches from an empty store, or from a snapshot the store saved, the
admins are distinct and every admin profile belongs to an admin; every queued application is stored
under its own user's identifier, and that user is pending; and every user under review has no
application queued and is pending (`Registry.Sound`, `Session.run_sound`).
-/

set_option autoImplicit false

namespace GuildRegistry

open KeyMap

namespace Ledger

/-- What every ledger the store writes satisfies: it is consistent, every admin profile belongs
to an admin, and every user with an application queued is pending. -/
structure Sound (l : Ledger) : Prop where
  consistent : l.Consistent
  profiled : ∀ k, l.profiles.contains k = true → l.isAdmin k = true
  queued : ∀ k, l.applications.contains k = true → l.status k = some .pending

theorem sound_empty : empty.Sound where
  consistent := consistent_empty
  profiled _ held := by simp [empty, KeyMap.empty, KeyMap.contains] at held
  queued _ held := by simp [empty, KeyMap.empty, KeyMap.contains] at held

theorem isAdmin_congr (l : Ledger) {a b : Binary64} (same : Binary64.sameValueZero a b = true) :
    l.isAdmin a = l.isAdmin b := by
  simp only [isAdmin, Binary64.sameValueZero_eq_decide, decide_eq_true_iff] at same ⊢
  rw [same]

theorem status_congr (l : Ledger) {a b : Binary64} (same : Binary64.sameValueZero a b = true) :
    l.status a = l.status b := by
  rw [status, status, l.history.get?_congr same]

theorem status_of_history {l l' : Ledger} {u : Binary64} {e : HistoryEntry}
    (written : l'.history = l.history.set u e) (k : Binary64) :
    l'.status k = if Binary64.sameValueZero k u = true then some e.status else l.status k := by
  unfold status
  rw [written]
  split
  · rename_i same
    rw [get?_congr _ same, get?_set_self]
    rfl
  · rename_i other
    rw [get?_set_of_other _ _ (by simpa using other)]

theorem Sound.of_agrees {l l' : Ledger} (sound : l.Sound) (agrees : l.Agrees l') (c : l'.Consistent) : l'.Sound where
  consistent := c
  profiled k profiled := by
    rw [agrees.profiles] at profiled
    exact agrees.admins k profiled (sound.profiled k profiled)
  queued k held := by
    rw [agrees.applications] at held
    rw [agrees.statuses]
    exact sound.queued k held

theorem agrees_reload {l : Ledger} (c : l.Consistent) : l.Agrees l.reload where
  profiles k := c.profiles.similar_reread.contains_eq (valid_reread c.profiles) k
  applications k := by
    rw [reload_applications c, contains_ownIds]
    exact c.applications.similar_reread.contains_eq (valid_reread c.applications) k
  statuses k := by
    unfold status
    rw [reload_history c, c.history.similar_reread.get?_eq (valid_reread c.history) k]
  admins k _ admin := by
    unfold isAdmin
    rw [reload_admins c]
    exact admin

end Ledger

namespace Registry

/-- What every memory of the store satisfies: its ledger is sound, and every user under review
has no application queued and is pending. -/
structure Sound (r : Registry) : Prop where
  ledger : r.ledger.Sound
  offQueue : r.ReviewsOffQueue
  reviewed : ∀ u, r.isUnderReview u = true → r.ledger.status u = some .pending

variable {r r' : Registry}

theorem Sound.of_queue (sound : r.Sound) (c : r'.ledger.Consistent)
    (profiled : ∀ k, r'.ledger.profiles.contains k = true → r'.ledger.isAdmin k = true)
    (apps : ∀ k, r'.ledger.applications.contains k = r.ledger.applications.contains k)
    (statuses : ∀ k, r'.ledger.status k = r.ledger.status k)
    (reviews : ∀ u, r'.isUnderReview u = true → r.isUnderReview u = true) : r'.Sound where
  ledger := ⟨c, profiled, fun k queued => by
    rw [apps] at queued
    rw [statuses]
    exact sound.ledger.queued k queued⟩
  offQueue u under := by
    rw [apps]
    exact sound.offQueue u (reviews u under)
  reviewed u under := by
    rw [statuses]
    exact sound.reviewed u (reviews u under)

theorem Sound.of_agrees (sound : r.Sound) {l : Ledger} (agrees : r.ledger.Agrees l) (c : l.Consistent)
    {reviews : List Binary64} (fewer : ∀ u ∈ reviews, u ∈ r.inReview) : (⟨l, reviews⟩ : Registry).Sound := by
  refine sound.of_queue c (sound.ledger.of_agrees agrees c).profiled agrees.applications agrees.statuses
    fun u under => ?_
  obtain ⟨x, mem, same⟩ := List.any_eq_true.mp under
  exact List.any_eq_true.mpr ⟨x, fewer x mem, same⟩

theorem sound_of_ledger {l : Ledger} (sound : l.Sound) : (⟨l, []⟩ : Registry).Sound where
  ledger := sound
  offQueue _ under := by simp [isUnderReview] at under
  reviewed _ under := by simp [isUnderReview] at under

theorem Sound.reload (sound : r.Sound) : r.reload.Sound :=
  sound.of_agrees (Ledger.agrees_reload sound.ledger.consistent) (Ledger.consistent_reload sound.ledger.consistent)
    fun _ mem => mem

theorem Sound.xp (sound : r.Sound) {xp : KeyMap (KeyMap Binary64)}
    (c : ({ r.ledger with xp } : Ledger).Consistent) : (⟨{ r.ledger with xp }, r.inReview⟩ : Registry).Sound :=
  sound.of_queue c sound.ledger.profiled (fun _ => rfl) (fun _ => rfl) fun _ under => under

section Changes

variable (now : Except StoreError String) (u : Binary64)

theorem Sound.addAdmin (sound : r.Sound) (p : ProfileUpdate) (c : (r.addAdmin u p).after.ledger.Consistent) :
    (r.addAdmin u p).after.Sound := by
  have grown : ∀ k, r.ledger.isAdmin k = true → (r.addAdmin u p).after.ledger.isAdmin k = true := by
    intro k admin
    simp only [Registry.addAdmin]
    split
    · simp only [Ledger.isAdmin, List.any_append] at admin ⊢
      simp [admin]
    · exact admin
  have added : (r.addAdmin u p).after.ledger.isAdmin u = true := by
    simp only [Registry.addAdmin]
    split
    · simp [Ledger.isAdmin, Binary64.sameValueZero_self]
    · rename_i already
      exact (by simpa using already : r.ledger.isAdmin u = true)
  refine sound.of_queue c (fun k profiled => ?_) (fun _ => rfl) (fun _ => rfl) fun _ under => under
  simp only [Registry.addAdmin] at profiled
  split at profiled
  · rw [contains_set, Bool.or_eq_true] at profiled
    rcases profiled with old | new
    · exact grown k (sound.ledger.profiled k old)
    · rw [← Ledger.isAdmin_congr _ new]
      exact added
  · exact grown k (sound.ledger.profiled k profiled)

theorem Sound.removeAdmin (sound : r.Sound) (c : (r.removeAdmin u).after.ledger.Consistent) :
    (r.removeAdmin u).after.Sound := by
  cases found : r.ledger.admins.findIdx? (Binary64.eq · u) with
  | none =>
    have same : (r.removeAdmin u).after = r := by simp only [Registry.removeAdmin, found]; rfl
    rw [same]
    exact sound
  | some i =>
    obtain ⟨bound, hit, -⟩ := List.findIdx?_eq_some_iff_getElem.mp found
    have removed : (r.removeAdmin u).after =
        ⟨{ r.ledger with admins := r.ledger.admins.eraseIdx i, profiles := r.ledger.profiles.erase u },
          r.inReview⟩ := by
      simp only [Registry.removeAdmin, found]
    rw [removed] at c ⊢
    refine sound.of_queue c (fun k profiled => ?_) (fun _ => rfl) (fun _ => rfl) fun _ under => under
    simp only [contains_erase, Bool.and_eq_true, Bool.not_eq_true'] at profiled
    obtain ⟨held, other⟩ := profiled
    obtain ⟨a, mem, same⟩ := List.any_eq_true.mp (sound.ledger.profiled k held)
    obtain ⟨j, hj, rfl⟩ := List.getElem_of_mem mem
    refine List.any_eq_true.mpr ⟨r.ledger.admins[j], List.mem_eraseIdx_iff_getElem.mpr ⟨j, hj, ?_, rfl⟩, same⟩
    -- the admin removed is the same number as `u`, and `k` is not
    rintro rfl
    have atU : Binary64.sameValueZero r.ledger.admins[j] u = true := by
      rw [Binary64.sameValueZero, hit, Bool.or_true]
    rw [Binary64.sameValueZero_trans (by rwa [Binary64.sameValueZero_comm]) atU] at other
    cases other

theorem Sound.of_write (sound : r.Sound) {u : Binary64} {e : HistoryEntry} (c : r'.ledger.Consistent)
    (off : r'.ReviewsOffQueue) (admins : r'.ledger.admins = r.ledger.admins)
    (profiles : r'.ledger.profiles = r.ledger.profiles) (written : r'.ledger.history = r.ledger.history.set u e)
    (queued : ∀ k, r'.ledger.applications.contains k = true → Binary64.sameValueZero k u = false →
      r.ledger.applications.contains k = true)
    (reviews : ∀ k, r'.isUnderReview k = true → Binary64.sameValueZero k u = false → r.isUnderReview k = true)
    (pending : ∀ k, Binary64.sameValueZero k u = true →
      r'.ledger.applications.contains k = true ∨ r'.isUnderReview k = true → e.status = .pending) :
    r'.Sound := by
  have status := Ledger.status_of_history written
  refine ⟨⟨c, fun k profiled => ?_, fun k held => ?_⟩, off, fun k under => ?_⟩
  · rw [profiles] at profiled
    unfold Ledger.isAdmin
    rw [admins]
    exact sound.ledger.profiled k profiled
  · rw [status]
    split
    · rename_i same
      rw [pending k same (.inl held)]
    · rename_i other
      exact sound.ledger.queued k (queued k held (by simpa using other))
  · rw [status]
    split
    · rename_i same
      rw [pending k same (.inr under)]
    · rename_i other
      exact sound.reviewed k (reviews k under (by simpa using other))

theorem Sound.settle (sound : r.Sound) {u : Binary64} {e : HistoryEntry}
    (held : r.ledger.applications.contains u = true) (c : r'.ledger.Consistent) (off : r'.ReviewsOffQueue)
    (admins : r'.ledger.admins = r.ledger.admins) (profiles : r'.ledger.profiles = r.ledger.profiles)
    (written : r'.ledger.history = r.ledger.history.set u e)
    (apps : r'.ledger.applications = r.ledger.applications.erase u) (reviews : r'.inReview = r.inReview) :
    r'.Sound := by
  have under : ∀ k, r'.isUnderReview k = r.isUnderReview k := fun k => by rw [isUnderReview, reviews]; rfl
  refine sound.of_write c off admins profiles written (fun k queued _ => ?_) (fun k review _ => ?_)
    fun k same either => ?_
  · rw [apps, contains_erase, Bool.and_eq_true] at queued
    exact queued.1
  · rwa [under] at review
  · -- the settled user's application is gone, and they were not under review
    rw [apps, contains_erase, same, under, r.isUnderReview_congr same] at either
    simp only [Bool.not_true, Bool.and_false, Bool.false_eq_true, false_or] at either
    rw [sound.offQueue u either] at held
    cases held

theorem Sound.submit (sound : r.Sound) (sub : Submission)
    {c : Change (Except SubmitRefusal (Application × HistoryEntry))} (ok : r.submit now sub = .ok c)
    (consistent : c.after.ledger.Consistent) : c.after.Sound := by
  have off := sound.offQueue.submit now sub ok
  unfold Registry.submit at ok
  dsimp only at ok
  -- a refused submission leaves the memory as it was
  split at ok
  · cases ok; exact sound
  split at ok
  · cases ok; exact sound
  split at ok
  · cases ok; exact sound
  cases now with
  | error e => cases ok
  | ok t =>
    cases ok
    refine sound.of_write consistent off rfl rfl rfl (fun k held other => ?_) (fun _ under _ => under)
      fun _ _ _ => rfl
    have other' : Binary64.sameValueZero sub.userId k = false := by rw [Binary64.sameValueZero_comm]; exact other
    simpa [other'] using held

theorem Sound.withdraw (sound : r.Sound) {c : Change (Option HistoryEntry)} (ok : r.withdraw now u = .ok c)
    (consistent : c.after.ledger.Consistent) : c.after.Sound := by
  have off := sound.offQueue.withdraw now u ok
  unfold Registry.withdraw at ok
  split at ok
  · cases ok; exact sound
  · rename_i a found
    cases now with
    | error e => cases ok
    | ok t =>
      simp only [writeHistory_ok] at ok
      cases ok
      exact sound.settle (contains_of_get? found) consistent off rfl rfl rfl rfl rfl

theorem Sound.decide (sound : r.Sound) (decision : Status) (d : DecisionDetails)
    {c : Change (Option (Application × HistoryEntry))} (ok : r.decide now u decision d = .ok c)
    (consistent : c.after.ledger.Consistent) : c.after.Sound := by
  have off := sound.offQueue.decide now u decision d ok
  unfold Registry.decide at ok
  split at ok
  · cases ok; exact sound
  · rename_i a found
    cases now with
    | error e => cases ok
    | ok t =>
      simp only [writeHistory_ok] at ok
      cases ok
      exact sound.settle (contains_of_get? found) consistent off rfl rfl rfl rfl rfl

theorem Sound.pop (sound : r.Sound) (c : (r.pop u).after.ledger.Consistent) : (r.pop u).after.Sound := by
  have off := sound.offQueue.pop u
  cases found : r.ledger.applications.get? u with
  | none =>
    simp only [Registry.pop, found] at c off ⊢
    exact sound
  | some a =>
    simp only [Registry.pop, found] at c off ⊢
    have pendingU := sound.ledger.queued u (contains_of_get? found)
    refine ⟨⟨c, sound.ledger.profiled, fun k held => ?_⟩, off, fun k under => ?_⟩
    · rw [contains_erase, Bool.and_eq_true] at held
      exact sound.ledger.queued k held.1
    · change (if r.isUnderReview u = true then r.inReview else r.inReview ++ [u]).any
        (Binary64.sameValueZero · k) = true at under
      split at under
      · exact sound.reviewed k under
      · rw [List.any_append, Bool.or_eq_true] at under
        rcases under with old | new
        · exact sound.reviewed k old
        · -- the user whose review opens
          simp only [List.any_cons, List.any_nil, Bool.or_false] at new
          show r.ledger.status k = _
          rw [← r.ledger.status_congr new]
          exact pendingU

theorem isUnderReview_close (r : Registry) (l : Ledger) (u k : Binary64) :
    (⟨l, r.inReview.filter (!Binary64.sameValueZero · u)⟩ : Registry).isUnderReview k =
      (r.isUnderReview k && !Binary64.sameValueZero k u) := by
  simp only [isUnderReview, List.any_filter, Binary64.sameValueZero_eq_decide]
  by_cases same : normalizeKey k = normalizeKey u
  · simp only [same, decide_true, Bool.not_true, Bool.and_false]
    rw [List.any_eq_false]
    intro x _
    by_cases atU : normalizeKey x = normalizeKey u <;> simp [atU]
  · simp only [same, decide_false, Bool.not_false, Bool.and_true]
    congr 1
    funext x
    by_cases atK : normalizeKey x = normalizeKey k
    · simp [atK, same]
    · simp [atK]

theorem Sound.recordDecision (sound : r.Sound) (status : Status) (d : DecisionDetails) {c : Change HistoryEntry}
    (ok : r.recordDecision now u status d = .ok c) (consistent : c.after.ledger.Consistent) : c.after.Sound := by
  have off := sound.offQueue.recordDecision now u status d ok
  unfold Registry.recordDecision at ok
  cases now with
  | error e => cases ok
  | ok t =>
    by_cases pending : (status == .pending) = true
    · simp only [pending, if_true, writeHistory_ok] at ok
      cases ok
      refine sound.of_write consistent off rfl rfl rfl (fun _ held _ => held) (fun k under _ => ?_)
        fun _ _ _ => (by simpa using pending : status = .pending)
      rw [isUnderReview_close, Bool.and_eq_true] at under
      exact under.1
    · simp only [pending, Bool.false_eq_true, if_false, writeHistory_ok] at ok
      cases ok
      refine sound.of_write consistent off rfl rfl rfl (fun k held _ => ?_) (fun k under _ => ?_)
        fun k same either => ?_
      · rw [contains_erase, Bool.and_eq_true] at held
        exact held.1
      · rw [isUnderReview_close, Bool.and_eq_true] at under
        exact under.1
      · -- the decided user is neither queued nor under review any more
        rw [contains_erase, isUnderReview_close, same] at either
        simp at either

theorem Sound.addCup (sound : r.Sound) (chat : Binary64) (cup : NewCup) {c : Change Cup}
    (ok : r.addCup now chat cup = .ok c) (consistent : c.after.ledger.Consistent) : c.after.Sound := by
  unfold Registry.addCup at ok
  cases now with
  | error e => cases ok
  | ok t =>
    cases ok
    exact sound.of_queue consistent sound.ledger.profiled (fun _ => rfl) (fun _ => rfl) fun _ under => under

theorem Sound.changes {req : Request} (sound : r.Sound) (held : req.IdsHeld) (moved : req.Changes now r r') :
    r'.Sound := by
  have c := Request.consistent_changes sound.ledger.consistent held moved
  cases req with
  | addAdmin v p => obtain rfl := moved; exact sound.addAdmin v p c
  | removeAdmin v => obtain rfl := moved; exact sound.removeAdmin v c
  | submit sub => obtain ⟨c', ok, rfl⟩ := moved; exact sound.submit now sub ok c
  | withdraw v => obtain ⟨c', ok, rfl⟩ := moved; exact sound.withdraw now v ok c
  | pop v => obtain rfl := moved; exact sound.pop v c
  | recordDecision v st d => obtain ⟨c', ok, rfl⟩ := moved; exact sound.recordDecision now v st d ok c
  | decide v decision d => obtain ⟨c', ok, rfl⟩ := moved; exact sound.decide now v decision d ok c
  | addXp chat v amount => obtain ⟨-, rfl⟩ := moved; exact sound.xp c
  | addCup chat cup => obtain ⟨c', ok, rfl⟩ := moved; exact sound.addCup now chat cup ok c
  | _ => exact moved.elim

end Changes

end Registry

namespace SnapshotFile

variable {f : SnapshotFile}

/-- The snapshot, when there is one, holds the sealed document of a sound ledger. -/
def HoldsSound (f : SnapshotFile) (d : Disk) : Prop :=
  ∀ bytes, d.read? f.path = some bytes → ∃ l : Ledger, l.Sound ∧ bytes = f.sealed l

theorem sound_ofSnapshot {w w' : World} {doc : Option Document} (holds : f.HoldsSound w.disk)
    (loaded : f.load w = .ok doc w') : (Ledger.ofSnapshot doc).Sound := by
  cases doc with
  | none => exact Ledger.sound_empty
  | some d =>
    obtain ⟨bytes, found, -⟩ := f.load_some loaded
    obtain ⟨l, sound, rfl⟩ := holds bytes found
    exact sound.of_agrees (f.load_restores sound.consistent found loaded).toAgrees (Ledger.consistent_ofDocument d)

end SnapshotFile

namespace Request

variable {f : SnapshotFile}

theorem sound_persists {req : Request} {s s' : Store} (held : req.IdsHeld) (sound : s.registry.Sound)
    (holds : f.HoldsSound s.world.disk) (persists : req.Persists f s s') :
    s'.registry.Sound ∧ f.HoldsSound s'.world.disk := by
  have sound' : s'.registry.Sound := by
    rcases persists with ⟨same | moved, -⟩ | ⟨-, ⟨-, reread⟩ | ⟨-, doc, w, loaded, left⟩⟩
    · rw [same]
      exact sound
    · exact sound.changes _ held moved
    · rw [reread]
      exact sound.reload
    · rw [left]
      exact Registry.sound_of_ledger (f.sound_ofSnapshot holds loaded)
  refine ⟨sound', fun bytes found => ?_⟩
  rcases persists with ⟨-, saved | ⟨kept, -⟩⟩ | ⟨kept, -⟩
  · rw [saved, Option.some.injEq] at found
    exact ⟨_, sound'.ledger, found.symm⟩
  · rw [kept] at found
    exact holds bytes found
  · rw [kept] at found
    exact holds bytes found

end Request

namespace Action

/-- An action as the store runs it: a call hands identifiers binary64 can hold, and a snapshot
written from outside holds the sealed document the store writes for a sound ledger. -/
def Faithful (f : SnapshotFile) (a : Action) : Prop :=
  a.IdsHeld ∧ ∀ c, a = .writeSnapshot c → ∃ l : Ledger, l.Sound ∧ c.bytes f.key = f.sealed l

end Action

namespace Session

variable {f : SnapshotFile}

theorem keeps_sound : Keeps f (Action.Faithful f) (fun s => s.registry.Sound ∧ f.HoldsSound s.world.disk) where
  action a s allowed kept := by
    obtain ⟨held, written⟩ := allowed
    cases a with
    | call req => exact Request.sound_persists held kept.1 kept.2 (req.run_persists s).2
    | writeSnapshot c =>
      obtain ⟨l, sound, sealed⟩ := written c rfl
      refine ⟨kept.1, fun bytes found => ⟨l, sound, ?_⟩⟩
      change (s.world.disk.put f.path (c.bytes f.key)).read? f.path = some bytes at found
      rw [Disk.read?_put_self, Option.some.injEq] at found
      rw [← found, sealed]
    | deleteSnapshot =>
      refine ⟨kept.1, fun bytes found => ?_⟩
      change (s.world.disk.delete f.path).read? f.path = some bytes at found
      rw [Disk.read?_delete_self] at found
      cases found
    | _ =>
      refine ⟨by rw [Action.registry_run fun _ same => by cases same]; exact kept.1, fun bytes found => ?_⟩
      rw [Action.snapshot_run (fun _ same => by cases same) (fun _ same => by cases same) (by intro same; cases same)]
        at found
      exact kept.2 bytes found
  clearLog _ kept := kept

theorem holdsSound_start {clock : Binary64} {file : Option FileContent} {staleTemp : Option String}
    (saved : ∀ c, file = some c → ∃ l : Ledger, l.Sound ∧ c.bytes f.key = f.sealed l) :
    f.HoldsSound (start f clock file staleTemp).world.disk := by
  intro bytes found
  -- a stale temporary file is beside the snapshot, not in its place
  have besideTemp : ∀ d : Disk, ∀ t : String, (d.put f.tempPath (Utf8.encode t)).read? f.path = d.read? f.path :=
    fun d t => Disk.read?_put_of_ne d f.path_ne_tempPath _
  cases file with
  | none =>
    cases staleTemp with
    | none => cases found
    | some t =>
      change (Disk.empty.put f.tempPath (Utf8.encode t)).read? f.path = some bytes at found
      rw [besideTemp] at found
      cases found
  | some c =>
    obtain ⟨l, sound, sealed⟩ := saved c rfl
    refine ⟨l, sound, ?_⟩
    have written : (Disk.empty.put f.path (c.bytes f.key)).read? f.path = some bytes := by
      cases staleTemp with
      | none => exact found
      | some t => rw [← besideTemp _ t]; exact found
    rw [Disk.read?_put_self, Option.some.injEq] at written
    rw [← written, sealed]

/-- In every memory a session reaches from a store with nothing in memory, on a disk with no
snapshot or a snapshot the store saved of a sound ledger, running actions as the store runs them
(restarts, failed and rolled-back calls included), the lifecycle holds: the admins are distinct
and every admin profile is an admin's; every queued application is stored under its own user's
identifier and that user is pending; and every user under review has no application queued and
is pending. -/
theorem run_sound {clock : Binary64} {file : Option FileContent} {staleTemp : Option String}
    (saved : ∀ c, file = some c → ∃ l : Ledger, l.Sound ∧ c.bytes f.key = f.sealed l) {steps : List SessionStep}
    (allowed : ∀ st ∈ steps, ∀ a ∈ st.actions, a.Faithful f) :
    (Session.run f (start f clock file staleTemp) steps).2.registry.Sound :=
  (keeps_sound.run allowed ⟨Registry.sound_of_ledger Ledger.sound_empty, holdsSound_start saved⟩).1

-- Checking that the literal id is on the grid unfolds `2 ^ 1074` one step at a time.
set_option maxRecDepth 20000 in
/-- A restart from the snapshot of an empty ledger, then an application taken off the queue for
review, and a restart that drops the review: every memory on the way is sound. -/
theorem run_sound_after_restarts :
    let f : SnapshotFile := ⟨"data/storage.enc", ⟨[], []⟩⟩
    let file : Option FileContent := some (.document Ledger.empty.toDocument.toJson)
    let steps : List SessionStep := [.single (.call .load),
      .single (.call (.submit ⟨1, "One", none, some "en", .text "a"⟩)), .single (.call (.pop 1)),
      .single (.call .load)]
    (∀ c, file = some c → ∃ l : Ledger, l.Sound ∧ c.bytes f.key = f.sealed l) ∧
      (∀ st ∈ steps, ∀ a ∈ st.actions, a.Faithful f) ∧
      (Session.run f (start f 1714555800000 file none) steps).2.registry.Sound := by
  intro f file steps
  have saved : ∀ c, file = some c → ∃ l : Ledger, l.Sound ∧ c.bytes f.key = f.sealed l := by
    intro c same
    simp only [file, Option.some.injEq] at same
    subst same
    exact ⟨Ledger.empty, Ledger.sound_empty, rfl⟩
  have allowed : ∀ st ∈ steps, ∀ a ∈ st.actions, a.Faithful f := by
    intro st mem a acting
    simp only [steps, List.mem_cons, List.mem_nil_iff, or_false] at mem
    rcases mem with rfl | rfl | rfl | rfl <;> simp only [SessionStep.actions, List.mem_singleton] at acting <;>
      subst acting
    · exact ⟨trivial, fun _ same => by cases same⟩
    · exact ⟨Binary64.representable_ofNat 1, fun _ same => by cases same⟩
    · exact ⟨trivial, fun _ same => by cases same⟩
    · exact ⟨trivial, fun _ same => by cases same⟩
  exact ⟨saved, allowed, run_sound saved allowed⟩

end Session

end GuildRegistry
