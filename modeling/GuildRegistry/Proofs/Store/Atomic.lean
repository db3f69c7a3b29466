import GuildRegistry.Proofs.Store.Persist
import GuildRegistry.Proofs.Cipher.Fernet

/-! Saves are all or nothing.

Up to its rename a save makes six calls, each once and in this order: it makes the directory, opens
the temp file, writes it, syncs it, closes it and renames it over the snapshot. A call fails exactly
when a failure is planted at its point, and a call leaves the failures planted at other points as
they were.
-/

set_option autoImplicit false

namespace GuildRegistry

theorem bind_run_error {ε σ α β : Type} {x : EStateM ε σ α} {g : α → EStateM ε σ β} {s s₁ : σ} {e : ε}
    (run : x s = .error e s₁) : (x >>= g) s = .error e s₁ := by
  change EStateM.bind x g s = _
  unfold EStateM.bind
  rw [run]

namespace Disk

/-- The first of some points at which a failure is planted, with the error planted there. -/
def firstPlanted (d : Disk) : List FaultPoint → Option (FaultPoint × IoError)
  | [] => none
  | p :: ps =>
    match d.planted? p with
    | some e => some (p, e)
    | none => d.firstPlanted ps

@[simp] theorem firstPlanted_nil (d : Disk) : d.firstPlanted [] = none := rfl

theorem firstPlanted_cons (d : Disk) (p : FaultPoint) (ps : List FaultPoint) :
    d.firstPlanted (p :: ps) = ((d.planted? p).map (p, ·)).or (d.firstPlanted ps) := by
  rw [firstPlanted]
  cases d.planted? p <;> rfl

theorem firstPlanted_append (d : Disk) (ps qs : List FaultPoint) :
    d.firstPlanted (ps ++ qs) = (d.firstPlanted ps).or (d.firstPlanted qs) := by
  induction ps with
  | nil => rfl
  | cons p ps ih => simp only [List.cons_append, firstPlanted_cons, ih, Option.or_assoc]

theorem firstPlanted_eq_none_iff (d : Disk) (ps : List FaultPoint) :
    d.firstPlanted ps = none ↔ ∀ p ∈ ps, d.planted? p = none := by
  induction ps with
  | nil => simp
  | cons p ps ih => simp [firstPlanted_cons, ih]

theorem firstPlanted_spec {d : Disk} {ps : List FaultPoint} {p : FaultPoint} {e : IoError}
    (first : d.firstPlanted ps = some (p, e)) : p ∈ ps ∧ d.planted? p = some e := by
  induction ps with
  | nil => cases first
  | cons q qs ih =>
    rw [firstPlanted] at first
    cases planted : d.planted? q with
    | some e' =>
      rw [planted] at first
      cases first
      exact ⟨List.mem_cons_self, planted⟩
    | none =>
      rw [planted] at first
      exact ⟨List.mem_cons_of_mem q (ih first).1, (ih first).2⟩

@[simp] theorem planted?_put (d : Disk) (path : String) (bytes : List UInt8) (p : FaultPoint) :
    (d.put path bytes).planted? p = d.planted? p := by
  simp only [planted?, faults_put]

@[simp] theorem planted?_delete (d : Disk) (path : String) (p : FaultPoint) :
    (d.delete path).planted? p = d.planted? p := rfl

/-- Using up a failure at one point leaves the failures planted at every other point. -/
@[simp] theorem planted?_useFault_of_ne (d : Disk) {p q : FaultPoint} (ne : q ≠ p) :
    (d.useFault p).planted? q = d.planted? q := by
  -- the failures at `p` change their count only, and a search for `q` skips them either way
  have skip : ∀ fault : Fault, ((if fault.point == p then { fault with remaining := Binary64.sub fault.remaining 1 }
      else fault).point == q && Binary64.lt 0 (if fault.point == p then
        { fault with remaining := Binary64.sub fault.remaining 1 } else fault).remaining) =
      (fault.point == q && Binary64.lt 0 fault.remaining) := by
    intro fault
    by_cases at_p : fault.point = p
    · have off : (fault.point == q) = false := by rw [at_p]; exact beq_false_of_ne (Ne.symm ne)
      simp only [at_p, beq_self_eq_true, if_true]
      rw [← at_p, off, Bool.false_and, Bool.false_and]
    · simp [at_p]
  unfold planted? useFault
  simp only [List.find?_map, Function.comp_def, skip]
  cases found : d.faults.find? (fun fault => fault.point == q && Binary64.lt 0 fault.remaining) with
  | none => rfl
  | some fault =>
    have at_q : fault.point = q := (by simpa using List.find?_some found : fault.point = q ∧ _).1
    have off : fault.point ≠ p := by rw [at_q]; exact ne
    simp [off]

@[simp] theorem read?_useFault (d : Disk) (p : FaultPoint) (path : String) :
    (d.useFault p).read? path = d.read? path := rfl

theorem read?_delete_self (d : Disk) (path : String) : (d.delete path).read? path = none := by
  unfold delete read?
  rw [List.find?_eq_none.mpr]
  · rfl
  · intro e mem same
    have kept := (List.mem_filter.mp mem).2
    simp_all

theorem enter_of_planted {d : Disk} {p : FaultPoint} {e : IoError} (planted : d.planted? p = some e) :
    enter p d = .error e (d.useFault p) := by
  unfold enter
  rw [planted]

theorem enter_of_unplanted {d : Disk} {p : FaultPoint} (unplanted : d.planted? p = none) :
    enter p d = .ok () d := by
  unfold enter
  rw [unplanted]

theorem openWrite_of_planted {d : Disk} {e : IoError} (planted : d.planted? .openWrite = some e) (path : String) :
    openWrite path d = .error e (d.useFault .openWrite) :=
  bind_run_error (enter_of_planted planted)

theorem write_of_planted {d : Disk} {e : IoError} (planted : d.planted? .write = some e) (path : String)
    (bytes : List UInt8) : write path bytes d = .error e (d.useFault .write) :=
  bind_run_error (enter_of_planted planted)

theorem remove_of_planted {d : Disk} {e : IoError} (planted : d.planted? .remove = some e) (path : String) :
    remove path d = .error e (d.useFault .remove) :=
  bind_run_error (enter_of_planted planted)

theorem rename_of_planted {d : Disk} {e : IoError} (planted : d.planted? .rename = some e) (source target : String) :
    rename source target d = .error e (d.useFault .rename) :=
  bind_run_error (enter_of_planted planted)

@[simp] theorem firstPlanted_put (d : Disk) (path : String) (bytes : List UInt8) (ps : List FaultPoint) :
    (d.put path bytes).firstPlanted ps = d.firstPlanted ps := by
  induction ps with
  | nil => rfl
  | cons p ps ih => simp only [firstPlanted_cons, planted?_put, ih]

theorem openWrite_of_unplanted {d : Disk} (unplanted : d.planted? .openWrite = none) (path : String) :
    openWrite path d = .ok () (d.put path []) := by
  unfold openWrite
  rw [bind_run_ok (enter_of_unplanted unplanted)]
  rfl

theorem write_of_unplanted {d : Disk} (unplanted : d.planted? .write = none) (path : String) (bytes : List UInt8) :
    write path bytes d = .ok () (d.put path bytes) := by
  unfold write
  rw [bind_run_ok (enter_of_unplanted unplanted)]
  rfl

theorem rename_of_unplanted {d : Disk} (unplanted : d.planted? .rename = none) {source : String}
    {bytes : List UInt8} (found : d.read? source = some bytes) (target : String) :
    rename source target d = .ok () ((d.delete source).put target bytes) := by
  unfold rename
  rw [bind_run_ok (enter_of_unplanted unplanted)]
  simp only [bind, EStateM.bind, get_run, found]
  rfl

theorem remove_of_unplanted {d : Disk} (unplanted : d.planted? .remove = none) (path : String) :
    remove path d = .ok () (d.delete path) := by
  unfold remove
  rw [bind_run_ok (enter_of_unplanted unplanted)]
  rfl

theorem writeSyncClose_of_unplanted {d : Disk} (unplanted : d.firstPlanted [.write, .sync, .close] = none)
    (path : String) (bytes : List UInt8) :
    (do write path bytes; sync; close : DiskM Unit) d = .ok () (d.put path bytes) := by
  simp only [firstPlanted_eq_none_iff, List.mem_cons, List.not_mem_nil, or_false, forall_eq_or_imp,
    forall_eq] at unplanted
  obtain ⟨writing, syncing, closing⟩ := unplanted
  unfold sync close
  rw [bind_run_ok (write_of_unplanted writing path bytes),
    bind_run_ok (enter_of_unplanted (by rw [planted?_put]; exact syncing))]
  exact enter_of_unplanted (by rw [planted?_put]; exact closing)

theorem writeSyncClose_of_planted {d : Disk} {p : FaultPoint} {e : IoError}
    (planted : d.firstPlanted [.write, .sync, .close] = some (p, e)) (path : String) (bytes : List UInt8) :
    ∃ d', (do write path bytes; sync; close : DiskM Unit) d = .error e d' ∧
      d'.planted? .remove = d.planted? .remove := by
  unfold sync close
  cases writing : d.planted? .write with
  | some e₁ =>
    obtain ⟨-, rfl⟩ : FaultPoint.write = p ∧ e₁ = e := by simpa [firstPlanted_cons, writing] using planted
    exact ⟨_, bind_run_error (write_of_planted writing path bytes), by simp⟩
  | none =>
    rw [bind_run_ok (write_of_unplanted writing path bytes)]
    cases syncing : d.planted? .sync with
    | some e₂ =>
      obtain ⟨-, rfl⟩ : FaultPoint.sync = p ∧ e₂ = e := by
        simpa [firstPlanted_cons, writing, syncing] using planted
      exact ⟨_, bind_run_error (enter_of_planted (by rw [planted?_put]; exact syncing)), by simp⟩
    | none =>
      rw [bind_run_ok (enter_of_unplanted (by rw [planted?_put]; exact syncing))]
      cases closing : d.planted? .close with
      | some e₃ =>
        obtain ⟨-, rfl⟩ : FaultPoint.close = p ∧ e₃ = e := by
          simpa [firstPlanted_cons, writing, syncing, closing] using planted
        exact ⟨_, enter_of_planted (by rw [planted?_put]; exact closing), by simp⟩
      | none => simp [firstPlanted_cons, writing, syncing, closing] at planted

end Disk

namespace World

theorem attempt_of_ok {α : Type} {op : DiskM α} {w : World} {a : α} {d : Disk} (run : op w.disk = .ok a d) :
    attempt op w = .ok (.ok a) { w with disk := d } := by
  rw [attempt_run, run]

theorem attempt_of_error {α : Type} {op : DiskM α} {w : World} {e : IoError} {d : Disk}
    (run : op w.disk = .error e d) : attempt op w = .ok (.error e) { w with disk := d } := by
  rw [attempt_run, run]

theorem call_of_error {α : Type} (wrap : IoError → StoreError) {op : DiskM α} {w : World} {e : IoError}
    {d : Disk} (run : op w.disk = .error e d) : call wrap op w = .error (wrap e) { w with disk := d } := by
  unfold call
  rw [bind_run_ok (attempt_of_error run)]
  rfl

end World

namespace SnapshotFile

variable (f : SnapshotFile)

/-- The calls writing the temp file makes, in the order it makes them. -/
def writeCalls : List FaultPoint := [.openWrite, .write, .sync, .close, .rename]

/-- The calls a save makes up to its rename, in the order it makes them. -/
def saveCalls : List FaultPoint := .makeDirectory :: writeCalls

theorem writeCalls_eq_append :
    writeCalls = [.openWrite] ++ [.write, .sync, .close] ++ [.rename] := rfl

theorem writeTemp_of_unplanted (bytes : List UInt8) {w : World} (unplanted : w.disk.firstPlanted writeCalls = none) :
    ∃ w', f.writeTemp bytes w = .ok none w' ∧ w'.disk.read? f.tempPath = none := by
  have calls := (Disk.firstPlanted_eq_none_iff _ _).mp unplanted
  simp only [writeCalls, List.mem_cons, List.not_mem_nil, or_false, forall_eq_or_imp, forall_eq] at calls
  obtain ⟨opening, writing, syncing, closing, moving⟩ := calls
  have block : (w.disk.put f.tempPath []).firstPlanted [.write, .sync, .close] = none := by
    simp [Disk.firstPlanted_eq_none_iff, writing, syncing, closing]
  unfold writeTemp
  rw [bind_run_ok (World.attempt_of_ok (Disk.openWrite_of_unplanted opening _))]
  dsimp only
  rw [bind_run_ok (World.attempt_of_ok (Disk.writeSyncClose_of_unplanted block _ _))]
  dsimp only
  rw [bind_run_ok (World.attempt_of_ok (Disk.rename_of_unplanted (by simpa using moving)
    (Disk.read?_put_self _ _ _) f.path))]
  refine ⟨_, rfl, ?_⟩
  -- the rename takes the temp file away
  show ((_ : Disk).put f.path bytes).read? f.tempPath = none
  rw [Disk.read?_put_of_ne _ f.path_ne_tempPath.symm, Disk.read?_delete_self]

theorem writeTemp_of_planted (bytes : List UInt8) {w : World} {p : FaultPoint} {e : IoError}
    (planted : w.disk.firstPlanted writeCalls = some (p, e)) :
    ∃ stillOpen w', f.writeTemp bytes w = .ok (some (e, stillOpen)) w' ∧
      w'.disk.planted? .remove = w.disk.planted? .remove := by
  rw [writeCalls_eq_append, Disk.firstPlanted_append, Disk.firstPlanted_append] at planted
  unfold writeTemp
  cases opening : w.disk.planted? .openWrite with
  | some e₁ =>
    -- nothing was opened, so nothing is left open
    obtain ⟨-, rfl⟩ : FaultPoint.openWrite = p ∧ e₁ = e := by
      simpa [Disk.firstPlanted_cons, opening] using planted
    rw [bind_run_ok (World.attempt_of_error (Disk.openWrite_of_planted opening _))]
    exact ⟨false, _, rfl, by simp⟩
  | none =>
    rw [bind_run_ok (World.attempt_of_ok (Disk.openWrite_of_unplanted opening _))]
    dsimp only
    cases block : w.disk.firstPlanted [.write, .sync, .close] with
    | some failure =>
      -- the temp file was opened and is still open
      obtain ⟨q, e₂⟩ := failure
      obtain ⟨-, rfl⟩ : q = p ∧ e₂ = e := by simpa [Disk.firstPlanted_cons, opening, block] using planted
      obtain ⟨d', wrote, kept⟩ := Disk.writeSyncClose_of_planted (d := w.disk.put f.tempPath [])
        (by rw [Disk.firstPlanted_put]; exact block) f.tempPath bytes
      rw [bind_run_ok (World.attempt_of_error wrote)]
      exact ⟨true, _, rfl, by simpa using kept⟩
    | none =>
      rw [bind_run_ok (World.attempt_of_ok (Disk.writeSyncClose_of_unplanted
        (by rw [Disk.firstPlanted_put]; exact block) _ _))]
      dsimp only
      cases moving : w.disk.planted? .rename with
      | some e₅ =>
        obtain ⟨-, rfl⟩ : FaultPoint.rename = p ∧ e₅ = e := by
          simpa [Disk.firstPlanted_cons, opening, block, moving] using planted
        rw [bind_run_ok (World.attempt_of_error (Disk.rename_of_planted (by simpa using moving) _ _))]
        exact ⟨false, _, rfl, by simp⟩
      | none => simp [Disk.firstPlanted_cons, opening, block, moving] at planted

theorem discardTemp_run (stillOpen : Bool) (w : World) :
    ∃ w', f.discardTemp stillOpen w = .ok () w' ∧
      (w.disk.planted? .remove = none → w'.disk.read? f.tempPath = none) := by
  -- the removal, then at most a log line, from whatever world the close leaves
  have removing : ∀ (w₁ : World) (k : Except IoError Unit → WorldM Unit),
      (∀ r w₂, ∃ log, k r w₂ = .ok () { w₂ with log := log }) →
      w₁.disk.planted? .remove = w.disk.planted? .remove →
      ∃ w', (World.attempt (Disk.remove f.tempPath) >>= k) w₁ = .ok () w' ∧
        (w.disk.planted? .remove = none → w'.disk.read? f.tempPath = none) := by
    intro w₁ k logs kept
    cases removal : w₁.disk.planted? .remove with
    | some e =>
      rw [bind_run_ok (World.attempt_of_error (Disk.remove_of_planted removal _))]
      obtain ⟨log, logged⟩ := logs (.error e) _
      exact ⟨_, logged, fun unplanted => by rw [← kept, removal] at unplanted; cases unplanted⟩
    | none =>
      rw [bind_run_ok (World.attempt_of_ok (Disk.remove_of_unplanted removal _))]
      obtain ⟨log, logged⟩ := logs (.ok ()) _
      exact ⟨_, logged, fun _ => Disk.read?_delete_self _ _⟩
  unfold discardTemp
  cases stillOpen with
  | false => exact removing w _ (fun r _ => by cases r <;> exact ⟨_, rfl⟩) rfl
  | true =>
    cases closing : w.disk.planted? .close with
    | some e =>
      rw [if_pos rfl, bind_run_ok (World.attempt_of_error (show Disk.close w.disk = _ from Disk.enter_of_planted closing))]
      exact removing _ _ (fun r _ => by cases r <;> exact ⟨_, rfl⟩) (by simp)
    | none =>
      rw [if_pos rfl, bind_run_ok (World.attempt_of_ok (show Disk.close w.disk = _ from Disk.enter_of_unplanted closing))]
      exact removing _ _ (fun r _ => by cases r <;> exact ⟨_, rfl⟩) rfl

theorem decrypt_sealText (key : Fernet.Key) (text : String) :
    Fernet.decrypt key (sealText key text) = .ok (Utf8.encode text) :=
  Fernet.decrypt_encrypt_ok key 0 (by simp) _

theorem save_of_makeDirectory_planted (d : Document) {w : World} {e : IoError}
    (planted : w.disk.planted? .makeDirectory = some e) :
    f.save d w = .error (.persistence ("Failed to create directory for " ++ f.path) e)
      { w with disk := w.disk.useFault .makeDirectory } := by
  unfold save
  exact bind_run_error
    (World.call_of_error _ (show Disk.makeDirectory w.disk = _ from Disk.enter_of_planted planted))

theorem save_of_write_planted (d : Document) {w : World} {p : FaultPoint} {e : IoError}
    (making : w.disk.planted? .makeDirectory = none) (planted : w.disk.firstPlanted writeCalls = some (p, e)) :
    ∃ w', f.save d w = .error (.persistence ("Failed to write snapshot " ++ f.path) e) w' ∧
      (w.disk.planted? .remove = none → w'.disk.read? f.tempPath = none) := by
  obtain ⟨stillOpen, w₂, wrote, kept⟩ :=
    f.writeTemp_of_planted (sealText f.key (Json.render d.toJson)) (w := { w with disk := w.disk }) planted
  obtain ⟨w₃, discarded, removed⟩ := f.discardTemp_run stillOpen w₂
  unfold save
  rw [bind_run_ok (World.call_of_ok _ (show Disk.makeDirectory w.disk = _ from Disk.enter_of_unplanted making)),
    bind_run_ok wrote]
  dsimp only
  rw [bind_run_ok discarded]
  exact ⟨w₃, rfl, fun unplanted => removed (kept.trans unplanted)⟩

theorem save_of_unplanted (d : Document) {w : World} (making : w.disk.planted? .makeDirectory = none)
    (writing : w.disk.firstPlanted writeCalls = none) :
    ∃ w', f.save d w = .ok () w' ∧ w'.disk.read? f.tempPath = none := by
  obtain ⟨w₂, wrote, noTemp⟩ :=
    f.writeTemp_of_unplanted (sealText f.key (Json.render d.toJson)) (w := { w with disk := w.disk }) writing
  obtain ⟨w₃, synced⟩ := f.syncDirectory_ok w₂
  unfold save
  rw [bind_run_ok (World.call_of_ok _ (show Disk.makeDirectory w.disk = _ from Disk.enter_of_unplanted making)),
    bind_run_ok wrote]
  dsimp only
  rw [bind_run_ok synced]
  exact ⟨_, rfl, ((f.keeps_syncDirectory f.tempPath).ok synced).trans noTemp⟩

/-- A save either installs the new snapshot whole or leaves the old one as it was.

It returns exactly when no failure is planted at any of its calls up to the rename; the
snapshot then holds a token that opens to the UTF-8 bytes of the document's text, and no temp
file is left. Otherwise it fails with the error of the first call with a planted failure as
its cause, and the snapshot is byte for byte what it was. A failure at making the directory
comes before any file is touched; any later failure is followed by removing the temp file,
which only a failure planted at removing it stops. -/
theorem save_all_or_nothing (d : Document) (w : World) :
    match f.save d w with
    | .ok _ w' =>
      w.disk.firstPlanted saveCalls = none ∧
        (∃ token, w'.disk.read? f.path = some token ∧
          Fernet.decrypt f.key token = .ok (Utf8.encode (Json.render d.toJson))) ∧
        w'.disk.read? f.tempPath = none
    | .error e w' =>
      ∃ p cause, w.disk.firstPlanted saveCalls = some (p, cause) ∧
        w'.disk.read? f.path = w.disk.read? f.path ∧
        ((p = .makeDirectory ∧ e = .persistence ("Failed to create directory for " ++ f.path) cause ∧
            w'.disk.read? f.tempPath = w.disk.read? f.tempPath) ∨
          (p ≠ .makeDirectory ∧ e = .persistence ("Failed to write snapshot " ++ f.path) cause ∧
            (w.disk.planted? .remove = none → w'.disk.read? f.tempPath = none))) := by
  cases making : w.disk.planted? .makeDirectory with
  | some cause =>
    rw [f.save_of_makeDirectory_planted d making]
    exact ⟨.makeDirectory, cause, by simp [saveCalls, Disk.firstPlanted_cons, making], rfl,
      .inl ⟨rfl, rfl, rfl⟩⟩
  | none =>
    have first : w.disk.firstPlanted saveCalls = w.disk.firstPlanted writeCalls := by
      simp [saveCalls, Disk.firstPlanted_cons, making]
    cases writing : w.disk.firstPlanted writeCalls with
    | none =>
      obtain ⟨w', saved, noTemp⟩ := f.save_of_unplanted d making writing
      rw [saved]
      exact ⟨first.trans writing, ⟨_, f.save_ok saved, decrypt_sealText _ _⟩, noTemp⟩
    | some failure =>
      obtain ⟨p, cause⟩ := failure
      obtain ⟨w', saved, removed⟩ := f.save_of_write_planted d making writing
      -- the calls after making the directory do not make it again
      have later : p ≠ .makeDirectory := by
        intro same
        have listed := (Disk.firstPlanted_spec writing).1
        rw [same] at listed
        simp [writeCalls] at listed
      rw [saved]
      exact ⟨p, cause, first.trans writing, f.save_error saved, .inr ⟨later, rfl, removed⟩⟩

/-- A save on a disk where the directory cannot be made fails without removing the temp file
an earlier save left, though no failure is planted at removing it. -/
theorem save_keeps_earlier_temp :
    ∃ e w', (⟨"data/storage.enc", ⟨[], []⟩⟩ : SnapshotFile).save .empty
        ⟨⟨[("data/storage.enc.tmp", [104, 105])], [⟨.makeDirectory, 1, "EIO"⟩]⟩, []⟩ = .error e w' ∧
      w'.disk.planted? .remove = none ∧ w'.disk.read? "data/storage.enc.tmp" = some [104, 105] := by
  refine ⟨_, _, save_of_makeDirectory_planted _ _ (e := IoError.planted "EIO" .makeDirectory) ?_, ?_, ?_⟩
  all_goals decide +kernel

end SnapshotFile

end GuildRegistry
