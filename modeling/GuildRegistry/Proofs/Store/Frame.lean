import GuildRegistry.Store.Machine

/-! What a save leaves on disk when it fails.

A save writes only its temp file until the last step, the rename over the snapshot, and nothing
after the rename can fail. So a save that fails leaves the snapshot's bytes as they were.
`Disk.Keeps path op` says that a disk call leaves the file at `path` as it was, whether it succeeds
or fails; `World.Keeps` says the same of a call on the world.
-/

set_option autoImplicit false

namespace GuildRegistry

/-- The state a run ends in, whether it succeeds or fails. -/
def stateAfter {ε σ α : Type} : EStateM.Result ε σ α → σ
  | .ok _ s => s
  | .error _ s => s

theorem get_run {ε σ : Type} (s : σ) : (get : EStateM ε σ σ) s = .ok s s := rfl

namespace Disk

theorem read?_put_of_ne (d : Disk) {p q : String} (ne : p ≠ q) (bytes : List UInt8) :
    (d.put q bytes).read? p = d.read? p := by
  unfold put read?
  split
  · -- rewriting the file at `q` leaves the one at `p` as it was
    have same : ∀ e : String × List UInt8,
        ((if (e.1 == q) = true then (q, bytes) else e).1 == p) = (e.1 == p) := by
      intro e
      by_cases at_q : e.1 = q
      · simp [at_q]
      · simp [at_q]
    simp only [List.find?_map, Function.comp_def, same]
    cases found : d.files.find? (fun x => x.1 == p) with
    | none => rfl
    | some e =>
      have at_p : e.1 = p := by simpa using List.find?_some found
      simp [at_p, ne]
  · simp only [List.find?_append]
    cases d.files.find? (fun x => x.1 == p) with
    | none => simp [Ne.symm ne]
    | some e => rfl

theorem read?_delete_of_ne (d : Disk) {p q : String} (ne : p ≠ q) : (d.delete q).read? p = d.read? p := by
  unfold delete read?
  dsimp only
  congr 1
  induction d.files with
  | nil => rfl
  | cons e rest ih =>
    rw [List.filter_cons]
    by_cases at_q : e.1 = q
    · -- the removed file is not the one read
      have off : (e.1 == p) = false := by rw [at_q]; exact beq_false_of_ne (Ne.symm ne)
      rw [if_neg (by simp [at_q]), ih, List.find?_cons, off]
    · rw [if_pos (by simpa using at_q), List.find?_cons, List.find?_cons, ih]

/-- A disk call that leaves the file at a path as it was, whether it succeeds or fails. -/
def Keeps {α : Type} (path : String) (op : DiskM α) : Prop :=
  ∀ d, (stateAfter (op d)).read? path = d.read? path

section Keeps

variable {path : String}

theorem Keeps.ok {α : Type} {op : DiskM α} (keeps : Keeps path op) {d d' : Disk} {a : α}
    (run : op d = .ok a d') : d'.read? path = d.read? path := by
  have := keeps d
  rw [run] at this
  exact this

theorem Keeps.error {α : Type} {op : DiskM α} (keeps : Keeps path op) {d d' : Disk} {e : IoError}
    (run : op d = .error e d') : d'.read? path = d.read? path := by
  have := keeps d
  rw [run] at this
  exact this

theorem Keeps.bind {α β : Type} {x : DiskM α} {f : α → DiskM β} (hx : Keeps path x)
    (hf : ∀ a, Keeps path (f a)) : Keeps path (x >>= f) := by
  intro d
  show (stateAfter (EStateM.bind x f d)).read? path = _
  unfold EStateM.bind
  cases run : x d with
  | ok a d' => rw [hf a d', hx.ok run]
  | error e d' => exact hx.error run

theorem keeps_pure {α : Type} (a : α) : Keeps path (pure a : DiskM α) := fun _ => rfl

theorem keeps_throw {α : Type} (e : IoError) : Keeps path (throw e : DiskM α) := fun _ => rfl

theorem keeps_get : Keeps path (get : DiskM Disk) := fun _ => rfl

theorem keeps_modify {g : Disk → Disk} (hg : ∀ d, (g d).read? path = d.read? path) :
    Keeps path (modify g : DiskM Unit) := hg

theorem keeps_enter (p : FaultPoint) : Keeps path (enter p) := by
  intro d
  unfold enter
  cases d.planted? p <;> rfl

theorem keeps_openWrite {t : String} (ne : path ≠ t) : Keeps path (openWrite t) :=
  (keeps_enter _).bind fun _ => keeps_modify fun d => d.read?_put_of_ne ne []

theorem keeps_write {t : String} (ne : path ≠ t) (bytes : List UInt8) : Keeps path (write t bytes) :=
  (keeps_enter _).bind fun _ => keeps_modify fun d => d.read?_put_of_ne ne bytes

theorem keeps_remove {t : String} (ne : path ≠ t) : Keeps path (remove t) :=
  (keeps_enter _).bind fun _ => keeps_modify fun d => d.read?_delete_of_ne ne

theorem rename_error {source target : String} {d d' : Disk} {e : IoError}
    (run : rename source target d = .error e d') : d'.read? path = d.read? path := by
  unfold rename at run
  simp only [bind, EStateM.bind] at run
  cases entered : enter .rename d with
  | error e' d1 =>
    rw [entered] at run
    cases run
    exact (keeps_enter _).error entered
  | ok u d1 =>
    rw [entered] at run
    have kept : d1.read? path = d.read? path := (keeps_enter _).ok entered
    -- the source is looked up without changing the disk, and a move never fails
    simp only [get_run] at run
    cases found : d1.read? source with
    | some bytes => rw [found] at run; cases run
    | none => rw [found] at run; cases run; exact kept

end Keeps

end Disk

namespace World

/-- A call on the world that leaves the file at a path as it was, whether it succeeds or fails. -/
def Keeps {α : Type} (path : String) (op : WorldM α) : Prop :=
  ∀ w, (stateAfter (op w)).disk.read? path = w.disk.read? path

section Keeps

variable {path : String}

theorem Keeps.ok {α : Type} {op : WorldM α} (keeps : Keeps path op) {w w' : World} {a : α}
    (run : op w = .ok a w') : w'.disk.read? path = w.disk.read? path := by
  have := keeps w
  rw [run] at this
  exact this

theorem Keeps.error {α : Type} {op : WorldM α} (keeps : Keeps path op) {w w' : World} {e : StoreError}
    (run : op w = .error e w') : w'.disk.read? path = w.disk.read? path := by
  have := keeps w
  rw [run] at this
  exact this

theorem Keeps.bind {α β : Type} {x : WorldM α} {f : α → WorldM β} (hx : Keeps path x)
    (hf : ∀ a, Keeps path (f a)) : Keeps path (x >>= f) := by
  intro w
  show (stateAfter (EStateM.bind x f w)).disk.read? path = _
  unfold EStateM.bind
  cases run : x w with
  | ok a w' => rw [hf a w', hx.ok run]
  | error e w' => exact hx.error run

theorem keeps_pure {α : Type} (a : α) : Keeps path (pure a : WorldM α) := fun _ => rfl

theorem keeps_throw {α : Type} (e : StoreError) : Keeps path (throw e : WorldM α) := fun _ => rfl

theorem keeps_record (level : LogLevel) (message : String) (fields : List (String × Json)) :
    Keeps path (record level message fields) := fun _ => rfl

theorem attempt_run {α : Type} (op : DiskM α) (w : World) :
    attempt op w = match op w.disk with
      | .ok a d => .ok (.ok a) { w with disk := d }
      | .error e d => .ok (.error e) { w with disk := d } := rfl

theorem attempt_ok {α : Type} {op : DiskM α} {w w' : World} {a : α} (run : attempt op w = .ok (.ok a) w') :
    op w.disk = .ok a w'.disk := by
  rw [attempt_run] at run
  split at run <;> cases run
  assumption

theorem attempt_error {α : Type} {op : DiskM α} {w w' : World} {e : IoError}
    (run : attempt op w = .ok (.error e) w') : op w.disk = .error e w'.disk := by
  rw [attempt_run] at run
  split at run <;> cases run
  assumption

theorem attempt_ne_error {α : Type} (op : DiskM α) (w w' : World) (e : StoreError) :
    attempt op w ≠ .error e w' := by
  rw [attempt_run]
  split <;> simp

theorem keeps_attempt {α : Type} {op : DiskM α} (keeps : Disk.Keeps path op) : Keeps path (attempt op) := by
  intro w
  rw [attempt_run]
  cases run : op w.disk with
  | ok a d => exact keeps.ok run
  | error e d => exact keeps.error run

theorem keeps_call {α : Type} (wrap : IoError → StoreError) {op : DiskM α} (keeps : Disk.Keeps path op) :
    Keeps path (call wrap op) :=
  (keeps_attempt keeps).bind fun r => by
    cases r with
    | ok a => exact keeps_pure a
    | error e => exact keeps_throw _

end Keeps

end World

namespace SnapshotFile

variable (f : SnapshotFile)

theorem path_ne_tempPath : f.path ≠ f.tempPath := by
  intro same
  have lengths := congrArg String.length same
  simp [tempPath] at lengths

theorem keeps_discardTemp (stillOpen : Bool) : World.Keeps f.path (f.discardTemp stillOpen) := by
  have removing := World.keeps_attempt (Disk.keeps_remove f.path_ne_tempPath)
  have closing := World.keeps_attempt (@Disk.keeps_enter f.path .close)
  unfold discardTemp
  dsimp only
  split
  · refine closing.bind fun r => ?_
    cases r with
    | error e =>
      refine (World.keeps_record _ _ _).bind fun _ => removing.bind fun r => ?_
      cases r with
      | error e' => exact World.keeps_record _ _ _
      | ok u => exact World.keeps_pure u
    | ok u =>
      refine removing.bind fun r => ?_
      cases r with
      | error e' => exact World.keeps_record _ _ _
      | ok u' => exact World.keeps_pure u'
  · refine removing.bind fun r => ?_
    cases r with
    | error e' => exact World.keeps_record _ _ _
    | ok u => exact World.keeps_pure u

theorem writeTemp_cases (bytes : List UInt8) (w : World) :
    ∃ r w', f.writeTemp bytes w = .ok r w' ∧ (r.isSome → w'.disk.read? f.path = w.disk.read? f.path) := by
  have opening := World.keeps_attempt (Disk.keeps_openWrite f.path_ne_tempPath)
  have writing := World.keeps_attempt
    ((Disk.keeps_write f.path_ne_tempPath bytes).bind fun _ => (Disk.keeps_enter .sync).bind fun _ =>
      Disk.keeps_enter .close)
  unfold writeTemp
  simp only [bind, EStateM.bind]
  split
  · rename_i a w1 opened
    split
    · exact ⟨_, _, rfl, fun _ => opening.ok opened⟩
    · dsimp only [EStateM.bind]
      split
      · rename_i b w2 wrote
        split
        · exact ⟨_, _, rfl, fun _ => (writing.ok wrote).trans (opening.ok opened)⟩
        · dsimp only [EStateM.bind]
          split
          · rename_i c w3 renamed
            split
            · -- the rename failed and moved nothing
              rename_i e
              refine ⟨_, _, rfl, fun _ => ?_⟩
              exact (Disk.rename_error (World.attempt_error renamed)).trans
                ((writing.ok wrote).trans (opening.ok opened))
            · exact ⟨_, _, rfl, fun none => by simp at none⟩
          · rename_i e w3 failed
            exact absurd failed (World.attempt_ne_error _ _ _ _)
      · rename_i e w2 failed
        exact absurd failed (World.attempt_ne_error _ _ _ _)
  · rename_i e w1 failed
    exact absurd failed (World.attempt_ne_error _ _ _ _)

theorem syncDirectory_ok (w : World) : ∃ w', f.syncDirectory w = .ok () w' := by
  unfold syncDirectory
  simp only [bind, EStateM.bind]
  cases attempted : World.attempt syncDirectoryCalls w with
  | ok r w1 =>
    cases r with
    | error e => exact ⟨_, rfl⟩
    | ok u => exact ⟨_, rfl⟩
  | error e w1 => exact absurd attempted (World.attempt_ne_error _ _ _ _)

theorem save_error {d : Document} {w w' : World} {e : StoreError} (run : f.save d w = .error e w') :
    w'.disk.read? f.path = w.disk.read? f.path := by
  unfold save at run
  simp only [bind, EStateM.bind] at run
  have makingDisk : Disk.Keeps f.path Disk.makeDirectory := Disk.keeps_enter _
  have making := World.keeps_call (.persistence ("Failed to create directory for " ++ f.path)) makingDisk
  cases made : World.call (.persistence ("Failed to create directory for " ++ f.path)) Disk.makeDirectory w with
  | error e' w1 =>
    rw [made] at run
    cases run
    exact making.error made
  | ok u w1 =>
    rw [made] at run
    dsimp only at run
    obtain ⟨r, w2, wrote, kept⟩ := f.writeTemp_cases _ w1
    rw [wrote] at run
    cases r with
    | some failure =>
      obtain ⟨cause, stillOpen⟩ := failure
      -- the temp file is discarded and the failure raised
      have discarding := f.keeps_discardTemp stillOpen
      dsimp only [EStateM.bind] at run
      cases discarded : f.discardTemp stillOpen w2 with
      | ok u' w3 =>
        rw [discarded] at run
        cases run
        exact (discarding.ok discarded).trans ((kept rfl).trans (making.ok made))
      | error e' w3 =>
        rw [discarded] at run
        cases run
        exact (discarding.error discarded).trans ((kept rfl).trans (making.ok made))
    | none =>
      -- past the rename, syncing the directory and logging only ever report
      dsimp only [EStateM.bind] at run
      obtain ⟨w3, synced⟩ := f.syncDirectory_ok w2
      rw [synced] at run
      cases run

end SnapshotFile

end GuildRegistry
