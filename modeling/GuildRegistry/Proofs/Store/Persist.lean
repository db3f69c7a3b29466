import GuildRegistry.Proofs.Store.Rollback

/-! Saves and loads that succeed.

A save that returns has renamed a temp file holding the token of the document over the snapshot, so
the snapshot then holds exactly that token (`SnapshotFile.save_ok`), and on a disk where no failure
is planted every save returns (`SnapshotFile.save_faultless`).
-/

set_option autoImplicit false

namespace GuildRegistry

theorem bind_ok {ε σ α β : Type} {x : EStateM ε σ α} {g : α → EStateM ε σ β} {s s' : σ} {b : β}
    (run : (x >>= g) s = .ok b s') : ∃ a s₁, x s = .ok a s₁ ∧ g a s₁ = .ok b s' := by
  change EStateM.bind x g s = _ at run
  unfold EStateM.bind at run
  split at run
  · exact ⟨_, _, ‹_›, run⟩
  · cases run

theorem bind_run_ok {ε σ α β : Type} {x : EStateM ε σ α} {g : α → EStateM ε σ β} {s s₁ : σ} {a : α}
    (run : x s = .ok a s₁) : (x >>= g) s = g a s₁ := by
  change EStateM.bind x g s = _
  unfold EStateM.bind
  rw [run]

theorem pure_run {ε σ α : Type} (a : α) (s : σ) : (pure a : EStateM ε σ α) s = .ok a s := rfl

namespace Disk

/-- A disk where no failure is planted. -/
def Faultless (d : Disk) : Prop := d.faults = []

/-- The points failures are planted at, one for each planted failure. -/
def faultPoints (d : Disk) : List FaultPoint := d.faults.map (·.point)

theorem Faultless.of_faultPoints {d d' : Disk} (hd : d.Faultless) (same : d'.faultPoints = d.faultPoints) :
    d'.Faultless := by
  unfold faultPoints at same
  unfold Faultless at hd ⊢
  rw [hd, List.map_nil, List.map_eq_nil_iff] at same
  exact same

@[simp] theorem faults_put (d : Disk) (p : String) (bytes : List UInt8) : (d.put p bytes).faults = d.faults := by
  unfold put
  split <;> rfl

@[simp] theorem faults_delete (d : Disk) (p : String) : (d.delete p).faults = d.faults := rfl

@[simp] theorem faultPoints_useFault (d : Disk) (p : FaultPoint) : (d.useFault p).faultPoints = d.faultPoints := by
  simp only [faultPoints, useFault, List.map_map]
  apply List.map_congr_left
  intro fault _
  simp only [Function.comp_apply]
  split <;> rfl

theorem read?_put_self (d : Disk) (p : String) (bytes : List UInt8) : (d.put p bytes).read? p = some bytes := by
  unfold put read?
  split
  · -- the file is rewritten in place, and the first file at `p` is the rewritten one
    rename_i present
    have same : ∀ e : String × List UInt8,
        ((if (e.1 == p) = true then (p, bytes) else e).1 == p) = (e.1 == p) := by
      intro e
      by_cases at_p : e.1 = p <;> simp [at_p]
    simp only [List.find?_map, Function.comp_def, same]
    obtain ⟨e, found⟩ : ∃ e, d.files.find? (fun x => x.1 == p) = some e := by
      apply Option.isSome_iff_exists.mp
      rw [List.find?_isSome]
      simpa using present
    have hit : e.1 = p := by simpa using List.find?_some found
    simp [found, hit]
  · rename_i absent
    have none : d.files.find? (fun x => x.1 == p) = none := by
      rw [List.find?_eq_none]
      intro x mem hit
      exact absent (List.any_eq_true.mpr ⟨x, mem, hit⟩)
    simp [List.find?_append, none]

theorem enter_faultless {d : Disk} (hd : d.Faultless) (p : FaultPoint) : enter p d = .ok () d := by
  unfold enter planted?
  rw [show d.faults = [] from hd]
  rfl

theorem enter_ok {p : FaultPoint} {d d' : Disk} {u : Unit} (run : enter p d = .ok u d') : d' = d := by
  unfold enter at run
  split at run <;> cases run
  rfl

theorem enter_error {p : FaultPoint} {d d' : Disk} {e : IoError} (run : enter p d = .error e d') :
    p ∈ d.faultPoints := by
  unfold enter planted? at run
  cases found : d.faults.find? (fun f => f.point == p && Binary64.lt 0 f.remaining) with
  | none => rw [found] at run; cases run
  | some fault =>
    have planted := List.find?_some found
    simp only [Bool.and_eq_true, beq_iff_eq] at planted
    exact List.mem_map.mpr ⟨fault, List.mem_of_find?_eq_some found, planted.1⟩

theorem readFile_ok {path : String} {d d' : Disk} {bytes : List UInt8} (run : readFile path d = .ok bytes d') :
    d.read? path = some bytes := by
  obtain ⟨u, d₁, entered, run⟩ := bind_ok run
  cases enter_ok entered
  simp only [bind, EStateM.bind, get_run] at run
  cases found : d.read? path with
  | some b => rw [found] at run; cases run; rfl
  | none => rw [found] at run; cases run

theorem readFile_error {path : String} {d d' : Disk} {e : IoError} (noRead : FaultPoint.readFile ∉ d.faultPoints)
    (run : readFile path d = .error e d') : d.read? path = none := by
  unfold readFile at run
  simp only [bind, EStateM.bind] at run
  cases entered : enter .readFile d with
  | error e' d₁ => exact absurd (enter_error entered) noRead
  | ok u d₁ =>
    rw [entered] at run
    cases enter_ok entered
    simp only [get_run] at run
    cases found : d.read? path with
    | some b => rw [found] at run; cases run
    | none => rfl

theorem readFile_faultless {d : Disk} (hd : d.Faultless) (path : String) :
    readFile path d = match d.read? path with
      | some bytes => .ok bytes d
      | none => .error (IoError.missing path) d := by
  unfold readFile
  rw [bind_run_ok (enter_faultless hd _)]
  simp only [bind, EStateM.bind, get_run]
  cases d.read? path <;> rfl

theorem inspect_faultless {d : Disk} (hd : d.Faultless) (path : String) :
    inspect path d = match d.read? path with
      | some _ => .ok () d
      | none => .error (IoError.missing path) d := by
  unfold inspect
  rw [bind_run_ok (enter_faultless hd _)]
  simp only [bind, EStateM.bind, get_run]
  cases d.read? path <;> rfl

theorem write_ok {path : String} {bytes : List UInt8} {d d' : Disk} {u : Unit}
    (run : write path bytes d = .ok u d') : d'.read? path = some bytes := by
  obtain ⟨u₁, d₁, entered, run⟩ := bind_ok run
  cases enter_ok entered
  cases run
  exact read?_put_self d path bytes

theorem rename_ok {source target : String} {d d' : Disk} {u : Unit} (run : rename source target d = .ok u d') :
    d'.read? target = d.read? source := by
  obtain ⟨u₁, d₁, entered, run⟩ := bind_ok run
  cases enter_ok entered
  simp only [bind, EStateM.bind, get_run] at run
  cases found : d.read? source with
  | some bytes =>
    rw [found] at run
    cases run
    exact read?_put_self _ target bytes
  | none => rw [found] at run; cases run

theorem openWrite_faultless {d : Disk} (hd : d.Faultless) (path : String) :
    openWrite path d = .ok () (d.put path []) := by
  unfold openWrite
  rw [bind_run_ok (enter_faultless hd _)]
  rfl

theorem write_faultless {d : Disk} (hd : d.Faultless) (path : String) (bytes : List UInt8) :
    write path bytes d = .ok () (d.put path bytes) := by
  unfold write
  rw [bind_run_ok (enter_faultless hd _)]
  rfl

theorem rename_faultless {d : Disk} (hd : d.Faultless) {source : String} {bytes : List UInt8}
    (found : d.read? source = some bytes) (target : String) :
    rename source target d = .ok () ((d.delete source).put target bytes) := by
  unfold rename
  rw [bind_run_ok (enter_faultless hd _)]
  simp only [bind, EStateM.bind, get_run, found]
  rfl

theorem Faultless.put {d : Disk} (hd : d.Faultless) (path : String) (bytes : List UInt8) :
    (d.put path bytes).Faultless := by
  unfold Faultless
  rw [faults_put]
  exact hd

theorem Faultless.delete {d : Disk} (hd : d.Faultless) (path : String) : (d.delete path).Faultless := hd

theorem tryCatch_run {α : Type} (x : DiskM α) (h : IoError → DiskM α) (d : Disk) :
    (tryCatch x h : DiskM α) d = match x d with
      | .ok a d' => .ok a d'
      | .error e d' => h e d' := by
  show EStateM.tryCatch x h d = _
  unfold EStateM.tryCatch
  cases x d <;> rfl

theorem keeps_readFile {path : String} (p : String) : Keeps path (readFile p) :=
  (keeps_enter _).bind fun _ => keeps_get.bind fun d => by
    cases d.read? p with
    | some bytes => exact keeps_pure bytes
    | none => exact keeps_throw _

theorem keeps_inspect {path : String} (p : String) : Keeps path (inspect p) :=
  (keeps_enter _).bind fun _ => keeps_get.bind fun d => by
    cases d.read? p with
    | some bytes => exact keeps_pure ()
    | none => exact keeps_throw _

theorem keeps_tryCatch {path : String} {α : Type} {x : DiskM α} {h : IoError → DiskM α} (hx : Keeps path x)
    (hh : ∀ e, Keeps path (h e)) : Keeps path (tryCatch x h) := by
  intro d
  rw [tryCatch_run]
  cases run : x d with
  | ok a d' => exact hx.ok run
  | error e d' => rw [hh e d', hx.error run]

theorem keeps_syncDirectoryCalls (path : String) : Keeps path syncDirectoryCalls := by
  unfold syncDirectoryCalls
  refine (keeps_enter _).bind fun _ => ?_
  refine (keeps_tryCatch ((keeps_enter _).bind fun _ => keeps_pure _) fun _ => keeps_pure _).bind
    fun synced => (keeps_enter _).bind fun _ => ?_
  cases synced with
  | some e => exact keeps_throw e
  | none => exact keeps_pure ()

theorem makeDirectory_faultless {d : Disk} (hd : d.Faultless) : makeDirectory d = .ok () d :=
  enter_faultless hd _

theorem remove_faultless {d : Disk} (hd : d.Faultless) (path : String) :
    remove path d = .ok () (d.delete path) := by
  unfold remove
  rw [bind_run_ok (enter_faultless hd _)]
  rfl

/-! ### The points failures are planted at -/

/-- A disk call that leaves the points failures are planted at as they were, whether it
succeeds or fails. -/
def KeepsPoints {α : Type} (op : DiskM α) : Prop := ∀ d, (stateAfter (op d)).faultPoints = d.faultPoints

theorem KeepsPoints.ok {α : Type} {op : DiskM α} (keeps : KeepsPoints op) {d d' : Disk} {a : α}
    (run : op d = .ok a d') : d'.faultPoints = d.faultPoints := by
  have := keeps d
  rw [run] at this
  exact this

theorem KeepsPoints.error {α : Type} {op : DiskM α} (keeps : KeepsPoints op) {d d' : Disk} {e : IoError}
    (run : op d = .error e d') : d'.faultPoints = d.faultPoints := by
  have := keeps d
  rw [run] at this
  exact this

theorem KeepsPoints.bind {α β : Type} {x : DiskM α} {g : α → DiskM β} (hx : KeepsPoints x)
    (hg : ∀ a, KeepsPoints (g a)) : KeepsPoints (x >>= g) := by
  intro d
  show (stateAfter (EStateM.bind x g d)).faultPoints = _
  unfold EStateM.bind
  cases run : x d with
  | ok a d' => rw [hg a d', hx.ok run]
  | error e d' => exact hx.error run

theorem keepsPoints_pure {α : Type} (a : α) : KeepsPoints (pure a : DiskM α) := fun _ => rfl

theorem keepsPoints_throw {α : Type} (e : IoError) : KeepsPoints (throw e : DiskM α) := fun _ => rfl

theorem keepsPoints_get : KeepsPoints (get : DiskM Disk) := fun _ => rfl

theorem keepsPoints_modify {g : Disk → Disk} (hg : ∀ d, (g d).faults = d.faults) :
    KeepsPoints (modify g : DiskM Unit) := fun d => by
  show (g d).faultPoints = d.faultPoints
  rw [faultPoints, faultPoints, hg]

theorem keepsPoints_tryCatch {α : Type} {x : DiskM α} {h : IoError → DiskM α} (hx : KeepsPoints x)
    (hh : ∀ e, KeepsPoints (h e)) : KeepsPoints (tryCatch x h) := by
  intro d
  rw [tryCatch_run]
  cases run : x d with
  | ok a d' => exact hx.ok run
  | error e d' => rw [hh e d', hx.error run]

theorem keepsPoints_enter (p : FaultPoint) : KeepsPoints (enter p) := by
  intro d
  unfold enter
  cases d.planted? p
  · rfl
  · exact faultPoints_useFault d p

theorem keepsPoints_lookup {α : Type} (p : FaultPoint) (path : String) {found : List UInt8 → DiskM α}
    {missing : DiskM α} (hf : ∀ bytes, KeepsPoints (found bytes)) (hm : KeepsPoints missing) :
    KeepsPoints (do enter p; match (← get).read? path with | some bytes => found bytes | none => missing) :=
  (keepsPoints_enter _).bind fun _ => keepsPoints_get.bind fun d => by
    cases d.read? path with
    | some bytes => exact hf bytes
    | none => exact hm

theorem keepsPoints_readFile (path : String) : KeepsPoints (readFile path) :=
  keepsPoints_lookup _ _ keepsPoints_pure (keepsPoints_throw _)

theorem keepsPoints_inspect (path : String) : KeepsPoints (inspect path) :=
  keepsPoints_lookup _ _ (fun _ => keepsPoints_pure ()) (keepsPoints_throw _)

theorem keepsPoints_rename (source target : String) : KeepsPoints (rename source target) :=
  keepsPoints_lookup _ _ (fun _ => keepsPoints_modify fun d => by simp) (keepsPoints_throw _)

theorem keepsPoints_remove (path : String) : KeepsPoints (remove path) :=
  (keepsPoints_enter _).bind fun _ => keepsPoints_modify fun _ => rfl

theorem keepsPoints_openWrite (path : String) : KeepsPoints (openWrite path) :=
  (keepsPoints_enter _).bind fun _ => keepsPoints_modify fun d => faults_put d _ _

theorem keepsPoints_write (path : String) (bytes : List UInt8) : KeepsPoints (write path bytes) :=
  (keepsPoints_enter _).bind fun _ => keepsPoints_modify fun d => faults_put d _ _

theorem keepsPoints_syncDirectoryCalls : KeepsPoints syncDirectoryCalls := by
  unfold syncDirectoryCalls
  refine (keepsPoints_enter _).bind fun _ => ?_
  refine (keepsPoints_tryCatch ((keepsPoints_enter _).bind fun _ => keepsPoints_pure _)
    fun _ => keepsPoints_pure _).bind fun synced => (keepsPoints_enter _).bind fun _ => ?_
  cases synced with
  | some e => exact keepsPoints_throw e
  | none => exact keepsPoints_pure ()

end Disk

namespace World

/-- A call on the world that leaves the points failures are planted at as they were,
whether it succeeds or fails. -/
def KeepsPoints {α : Type} (op : WorldM α) : Prop :=
  ∀ w, (stateAfter (op w)).disk.faultPoints = w.disk.faultPoints

theorem KeepsPoints.ok {α : Type} {op : WorldM α} (keeps : KeepsPoints op) {w w' : World} {a : α}
    (run : op w = .ok a w') : w'.disk.faultPoints = w.disk.faultPoints := by
  have := keeps w
  rw [run] at this
  exact this

theorem KeepsPoints.error {α : Type} {op : WorldM α} (keeps : KeepsPoints op) {w w' : World} {e : StoreError}
    (run : op w = .error e w') : w'.disk.faultPoints = w.disk.faultPoints := by
  have := keeps w
  rw [run] at this
  exact this

theorem KeepsPoints.bind {α β : Type} {x : WorldM α} {g : α → WorldM β} (hx : KeepsPoints x)
    (hg : ∀ a, KeepsPoints (g a)) : KeepsPoints (x >>= g) := by
  intro w
  show (stateAfter (EStateM.bind x g w)).disk.faultPoints = _
  unfold EStateM.bind
  cases run : x w with
  | ok a w' => rw [hg a w', hx.ok run]
  | error e w' => exact hx.error run

theorem keepsPoints_pure {α : Type} (a : α) : KeepsPoints (pure a : WorldM α) := fun _ => rfl

theorem keepsPoints_throw {α : Type} (e : StoreError) : KeepsPoints (throw e : WorldM α) := fun _ => rfl

theorem keepsPoints_record (level : LogLevel) (message : String) (fields : List (String × Json)) :
    KeepsPoints (record level message fields) := fun _ => rfl

theorem keepsPoints_attempt {α : Type} {op : DiskM α} (keeps : Disk.KeepsPoints op) : KeepsPoints (attempt op) := by
  intro w
  rw [attempt_run]
  cases run : op w.disk with
  | ok a d => exact keeps.ok run
  | error e d => exact keeps.error run

theorem keepsPoints_call {α : Type} (wrap : IoError → StoreError) {op : DiskM α} (keeps : Disk.KeepsPoints op) :
    KeepsPoints (call wrap op) :=
  (keepsPoints_attempt keeps).bind fun r => by
    cases r with
    | ok a => exact keepsPoints_pure a
    | error e => exact keepsPoints_throw _

theorem keepsPoints_attempt_bind {α β : Type} {op : DiskM α} (keeps : Disk.KeepsPoints op)
    {g : Except IoError α → WorldM β} (hg : ∀ r, KeepsPoints (g r)) : KeepsPoints (attempt op >>= g) :=
  (keepsPoints_attempt keeps).bind hg

theorem record_run (level : LogLevel) (message : String) (fields : List (String × Json)) (w : World) :
    record level message fields w = .ok () { w with log := w.log ++ [⟨level, message, fields⟩] } := rfl

theorem call_ok {α : Type} {wrap : IoError → StoreError} {op : DiskM α} {w w' : World} {a : α}
    (run : call wrap op w = .ok a w') : op w.disk = .ok a w'.disk := by
  obtain ⟨r, w₁, attempted, run⟩ := bind_ok run
  cases r with
  | ok a' =>
    cases run
    exact attempt_ok attempted
  | error e => cases run

theorem call_of_ok {α : Type} (wrap : IoError → StoreError) {op : DiskM α} {w : World} {a : α} {d : Disk}
    (run : op w.disk = .ok a d) : call wrap op w = .ok a { w with disk := d } := by
  unfold call
  rw [bind_run_ok (show attempt op w = .ok (.ok a) { w with disk := d } by rw [attempt_run, run])]
  rfl

end World

namespace SnapshotFile

variable (f : SnapshotFile)

/-! ### What each call of a save or a load keeps -/

theorem keepsPoints_removeStaleTemp : World.KeepsPoints f.removeStaleTemp := by
  unfold removeStaleTemp
  refine World.keepsPoints_attempt_bind (Disk.keepsPoints_inspect _) fun r => ?_
  cases r with
  | error e =>
    dsimp only
    split
    · exact World.keepsPoints_pure ()
    · exact World.keepsPoints_throw _
  | ok u =>
    exact (World.keepsPoints_record _ _ _).bind fun _ => World.keepsPoints_call _ (Disk.keepsPoints_remove _)

theorem keepsPoints_load : World.KeepsPoints f.load := by
  unfold load
  refine (World.keepsPoints_call _ (Disk.keepsPoints_enter _)).bind fun _ =>
    (f.keepsPoints_removeStaleTemp).bind fun _ => World.keepsPoints_attempt_bind (Disk.keepsPoints_readFile _) fun r => ?_
  -- a missing file, an empty one, and bytes to read
  split
  · split
    · exact (World.keepsPoints_record _ _ _).bind fun _ => World.keepsPoints_pure _
    · exact World.keepsPoints_throw _
  · exact World.keepsPoints_pure _
  · split
    · exact World.keepsPoints_pure _
    · exact World.keepsPoints_throw _

theorem keepsPoints_writeTemp (bytes : List UInt8) : World.KeepsPoints (f.writeTemp bytes) := by
  unfold writeTemp
  refine World.keepsPoints_attempt_bind (Disk.keepsPoints_openWrite _) fun r => ?_
  cases r with
  | error e => exact World.keepsPoints_pure _
  | ok u =>
    refine World.keepsPoints_attempt_bind ((Disk.keepsPoints_write _ _).bind fun _ =>
      (Disk.keepsPoints_enter _).bind fun _ => Disk.keepsPoints_enter _) fun r => ?_
    cases r with
    | error e => exact World.keepsPoints_pure _
    | ok u =>
      refine World.keepsPoints_attempt_bind (Disk.keepsPoints_rename _ _) fun r => ?_
      cases r with
      | error e => exact World.keepsPoints_pure _
      | ok u => exact World.keepsPoints_pure _

theorem keepsPoints_logged {op : DiskM Unit} (keeps : Disk.KeepsPoints op) (level : LogLevel)
    (message : String) (fields : IoError → List (String × Json)) :
    World.KeepsPoints (do
      match ← World.attempt op with
      | .error e => World.record level message (fields e)
      | .ok () => pure ()) :=
  World.keepsPoints_attempt_bind keeps fun r => by
    cases r with
    | error e => exact World.keepsPoints_record _ _ _
    | ok u => exact World.keepsPoints_pure ()

theorem keepsPoints_discardTemp (stillOpen : Bool) : World.KeepsPoints (f.discardTemp stillOpen) := by
  have removing := keepsPoints_logged (Disk.keepsPoints_remove f.tempPath) .error "removing temp snapshot failed"
    fun e => [(StoreError.io e).field, ("path", .str f.tempPath)]
  unfold discardTemp
  dsimp only
  split
  · refine World.keepsPoints_attempt_bind (Disk.keepsPoints_enter _) fun r => ?_
    cases r with
    | error e => exact (World.keepsPoints_record _ _ _).bind fun _ => removing
    | ok u => exact removing
  · exact removing

theorem keepsPoints_syncDirectory : World.KeepsPoints f.syncDirectory :=
  keepsPoints_logged Disk.keepsPoints_syncDirectoryCalls .warn "directory fsync failed after snapshot rename"
    fun e => [(StoreError.io e).field, ("path", .str f.path)]

theorem keepsPoints_save (d : Document) : World.KeepsPoints (f.save d) := by
  unfold save
  refine (World.keepsPoints_call _ (Disk.keepsPoints_enter _)).bind fun _ =>
    (f.keepsPoints_writeTemp _).bind fun r => ?_
  cases r with
  | some failure => exact (f.keepsPoints_discardTemp failure.2).bind fun _ => World.keepsPoints_throw _
  | none => exact (f.keepsPoints_syncDirectory).bind fun _ => World.keepsPoints_record _ _ _

/-! ### Saves -/

theorem writeTemp_none {bytes : List UInt8} {w w' : World} (run : f.writeTemp bytes w = .ok none w') :
    w'.disk.read? f.path = some bytes := by
  obtain ⟨opened, w₁, _, run⟩ := bind_ok run
  cases opened with
  | error e => cases run
  | ok u =>
    obtain ⟨wrote, w₂, writing, run⟩ := bind_ok run
    cases wrote with
    | error e => cases run
    | ok u' =>
      obtain ⟨renamed, w₃, moving, run⟩ := bind_ok run
      cases renamed with
      | error e => cases run
      | ok u'' =>
        cases run
        -- the temp file holds the bytes once written, synced and closed
        obtain ⟨_, d₁, written, closing⟩ := bind_ok (World.attempt_ok writing)
        obtain ⟨_, d₂, synced, closed⟩ := bind_ok closing
        rw [Disk.rename_ok (World.attempt_ok moving), Disk.enter_ok closed, Disk.enter_ok synced]
        exact Disk.write_ok written

theorem writeTemp_faultless (bytes : List UInt8) {w : World} (hd : w.disk.Faultless) :
    ∃ w', f.writeTemp bytes w = .ok none w' := by
  have hd₁ := hd.put f.tempPath []
  have hd₂ := hd₁.put f.tempPath bytes
  have wrote : (do Disk.write f.tempPath bytes; Disk.sync; Disk.close) (w.disk.put f.tempPath []) =
      .ok () ((w.disk.put f.tempPath []).put f.tempPath bytes) := by
    unfold Disk.sync Disk.close
    rw [bind_run_ok (Disk.write_faultless hd₁ _ _), bind_run_ok (Disk.enter_faultless hd₂ _)]
    exact Disk.enter_faultless hd₂ _
  have moved := Disk.rename_faultless hd₂ (Disk.read?_put_self _ _ _) f.path
  unfold writeTemp
  rw [bind_run_ok (show World.attempt (Disk.openWrite f.tempPath) w = _ by
    rw [World.attempt_run, Disk.openWrite_faultless hd])]
  dsimp only
  rw [bind_run_ok (show World.attempt _ _ = _ by rw [World.attempt_run, wrote])]
  dsimp only
  rw [bind_run_ok (show World.attempt _ _ = _ by rw [World.attempt_run, moved])]
  exact ⟨_, rfl⟩

theorem keeps_syncDirectory (path : String) : World.Keeps path f.syncDirectory := by
  unfold syncDirectory
  refine (World.keeps_attempt (Disk.keeps_syncDirectoryCalls _)).bind fun r => ?_
  cases r with
  | error e => exact World.keeps_record _ _ _
  | ok u => exact World.keeps_pure ()

theorem save_ok {d : Document} {w w' : World} {u : Unit} (run : f.save d w = .ok u w') :
    w'.disk.read? f.path = some (sealText f.key (Json.render d.toJson)) := by
  unfold save at run
  obtain ⟨_, w₁, _, run⟩ := bind_ok run
  obtain ⟨r, w₂, wrote, run⟩ := bind_ok run
  cases r with
  | some stillOpen =>
    obtain ⟨_, w₃, _, run⟩ := bind_ok run
    cases run
  | none =>
    -- past the rename, syncing the directory and logging leave the snapshot as it is
    obtain ⟨_, w₃, synced, run⟩ := bind_ok run
    cases run
    exact ((f.keeps_syncDirectory f.path).ok synced).trans (f.writeTemp_none wrote)

theorem save_faultless (d : Document) {w : World} (hd : w.disk.Faultless) : ∃ w', f.save d w = .ok () w' := by
  unfold save
  rw [bind_run_ok (World.call_of_ok _ (Disk.makeDirectory_faultless hd))]
  obtain ⟨w₂, wrote⟩ := f.writeTemp_faultless (sealText f.key (Json.render d.toJson)) hd
  rw [bind_run_ok wrote]
  obtain ⟨w₃, synced⟩ := f.syncDirectory_ok w₂
  dsimp only
  rw [bind_run_ok synced]
  exact ⟨_, rfl⟩

/-! ### Loads -/

/-- The document a snapshot's bytes hold: none when there is no file or it is empty. -/
def documentOf (bytes? : Option (List UInt8)) : Except StoreError (Option Document) :=
  match bytes? with
  | none | some [] => .ok none
  | some bytes => (f.readBytes bytes).map some

theorem keeps_removeStaleTemp : World.Keeps f.path f.removeStaleTemp := by
  unfold removeStaleTemp
  refine (World.keeps_attempt (Disk.keeps_inspect _)).bind fun r => ?_
  cases r with
  | error e =>
    dsimp only
    split
    · exact World.keeps_pure ()
    · exact World.keeps_throw _
  | ok u =>
    exact (World.keeps_record _ _ _).bind fun _ => World.keeps_call _ (Disk.keeps_remove f.path_ne_tempPath)

theorem keeps_load : World.Keeps f.path f.load := by
  unfold load
  refine (World.keeps_call _ (Disk.keeps_enter _)).bind fun _ =>
    (f.keeps_removeStaleTemp).bind fun _ => (World.keeps_attempt (Disk.keeps_readFile _)).bind fun r => ?_
  split
  · split
    · exact (World.keeps_record _ _ _).bind fun _ => World.keeps_pure _
    · exact World.keeps_throw _
  · exact World.keeps_pure _
  · split
    · exact World.keeps_pure _
    · exact World.keeps_throw _

theorem load_ok {w w' : World} {doc : Option Document} (noRead : FaultPoint.readFile ∉ w.disk.faultPoints)
    (run : f.load w = .ok doc w') : f.documentOf (w.disk.read? f.path) = .ok doc := by
  unfold load at run
  obtain ⟨_, w₁, made, run⟩ := bind_ok run
  obtain ⟨_, w₂, removed, run⟩ := bind_ok run
  have making := World.keeps_call (fun e => StoreError.io e) (@Disk.keeps_enter f.path .makeDirectory)
  have kept : w₂.disk.read? f.path = w.disk.read? f.path :=
    (f.keeps_removeStaleTemp.ok removed).trans (making.ok made)
  have noRead₂ : FaultPoint.readFile ∉ w₂.disk.faultPoints := by
    rw [f.keepsPoints_removeStaleTemp.ok removed,
      (World.keepsPoints_call (fun e => StoreError.io e) (Disk.keepsPoints_enter _)).ok made]
    exact noRead
  obtain ⟨r, w₃, read, run⟩ := bind_ok run
  rw [← kept]
  cases r with
  | error e =>
    -- only a missing file fails to read
    rw [Disk.readFile_error noRead₂ (World.attempt_error read)]
    dsimp only at run
    split at run
    · obtain ⟨_, _, _, run⟩ := bind_ok run
      cases run
      rfl
    · cases run
  | ok bytes =>
    rw [Disk.readFile_ok (World.attempt_ok read)]
    cases bytes with
    | nil => cases run; rfl
    | cons b rest =>
      dsimp only at run
      show (f.readBytes (b :: rest)).map some = _
      cases reading : f.readBytes (b :: rest) with
      | ok d => rw [reading] at run; cases run; rfl
      | error e => rw [reading] at run; cases run

theorem removeStaleTemp_faultless {w : World} (hd : w.disk.Faultless) : ∃ w', f.removeStaleTemp w = .ok () w' := by
  unfold removeStaleTemp
  cases found : w.disk.read? f.tempPath with
  | none =>
    rw [bind_run_ok (show World.attempt (Disk.inspect f.tempPath) w = _ by
      rw [World.attempt_run, Disk.inspect_faultless hd, found])]
    exact ⟨_, rfl⟩
  | some bytes =>
    rw [bind_run_ok (show World.attempt (Disk.inspect f.tempPath) w = _ by
      rw [World.attempt_run, Disk.inspect_faultless hd, found])]
    dsimp only
    rw [bind_run_ok (World.record_run _ _ _ _)]
    exact ⟨_, World.call_of_ok _ (Disk.remove_faultless hd _)⟩

theorem load_faultless {w : World} (hd : w.disk.Faultless) {doc : Option Document}
    (reads : f.documentOf (w.disk.read? f.path) = .ok doc) : ∃ w', f.load w = .ok doc w' := by
  unfold load
  rw [bind_run_ok (World.call_of_ok _ (Disk.makeDirectory_faultless hd))]
  obtain ⟨w₂, removed⟩ := f.removeStaleTemp_faultless (w := { w with disk := w.disk }) hd
  rw [bind_run_ok removed]
  have kept : w₂.disk.read? f.path = w.disk.read? f.path := f.keeps_removeStaleTemp.ok removed
  have hd₂ : w₂.disk.Faultless := hd.of_faultPoints (f.keepsPoints_removeStaleTemp.ok removed)
  rw [← kept] at reads
  unfold documentOf at reads
  -- a missing file reads as none, an empty one too, and bytes as the document they hold
  cases found : w₂.disk.read? f.path with
  | none =>
    rw [found] at reads
    cases reads
    rw [bind_run_ok (show World.attempt (Disk.readFile f.path) w₂ = _ by
      rw [World.attempt_run, Disk.readFile_faultless hd₂, found])]
    exact ⟨_, rfl⟩
  | some bytes =>
    rw [bind_run_ok (show World.attempt (Disk.readFile f.path) w₂ = _ by
      rw [World.attempt_run, Disk.readFile_faultless hd₂, found])]
    rw [found] at reads
    cases bytes with
    | nil => cases reads; exact ⟨_, rfl⟩
    | cons b rest =>
      dsimp only at reads ⊢
      cases reading : f.readBytes (b :: rest) with
      | error e => rw [reading] at reads; cases reads
      | ok d =>
        rw [reading] at reads
        cases reads
        exact ⟨_, rfl⟩

end SnapshotFile

end GuildRegistry
