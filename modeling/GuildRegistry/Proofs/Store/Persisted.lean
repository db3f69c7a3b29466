import GuildRegistry.Proofs.Store.Serial
import GuildRegistry.Proofs.Store.Restore

/-! What a call leaves on disk, and runs of actions allowed one at a time.

Every call keeps the clock and the points failures are planted at (`Store.Framed`).
-/

set_option autoImplicit false

namespace GuildRegistry

/-- The bytes a snapshot holds for a ledger: the sealed text of its document. -/
def SnapshotFile.sealed (f : SnapshotFile) (l : Ledger) : List UInt8 :=
  SnapshotFile.sealText f.key (Json.render l.toDocument.toJson)

namespace Registry

variable {α : Type} {r : Registry}

/-- A change that has nothing to save leaves the memory as it was but for the XP tables. -/
def Quiet (r : Registry) (c : Change α) : Prop :=
  c.changed = false → ∃ xp, c.after = ⟨{ r.ledger with xp }, r.inReview⟩

theorem quiet_unchanged (r : Registry) (a : α) : r.Quiet (r.unchanged a) := fun _ => ⟨r.ledger.xp, rfl⟩

theorem quiet_of_changed {c : Change α} (changed : c.changed = true) : r.Quiet c := by
  intro quiet
  rw [changed] at quiet
  cases quiet

theorem quiet_addAdmin (u : Binary64) (p : ProfileUpdate) : r.Quiet (r.addAdmin u p) := by
  intro quiet
  simp only [addAdmin, Bool.or_eq_false_iff] at quiet ⊢
  rw [if_neg (by simp [quiet.1]), if_neg (by simp [quiet.2])]
  exact ⟨r.ledger.xp, rfl⟩

theorem quiet_removeAdmin (u : Binary64) : r.Quiet (r.removeAdmin u) := by
  unfold removeAdmin
  dsimp only
  split
  · exact quiet_unchanged r false
  · exact quiet_of_changed rfl

theorem quiet_pop (u : Binary64) : r.Quiet (r.pop u) := by
  unfold pop
  split
  · exact quiet_unchanged r none
  · exact quiet_of_changed rfl

theorem quiet_addXp (chat u amount : Binary64) : r.Quiet (r.addXp chat u amount) :=
  fun _ => ⟨_, rfl⟩

variable (now : Except StoreError String)

theorem quiet_submit (sub : Submission) {c : Change (Except SubmitRefusal (Application × HistoryEntry))}
    (ok : r.submit now sub = .ok c) : r.Quiet c := by
  unfold Registry.submit at ok
  dsimp only at ok
  -- a refusal changes nothing; a queued application is saved
  split at ok
  · cases ok; exact quiet_unchanged r _
  split at ok
  · cases ok; exact quiet_unchanged r _
  split at ok
  · cases ok; exact quiet_unchanged r _
  cases now with
  | error e => cases ok
  | ok t => cases ok; exact quiet_of_changed rfl

theorem quiet_withdraw (u : Binary64) {c : Change (Option HistoryEntry)} (ok : r.withdraw now u = .ok c) :
    r.Quiet c := by
  unfold Registry.withdraw at ok
  split at ok
  · cases ok; exact quiet_unchanged r _
  · cases now with
    | error e => cases ok
    | ok t =>
      simp only [writeHistory_ok] at ok
      cases ok
      exact quiet_of_changed rfl

theorem quiet_recordDecision (u : Binary64) (status : Status) (d : DecisionDetails) {c : Change HistoryEntry}
    (ok : r.recordDecision now u status d = .ok c) : r.Quiet c := by
  unfold Registry.recordDecision at ok
  cases now with
  | error e => cases ok
  | ok t =>
    simp only [writeHistory_ok] at ok
    cases ok
    exact quiet_of_changed rfl

theorem quiet_decide (u : Binary64) (decision : Status) (d : DecisionDetails)
    {c : Change (Option (Application × HistoryEntry))} (ok : r.decide now u decision d = .ok c) : r.Quiet c := by
  unfold Registry.decide at ok
  split at ok
  · cases ok; exact quiet_unchanged r _
  · cases now with
    | error e => cases ok
    | ok t =>
      simp only [writeHistory_ok] at ok
      cases ok
      exact quiet_of_changed rfl

theorem quiet_addCup (chat : Binary64) (cup : NewCup) {c : Change Cup} (ok : r.addCup now chat cup = .ok c) :
    r.Quiet c := by
  unfold Registry.addCup at ok
  cases now with
  | error e => cases ok
  | ok t => cases ok; exact quiet_of_changed rfl

end Registry

namespace Store

variable {f : SnapshotFile}

/-- A store after a call keeps the clock and the points failures are planted at. -/
def Framed (s s' : Store) : Prop := s'.clock = s.clock ∧ s'.world.disk.faultPoints = s.world.disk.faultPoints

theorem framed_refl (s : Store) : Framed s s := ⟨rfl, rfl⟩

/-- Where a change run through the store leaves it: the memory as the change made it, with the
snapshot holding it when it changed anything and as it was otherwise; or, when the change or its
save failed, the memory reread and the snapshot as it was. -/
def Mutated (f : SnapshotFile) {α : Type} (change : Registry → Except StoreError (Change α)) (s s' : Store) :
    Prop :=
  (∃ c, change s.registry = .ok c ∧ s'.registry = c.after ∧
      (c.changed = true ∧ s'.world.disk.read? f.path = some (f.sealed c.after.ledger) ∨
        c.changed = false ∧ s'.world.disk.read? f.path = s.world.disk.read? f.path)) ∨
    (s'.registry = s.registry.reload ∧ s'.world.disk.read? f.path = s.world.disk.read? f.path)

theorem lands_mutate {α : Type} (op : String) (change : Registry → Except StoreError (Change α)) :
    Lands (fun s s' => Framed s s' ∧ Mutated f change s s') (mutate f op change) := by
  intro s
  have frame := mutate_frame (f := f) op change s
  refine ⟨frame, ?_⟩
  cases run : mutate f op change s with
  | ok a s' =>
    obtain ⟨c, hc, -, kept⟩ := mutate_ok run
    rcases kept with ⟨quiet, rfl⟩ | ⟨saved, w, save, rfl⟩
    · exact .inl ⟨c, hc, rfl, .inr ⟨quiet, rfl⟩⟩
    · exact .inl ⟨c, hc, rfl, .inl ⟨saved, f.save_ok save⟩⟩
  | error e s' => exact .inr (mutate_error run)

theorem lands_get_mutate {α : Type} (op : String) (g : Store → Registry → Except StoreError (Change α)) :
    Lands (fun s s' => Framed s s' ∧ Mutated f (g s) s s') (get >>= fun s₀ => mutate f op (g s₀)) :=
  fun s => lands_mutate op (g s) s

theorem lands_load :
    Lands (fun s s' => Framed s s' ∧ s'.world.disk.read? f.path = s.world.disk.read? f.path ∧
      (s'.registry = s.registry ∨ ∃ doc w, f.load s.world = .ok doc w ∧ s'.registry = ⟨Ledger.ofSnapshot doc, []⟩))
      (load f) := by
  intro s
  cases loaded : f.load s.world with
  | ok doc w =>
    obtain ⟨log, run⟩ := load_run_ok loaded
    have kept := f.keeps_load.ok loaded
    have points := f.keepsPoints_load.ok loaded
    rw [run]
    exact ⟨⟨rfl, points⟩, kept, .inr ⟨doc, w, rfl, rfl⟩⟩
  | error e w =>
    rw [load_run_error loaded]
    exact ⟨⟨rfl, f.keepsPoints_load.error loaded⟩, f.keeps_load.error loaded, .inl rfl⟩

theorem lands_save :
    Lands (fun s s' => Framed s s' ∧ s'.registry = s.registry ∧
      (s'.world.disk.read? f.path = some (f.sealed s.registry.ledger) ∨
        s'.world.disk.read? f.path = s.world.disk.read? f.path)) (save f) := by
  intro s
  rw [save_run, onWorld_run]
  cases saved : f.save s.registry.ledger.toDocument s.world with
  | ok u w => exact ⟨⟨rfl, (f.keepsPoints_save _).ok saved⟩, rfl, .inl (f.save_ok saved)⟩
  | error e w => exact ⟨⟨rfl, (f.keepsPoints_save _).error saved⟩, rfl, .inr (f.save_error saved)⟩

end Store

namespace Request

variable {f : SnapshotFile}

/-- Where a call leaves the memory and the snapshot of a store. Either the memory is as it was
or as the call's change made it, and the snapshot then holds its sealed document or is as it was,
the memory differing from what it was only in its XP tables (a read, a failed save, a change with
nothing to save); or the snapshot is as it was and the memory is reread after a change failed, or
holds what a load read, with no review open. -/
def Persists (f : SnapshotFile) (req : Request) (s s' : Store) : Prop :=
  (s'.registry = s.registry ∨ req.Changes (Store.now s) s.registry s'.registry) ∧
      (s'.world.disk.read? f.path = some (f.sealed s'.registry.ledger) ∨
        s'.world.disk.read? f.path = s.world.disk.read? f.path ∧
          ∃ xp, s'.registry = ⟨{ s.registry.ledger with xp }, s.registry.inReview⟩) ∨
    s'.world.disk.read? f.path = s.world.disk.read? f.path ∧
      ((req.changes = true ∧ s'.registry = s.registry.reload) ∨
        (req = .load ∧ ∃ doc w, f.load s.world = .ok doc w ∧ s'.registry = ⟨Ledger.ofSnapshot doc, []⟩))

theorem Persists.leaves {req : Request} {s s' : Store} (persists : req.Persists f s s') : req.Leaves f s s'.registry := by
  rcases persists with ⟨same | moved, -⟩ | ⟨-, reread | loaded⟩
  · exact .inl same
  · exact .inr (.inr (.inr moved))
  · exact .inr (.inl reread)
  · exact .inr (.inr (.inl loaded))

theorem persists_refl (req : Request) (s : Store) : Store.Framed s s ∧ req.Persists f s s :=
  ⟨Store.framed_refl s, .inl ⟨.inl rfl, .inr ⟨rfl, s.registry.ledger.xp, rfl⟩⟩⟩

theorem persists_of_mutate (req : Request) (changing : req.changes = true) {α : Type}
    {g : Store → Registry → Except StoreError (Change α)}
    (made : ∀ s c, g s s.registry = .ok c → req.Changes (Store.now s) s.registry c.after)
    (quiet : ∀ s c, g s s.registry = .ok c → s.registry.Quiet c) (s s' : Store)
    (moved : Store.Framed s s' ∧ Store.Mutated f (g s) s s') :
    Store.Framed s s' ∧ req.Persists f s s' := by
  obtain ⟨frame, moved⟩ := moved
  refine ⟨frame, ?_⟩
  rcases moved with ⟨c, ok, left, ⟨-, saved⟩ | ⟨nothing, kept⟩⟩ | ⟨reread, kept⟩
  · rw [← left] at saved
    exact .inl ⟨.inr (left ▸ made s c ok), .inl saved⟩
  · obtain ⟨xp, same⟩ := quiet s c ok nothing
    exact .inl ⟨.inr (left ▸ made s c ok), .inr ⟨kept, xp, left.trans same⟩⟩
  · exact .inr ⟨kept, .inl ⟨changing, reread⟩⟩

theorem run_persists (req : Request) : Store.Lands (fun s s' => Store.Framed s s' ∧ req.Persists f s s') (req.run f) := by
  unfold run
  refine Store.lands_get_bind fun _ => ?_
  have same : ∀ s, Store.Framed s s ∧ req.Persists f s s := persists_refl req
  cases req with
  | load =>
    refine (Store.lands_load.bind_answer fun _ s => ⟨_, rfl⟩).mono fun s s' moved => ?_
    obtain ⟨frame, kept, same | loaded⟩ := moved
    · exact ⟨frame, .inl ⟨.inl same, .inr ⟨kept, s.registry.ledger.xp, same⟩⟩⟩
    · exact ⟨frame, .inr ⟨kept, .inr ⟨rfl, loaded⟩⟩⟩
  | save =>
    refine (Store.lands_save.bind_answer fun _ s => ⟨_, rfl⟩).mono
      fun s s' moved => ?_
    obtain ⟨frame, kept, saved | failed⟩ := moved
    · rw [← kept] at saved
      exact ⟨frame, .inl ⟨.inl kept, .inl saved⟩⟩
    · exact ⟨frame, .inl ⟨.inl kept, .inr ⟨failed, s.registry.ledger.xp, kept⟩⟩⟩
  | addAdmin u p =>
    exact ((Store.lands_mutate _ _).map _).mono
      (persists_of_mutate (.addAdmin u p) rfl (g := fun _ r => .ok (r.addAdmin u p))
        (fun s c ok => by cases ok; exact rfl) (fun s c ok => by cases ok; exact Registry.quiet_addAdmin u p))
  | removeAdmin u =>
    exact ((Store.lands_mutate _ _).map _).mono
      (persists_of_mutate (.removeAdmin u) rfl (g := fun _ r => .ok (r.removeAdmin u))
        (fun s c ok => by cases ok; exact rfl) (fun s c ok => by cases ok; exact Registry.quiet_removeAdmin u))
  | submit sub =>
    exact ((Store.lands_get_mutate _ _).map _).mono
      (persists_of_mutate (.submit sub) rfl (g := fun s r => r.submit (Store.now s) sub)
        (fun s c ok => ⟨c, ok, rfl⟩) (fun s c ok => Registry.quiet_submit _ sub ok))
  | withdraw u =>
    refine ((Store.lands_get_mutate _ _).bind_answer fun a s => ?_).mono
      (persists_of_mutate (.withdraw u) rfl (g := fun s r => r.withdraw (Store.now s) u)
        (fun s c ok => ⟨c, ok, rfl⟩) (fun s c ok => Registry.quiet_withdraw _ u ok))
    cases a <;> exact ⟨_, rfl⟩
  | pop u =>
    exact ((Store.lands_mutate _ _).map _).mono
      (persists_of_mutate (.pop u) rfl (g := fun _ r => .ok (r.pop u))
        (fun s c ok => by cases ok; exact rfl) (fun s c ok => by cases ok; exact Registry.quiet_pop u))
  | recordDecision u status d =>
    exact ((Store.lands_get_mutate _ _).map _).mono
      (persists_of_mutate (.recordDecision u status d) rfl (g := fun s r => r.recordDecision (Store.now s) u status d)
        (fun s c ok => ⟨c, ok, rfl⟩) (fun s c ok => Registry.quiet_recordDecision _ u status d ok))
  | decide u decision d =>
    refine ((Store.lands_get_mutate _ _).bind_answer fun a s => ?_).mono
      (persists_of_mutate (.decide u decision d) rfl (g := fun s r => r.decide (Store.now s) u decision d)
        (fun s c ok => ⟨c, ok, rfl⟩) (fun s c ok => Registry.quiet_decide _ u decision d ok))
    cases a with
    | none => exact ⟨_, rfl⟩
    | some p => exact ⟨_, rfl⟩
  | addXp chat u amount =>
    refine Store.Lands.map ?_ _
    unfold Store.addXp
    -- a bad amount fails before anything runs
    split
    · exact Store.lands_throw _ same
    · rename_i fine
      exact (Store.lands_mutate _ _).mono
        (persists_of_mutate (.addXp chat u amount) rfl (g := fun _ r => .ok (r.addXp chat u amount))
          (fun s c ok => by cases ok; exact ⟨fine, rfl⟩) (fun s c ok => by cases ok; exact Registry.quiet_addXp chat u amount))
  | addCup chat cup =>
    exact ((Store.lands_get_mutate _ _).map _).mono
      (persists_of_mutate (.addCup chat cup) rfl (g := fun s r => r.addCup (Store.now s) chat cup)
        (fun s c ok => ⟨c, ok, rfl⟩) (fun s c ok => Registry.quiet_addCup _ chat cup ok))
  | _ => exact Store.lands_pure _ same

end Request

namespace Action

variable {f : SnapshotFile}

theorem report_run (s : Store) : stateAfter (Action.report.run f s) = s := by
  simp only [run, bind, EStateM.bind, get_run]
  cases fileReport f s.world.disk <;> rfl

theorem snapshot_run {a : Action} (notCall : ∀ req, a ≠ .call req) (notWrite : ∀ c, a ≠ .writeSnapshot c)
    (notDelete : a ≠ .deleteSnapshot) (s : Store) :
    (stateAfter (a.run f s)).world.disk.read? f.path = s.world.disk.read? f.path := by
  cases a with
  | call req => exact absurd rfl (notCall req)
  | writeSnapshot c => exact absurd rfl (notWrite c)
  | deleteSnapshot => exact absurd rfl notDelete
  | writeTemp text => exact Disk.read?_put_of_ne _ f.path_ne_tempPath _
  | report => rw [report_run]
  | _ => rfl

theorem points_run (a : Action) (s : Store) {p : FaultPoint}
    (planted : p ∈ (stateAfter (a.run f s)).world.disk.faultPoints) :
    p ∈ s.world.disk.faultPoints ∨ ∃ times code, a = .plant p times code := by
  cases a with
  | call req =>
    have kept : (stateAfter (req.run f s)).world.disk.faultPoints = s.world.disk.faultPoints :=
      ((req.run_persists s).1).2
    exact .inl (kept ▸ planted)
  | plant q times code =>
    change p ∈ (s.world.disk.plant q times code).faultPoints at planted
    simp only [Disk.plant, Disk.faultPoints, List.map_append, List.mem_append] at planted
    rcases planted with kept | added
    · exact .inl (List.map_subset _ List.filter_sublist.subset kept)
    · rw [List.map_singleton, List.mem_singleton] at added
      exact .inr ⟨times, code, added ▸ rfl⟩
  | writeSnapshot c =>
    change p ∈ (s.world.disk.put _ _).faultPoints at planted
    rw [Disk.faultPoints, Disk.faults_put] at planted
    exact .inl planted
  | writeTemp text =>
    change p ∈ (s.world.disk.put _ _).faultPoints at planted
    rw [Disk.faultPoints, Disk.faults_put] at planted
    exact .inl planted
  | report => rw [report_run] at planted; exact .inl planted
  | _ => exact .inl planted

theorem clock_run (a : Action) (s : Store) :
    (stateAfter (a.run f s)).clock = s.clock ∨ (∃ t, a = .setClock t ∧ (stateAfter (a.run f s)).clock = t) ∨
      ∃ ms, a = .advance ms ∧ (stateAfter (a.run f s)).clock = s.clock + ms := by
  cases a with
  | call req => exact .inl ((req.run_persists s).1).1
  | setClock t => exact .inr (.inl ⟨t, rfl, rfl⟩)
  | advance ms => exact .inr (.inr ⟨ms, rfl, rfl⟩)
  | report => rw [report_run]; exact .inl rfl
  | _ => exact .inl rfl

end Action

namespace Session

/-- The stores a run reaches from `s₀`, running actions one at a time, each allowed at the store
it runs on. -/
inductive Reaches (f : SnapshotFile) (allowed : Store → Action → Prop) (s₀ : Store) : Store → Prop
  | refl : Reaches f allowed s₀ s₀
  | tail {s : Store} {a : Action} : Reaches f allowed s₀ s → allowed s a →
      Reaches f allowed s₀ (stateAfter (a.run f s))

variable {f : SnapshotFile} {allowed : Store → Action → Prop} {s₀ s₁ s : Store}

theorem Reaches.holds {P : Store → Prop} (reached : Reaches f allowed s₀ s) (start : P s₀)
    (step : ∀ s a, allowed s a → P s → P (stateAfter (a.run f s))) : P s := by
  induction reached with
  | refl => exact start
  | tail _ ha ih => exact step _ _ ha ih

theorem Reaches.trans (first : Reaches f allowed s₀ s₁) (next : Reaches f allowed s₁ s) : Reaches f allowed s₀ s := by
  induction next with
  | refl => exact first
  | tail _ ha ih => exact .tail ih ha

end Session

end GuildRegistry
