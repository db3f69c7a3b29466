import GuildRegistry.Proofs.Store.Lifecycle

/-! Every user's status moves along the lifecycle graph.

A user has no status until they first apply; an application makes them pending; a decision on a
pending user makes them approved, denied, withdrawn or pending again; and a denied or withdrawn user
may apply again (`Status.Edge`). Approval is final.
-/

set_option autoImplicit false

namespace GuildRegistry

open KeyMap

namespace Status

/-- The lifecycle graph of a user's status: a first application, a decision on a pending user
(which may leave them pending), and a new application after a denial or a withdrawal. -/
inductive Edge : Option Status → Option Status → Prop
  | apply : Edge none (some .pending)
  | decide (st : Status) : Edge (some .pending) (some st)
  | reapplyDenied : Edge (some .denied) (some .pending)
  | reapplyWithdrawn : Edge (some .withdrawn) (some .pending)

/-- A status stays, or moves along an edge of the lifecycle graph. -/
def Follows (a b : Option Status) : Prop := a = b ∨ Edge a b

theorem Follows.refl (a : Option Status) : Follows a a := .inl rfl

theorem Follows.of_approved {b : Option Status} (moved : Follows (some .approved) b) : b = some .approved := by
  rcases moved with same | edge
  · exact same.symm
  · cases edge

theorem follows_pending {a : Option Status} (notApproved : a ≠ some .approved) : Follows a (some .pending) := by
  rcases a with _ | st
  · exact .inr .apply
  · cases st with
    | pending => exact .refl _
    | approved => exact absurd rfl notApproved
    | denied => exact .inr .reapplyDenied
    | withdrawn => exact .inr .reapplyWithdrawn

end Status

namespace Ledger

theorem follows_of_history {l l' : Ledger} {u : Binary64} {e : HistoryEntry}
    (written : l'.history = l.history.set u e) (moved : Status.Follows (l.status u) (some e.status))
    (k : Binary64) : Status.Follows (l.status k) (l'.status k) := by
  rw [status_of_history written]
  split
  · rename_i same
    rw [l.status_congr same]
    exact moved
  · exact .refl _

end Ledger

namespace Registry

variable {r r' : Registry} (now : Except StoreError String)

theorem follows_submit (sub : Submission) {c : Change (Except SubmitRefusal (Application × HistoryEntry))}
    (ok : r.submit now sub = .ok c) (k : Binary64) : Status.Follows (r.ledger.status k) (c.after.ledger.status k) := by
  unfold Registry.submit at ok
  dsimp only at ok
  split at ok
  · cases ok; exact .refl _
  split at ok
  · cases ok; exact .refl _
  split at ok
  · cases ok; exact .refl _
  rename_i _ _ notApproved
  cases now with
  | error e => cases ok
  | ok t =>
    cases ok
    refine Ledger.follows_of_history rfl (Status.follows_pending fun approved => notApproved ?_) k
    show (r.ledger.status sub.userId == some Status.approved) = true
    rw [approved]
    rfl

theorem follows_settle (sound : r.Sound) {u : Binary64} {e : HistoryEntry}
    (held : r.ledger.applications.contains u = true) (written : r'.ledger.history = r.ledger.history.set u e)
    (k : Binary64) : Status.Follows (r.ledger.status k) (r'.ledger.status k) := by
  refine Ledger.follows_of_history written ?_ k
  rw [sound.ledger.queued u held]
  exact .inr (.decide e.status)

theorem follows_changes {req : Request} (sound : r.Sound)
    (reviewed : ∀ u st d, req = .recordDecision u st d → r.isUnderReview u = true)
    (moved : req.Changes now r r') (k : Binary64) : Status.Follows (r.ledger.status k) (r'.ledger.status k) := by
  cases req with
  | addAdmin u p => obtain rfl := moved; exact .refl _
  | removeAdmin u =>
    obtain rfl := moved
    unfold Registry.removeAdmin
    dsimp only
    split <;> exact .refl _
  | submit sub => obtain ⟨c, ok, rfl⟩ := moved; exact follows_submit now sub ok k
  | withdraw u =>
    obtain ⟨c, ok, rfl⟩ := moved
    unfold Registry.withdraw at ok
    split at ok
    · cases ok; exact .refl _
    · rename_i a found
      cases now with
      | error e => cases ok
      | ok t =>
        simp only [writeHistory_ok] at ok
        cases ok
        exact follows_settle sound (contains_of_get? found) rfl k
  | pop u =>
    obtain rfl := moved
    unfold Registry.pop
    split <;> exact .refl _
  | recordDecision u st d =>
    obtain ⟨c, ok, rfl⟩ := moved
    have pending := sound.reviewed u (reviewed u st d rfl)
    unfold Registry.recordDecision at ok
    cases now with
    | error e => cases ok
    | ok t =>
      -- whether or not the application is dropped, the entry written is the decision's
      by_cases stays : (st == .pending) = true
      · simp only [stays, if_true, writeHistory_ok] at ok
        cases ok
        exact Ledger.follows_of_history rfl (pending ▸ .inr (.decide st)) k
      · simp only [stays, Bool.false_eq_true, if_false, writeHistory_ok] at ok
        cases ok
        exact Ledger.follows_of_history rfl (pending ▸ .inr (.decide st)) k
  | decide u decision d =>
    obtain ⟨c, ok, rfl⟩ := moved
    unfold Registry.decide at ok
    split at ok
    · cases ok; exact .refl _
    · rename_i a found
      cases now with
      | error e => cases ok
      | ok t =>
        simp only [writeHistory_ok] at ok
        cases ok
        exact follows_settle sound (contains_of_get? found) rfl k
  | addXp chat u amount => obtain ⟨-, rfl⟩ := moved; exact .refl _
  | addCup chat cup =>
    obtain ⟨c, ok, rfl⟩ := moved
    unfold Registry.addCup at ok
    cases now with
    | error e => cases ok
    | ok t => cases ok; exact .refl _
  | _ => exact moved.elim

theorem submit_of_approved (sound : r.Sound) {sub : Submission}
    (approved : r.ledger.status sub.userId = some .approved) :
    r.submit now sub = .ok (r.unchanged (.error .alreadyApproved)) := by
  have notQueued : r.ledger.applications.contains sub.userId = false := by
    cases held : r.ledger.applications.contains sub.userId with
    | false => rfl
    | true => rw [sound.ledger.queued _ held] at approved; cases approved
  have notReviewed : r.isUnderReview sub.userId = false := by
    cases under : r.isUnderReview sub.userId with
    | false => rfl
    | true => rw [sound.reviewed _ under] at approved; cases approved
  have refused : ((r.ledger.history.get? sub.userId).map (·.status) == some Status.approved) = true := by
    show (r.ledger.status sub.userId == some Status.approved) = true
    rw [approved]
    rfl
  unfold Registry.submit
  simp only [notQueued, notReviewed, refused, Bool.false_eq_true, if_false, if_true]
  rfl

end Registry

namespace Store

variable {f : SnapshotFile}

theorem mutate_of_unchanged {α : Type} (op : String) {change : Registry → Except StoreError (Change α)}
    {s : Store} {c : Change α} (ok : change s.registry = .ok c) (quiet : c.changed = false) :
    mutate f op change s = .ok c.result { s with registry := c.after } := by
  unfold mutate
  simp only [bind, EStateM.bind, get_run, ok, set_run, quiet, Bool.not_false, if_true]
  rfl

end Store

namespace Request

variable {f : SnapshotFile}

theorem run_submit_of_approved {s : Store} (sound : s.registry.Sound) {sub : Submission}
    (approved : s.registry.ledger.status sub.userId = some .approved) :
    (Request.submit sub).run f s = .ok (submitJson (.error .alreadyApproved)) s := by
  have refusal := s.registry.submit_of_approved (Store.now s) sound approved
  have refused := @Store.mutate_of_unchanged f _ "submitApplication" (fun r => r.submit (Store.now s) sub) s _
    refusal rfl
  simp only [Request.run, Store.submit, bind, EStateM.bind, get_run, Functor.map, EStateM.map, refused]
  rfl

end Request

namespace SnapshotFile

variable {f : SnapshotFile}

/-- The snapshot keeps every user's status as a ledger has it: it holds a sound ledger with the
same statuses, or is missing while no user has a status. -/
def Records (f : SnapshotFile) (d : Disk) (l : Ledger) : Prop :=
  (d.read? f.path = none ∧ ∀ k, l.status k = none) ∨
    ∃ l₀ : Ledger, l₀.Sound ∧ d.read? f.path = some (f.sealed l₀) ∧ ∀ k, l₀.status k = l.status k

theorem Records.transfer {d d' : Disk} {l l' : Ledger} (recorded : f.Records d l)
    (kept : d'.read? f.path = d.read? f.path) (same : ∀ k, l'.status k = l.status k) : f.Records d' l' := by
  rcases recorded with ⟨missing, none⟩ | ⟨l₀, sound, found, agree⟩
  · exact .inl ⟨kept.trans missing, fun k => (same k).trans (none k)⟩
  · exact .inr ⟨l₀, sound, kept.trans found, fun k => (agree k).trans (same k).symm⟩

theorem Records.holdsSound {d : Disk} {l : Ledger} (recorded : f.Records d l) : f.HoldsSound d := by
  intro bytes found
  rcases recorded with ⟨missing, -⟩ | ⟨l₀, sound, held, -⟩
  · rw [missing] at found
    cases found
  · rw [held, Option.some.injEq] at found
    exact ⟨l₀, sound, found.symm⟩

theorem Records.load {w w' : World} {l : Ledger} {doc : Option Document} (recorded : f.Records w.disk l)
    (noRead : FaultPoint.readFile ∉ w.disk.faultPoints) (loaded : f.load w = .ok doc w') (k : Binary64) :
    (Ledger.ofSnapshot doc).status k = l.status k := by
  rcases recorded with ⟨missing, none⟩ | ⟨l₀, sound, held, agree⟩
  · cases doc with
    | none => exact (none k).symm
    | some d =>
      obtain ⟨bytes, found, -⟩ := f.load_some loaded
      rw [missing] at found
      cases found
  · cases doc with
    | none => exact (f.load_finds_sealed noRead held loaded).elim
    | some d =>
      rw [← agree k]
      exact (f.load_restores sound.consistent held loaded).statuses k

end SnapshotFile

namespace Action

/-- An action of a run of the store's operations as the bot makes them: a call hands
identifiers binary64 can hold and records a decision only for a user under review; a failure is
planted anywhere but at reading files; and the snapshot is neither written nor removed from
outside. -/
def Reviewed (s : Store) : Action → Prop
  | .call req => req.IdsHeld ∧ ∀ u st d, req = .recordDecision u st d → s.registry.isUnderReview u = true
  | .plant p _ _ => p ≠ .readFile
  | .writeSnapshot _ => False
  | .deleteSnapshot => False
  | _ => True

end Action

namespace Store

variable {f : SnapshotFile}

/-- A store whose memory is sound, with no failure planted at reading files, and whose snapshot
keeps every user's status. -/
structure StatusesSaved (f : SnapshotFile) (s : Store) : Prop where
  sound : s.registry.Sound
  noRead : FaultPoint.readFile ∉ s.world.disk.faultPoints
  recorded : f.Records s.world.disk s.registry.ledger

theorem StatusesSaved.persists {req : Request} {s s' : Store} (saved : s.StatusesSaved f) (held : req.IdsHeld)
    (reviewed : ∀ u st d, req = .recordDecision u st d → s.registry.isUnderReview u = true)
    (framed : Framed s s') (persists : req.Persists f s s') :
    s'.StatusesSaved f ∧ ∀ k, Status.Follows (s.registry.ledger.status k) (s'.registry.ledger.status k) := by
  have sound := (Request.sound_persists held saved.sound saved.recorded.holdsSound persists).1
  have noRead : FaultPoint.readFile ∉ s'.world.disk.faultPoints := by rw [framed.2]; exact saved.noRead
  rcases persists with ⟨left, sealed | ⟨kept, xp, quiet⟩⟩ | ⟨kept, ⟨-, reread⟩ | ⟨-, doc, w, loaded, left⟩⟩
  · -- the snapshot holds the memory the call leaves
    refine ⟨⟨sound, noRead, .inr ⟨_, sound.ledger, sealed, fun _ => rfl⟩⟩, fun k => ?_⟩
    rcases left with same | moved
    · rw [same]
      exact .refl _
    · exact Registry.follows_changes _ saved.sound reviewed moved k
  · -- only the XP tables moved ahead of the snapshot
    have same : ∀ k, s'.registry.ledger.status k = s.registry.ledger.status k := fun k => by rw [quiet]; rfl
    exact ⟨⟨sound, noRead, saved.recorded.transfer kept same⟩, fun k => by rw [same k]; exact .refl _⟩
  · have same : ∀ k, s'.registry.ledger.status k = s.registry.ledger.status k := fun k => by
      rw [reread]
      exact (Ledger.agrees_reload saved.sound.ledger.consistent).statuses k
    exact ⟨⟨sound, noRead, saved.recorded.transfer kept same⟩, fun k => by rw [same k]; exact .refl _⟩
  · have same : ∀ k, s'.registry.ledger.status k = s.registry.ledger.status k := fun k => by
      rw [left]
      exact saved.recorded.load saved.noRead loaded k
    exact ⟨⟨sound, noRead, saved.recorded.transfer kept same⟩, fun k => by rw [same k]; exact .refl _⟩

theorem StatusesSaved.outside {a : Action} {s : Store} (saved : s.StatusesSaved f) (notCall : ∀ req, a ≠ .call req)
    (notWrite : ∀ c, a ≠ .writeSnapshot c) (notDelete : a ≠ .deleteSnapshot)
    (noRead : FaultPoint.readFile ∉ (stateAfter (a.run f s)).world.disk.faultPoints) :
    (stateAfter (a.run f s)).StatusesSaved f ∧
      ∀ k, Status.Follows (s.registry.ledger.status k) ((stateAfter (a.run f s)).registry.ledger.status k) := by
  have same := Action.registry_run (f := f) notCall s
  refine ⟨⟨by rw [same]; exact saved.sound, noRead, ?_⟩, fun k => by rw [same]; exact .refl _⟩
  exact saved.recorded.transfer (Action.snapshot_run notCall notWrite notDelete s) fun k => by rw [same]

theorem StatusesSaved.run {a : Action} {s : Store} (saved : s.StatusesSaved f) (allowed : Action.Reviewed s a) :
    (stateAfter (a.run f s)).StatusesSaved f ∧
      ∀ k, Status.Follows (s.registry.ledger.status k) ((stateAfter (a.run f s)).registry.ledger.status k) := by
  -- a failure planted anywhere but at reading files keeps that point free
  have noRead : FaultPoint.readFile ∉ (stateAfter (a.run f s)).world.disk.faultPoints := by
    intro planted
    rcases Action.points_run a s planted with old | ⟨times, code, rfl⟩
    · exact saved.noRead old
    · exact allowed rfl
  cases a with
  | call req =>
    obtain ⟨framed, persists⟩ := req.run_persists s
    exact saved.persists allowed.1 allowed.2 framed persists
  | writeSnapshot c => exact allowed.elim
  | deleteSnapshot => exact allowed.elim
  | _ =>
    exact saved.outside (fun _ same => by cases same) (fun _ same => by cases same) (by intro same; cases same) noRead

theorem statusesSaved_start (clock : Binary64) (staleTemp : Option String) :
    (Session.start f clock none staleTemp).StatusesSaved f := by
  refine ⟨Registry.sound_of_ledger Ledger.sound_empty, ?_, .inl ⟨?_, fun _ => rfl⟩⟩
  · cases staleTemp with
    | none => intro planted; cases planted
    | some t =>
      change FaultPoint.readFile ∉ (Disk.empty.put f.tempPath (Utf8.encode t)).faultPoints
      rw [Disk.faultPoints, Disk.faults_put]
      intro planted
      cases planted
  · cases staleTemp with
    | none => rfl
    | some t => exact Disk.read?_put_of_ne _ f.path_ne_tempPath _

end Store

namespace Session

variable {f : SnapshotFile}

/-- In a run of the store's operations from an empty store, restarts and failed calls included,
in which a decision is recorded only for a user under review: every action moves each user's
status along the lifecycle graph or leaves it, and once a user is approved, in every store the
run reaches from there they stay approved and every submission of theirs answers that they were
already approved, leaving the store as it was. -/
theorem statuses_follow_lifecycle {clock : Binary64} {staleTemp : Option String} {s : Store}
    (reached : Reaches f Action.Reviewed (start f clock none staleTemp) s) :
    (∀ a, Action.Reviewed s a → ∀ u,
      Status.Follows (s.registry.ledger.status u) ((stateAfter (a.run f s)).registry.ledger.status u)) ∧
    ∀ u, s.registry.ledger.status u = some .approved → ∀ s', Reaches f Action.Reviewed s s' →
      s'.registry.ledger.status u = some .approved ∧ ∀ sub : Submission, sub.userId = u →
        (Request.submit sub).run f s' = .ok (Request.submitJson (.error .alreadyApproved)) s' := by
  have saved : s.StatusesSaved f :=
    reached.holds (Store.statusesSaved_start clock staleTemp) fun _ _ allowed saved => (saved.run allowed).1
  refine ⟨fun a allowed => (saved.run allowed).2, fun u approved s' later => ?_⟩
  -- approval is final, so it holds along the rest of the run with the statuses saved
  have kept : s'.StatusesSaved f ∧ s'.registry.ledger.status u = some .approved := by
    refine Reaches.holds (P := fun t => t.StatusesSaved f ∧ t.registry.ledger.status u = some .approved) later
      ⟨saved, approved⟩ fun t a allowed held => ?_
    obtain ⟨next, moved⟩ := held.1.run allowed
    exact ⟨next, (held.2 ▸ moved u).of_approved⟩
  refine ⟨kept.2, fun sub same => ?_⟩
  subst same
  exact Request.run_submit_of_approved kept.1.sound kept.2

-- Checking that the literal id is on the grid unfolds `2 ^ 1074` one step at a time.
set_option maxRecDepth 20000 in
/-- A user applies, is taken off the queue for review, and is approved: the run is reviewed,
and from there on the user stays approved and is refused a new application. -/
theorem statuses_follow_lifecycle_after_approval :
    let f : SnapshotFile := ⟨"data/storage.enc", ⟨[], []⟩⟩
    let s₀ := start f 1714555800000 none none
    let s₁ := stateAfter ((Action.call (.submit ⟨1, "One", none, some "en", .text "a"⟩)).run f s₀)
    let s₂ := stateAfter ((Action.call (.pop 1)).run f s₁)
    let s := stateAfter ((Action.call (.recordDecision 1 .approved ⟨none, none⟩)).run f s₂)
    Reaches f Action.Reviewed s₀ s ∧ s.registry.ledger.status 1 = some .approved ∧
      (∀ a, Action.Reviewed s a → ∀ u,
        Status.Follows (s.registry.ledger.status u) ((stateAfter (a.run f s)).registry.ledger.status u)) ∧
      ∀ u, s.registry.ledger.status u = some .approved → ∀ s', Reaches f Action.Reviewed s s' →
        s'.registry.ledger.status u = some .approved ∧ ∀ sub : Submission, sub.userId = u →
          (Request.submit sub).run f s' = .ok (Request.submitJson (.error .alreadyApproved)) s' := by
  intro f s₀ s₁ s₂ s
  have underReview : s₂.registry.isUnderReview 1 = true := by decide +kernel
  have reached : Reaches f Action.Reviewed s₀ s :=
    .tail (.tail (.tail .refl ⟨Binary64.representable_ofNat 1, fun _ _ _ same => by cases same⟩)
      ⟨trivial, fun _ _ _ same => by cases same⟩)
      ⟨Binary64.representable_ofNat 1, fun _ _ _ same => by cases same; exact underReview⟩
  have approved : s.registry.ledger.status 1 = some .approved := by decide +kernel
  exact ⟨reached, approved, statuses_follow_lifecycle reached⟩

end Session

end GuildRegistry
