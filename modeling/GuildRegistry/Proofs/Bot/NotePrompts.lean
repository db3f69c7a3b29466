import GuildRegistry.Proofs.Bot.Work
import GuildRegistry.Proofs.Store.Reviews
import GuildRegistry.Proofs.Store.Leaderboard

/-! Open reviews and the decisions waiting for a note.

The store marks the users under review; the bot remembers, for each admin, at most one decision
waiting for the admin's note. `ReviewsMatch` says that the two agree: a user is under review exactly
when a waiting decision is for them, and no two waiting decisions are for one applicant.
-/

set_option autoImplicit false

namespace GuildRegistry

open Binary64 KeyMap

theorem apart_of_pairwise {β : Type} {k : β → Binary64} {l : List β}
    (apart : l.Pairwise fun p q => sameValueZero (k p) (k q) = false) {p q : β} (hp : p ∈ l) (hq : q ∈ l)
    (differ : p ≠ q) : sameValueZero (k p) (k q) = false := by
  have : Std.Symm fun p q : β => sameValueZero (k p) (k q) = false :=
    ⟨fun a b apart => by rw [sameValueZero_comm]; exact apart⟩
  exact apart.forall hp hq differ

theorem eq_of_pairwise_apart {β : Type} {k : β → Binary64} {l : List β}
    (apart : l.Pairwise fun p q => sameValueZero (k p) (k q) = false) {p q : β} (hp : p ∈ l) (hq : q ∈ l)
    (same : sameValueZero (k p) (k q) = true) : p = q := by
  by_contra differ
  rw [apart_of_pairwise apart hp hq differ] at same
  cases same

namespace KeyMap

variable {α : Type}

theorem exists_of_get? {m : KeyMap α} {k : Binary64} {v : α} (found : m.get? k = some v) :
    ∃ e ∈ m.entries, sameValueZero e.1 k = true ∧ e.2 = v := by
  unfold get? at found
  obtain ⟨e, first, rfl⟩ := Option.map_eq_some_iff.mp found
  have hit := List.find?_some first
  exact ⟨e, List.mem_of_find?_eq_some first, hit, rfl⟩

theorem apart_of_not_contains {m : KeyMap α} {k : Binary64} (absent : m.contains k = false) :
    ∀ e ∈ m.entries, sameValueZero e.1 (normalizeKey k) = false := by
  intro e mem
  have apart : sameValueZero e.1 k = false := Bool.eq_false_iff.mpr (List.any_eq_false.mp absent e mem)
  rw [sameValueZero_eq_decide, normalizeKey_normalizeKey, ← sameValueZero_eq_decide]
  exact apart

end KeyMap

namespace Registry

variable {r r' : Registry} {now : Except StoreError String}

theorem isUnderReview_of_append {u : Binary64} (reviews : r'.inReview = r.inReview ++ [u]) (v : Binary64) :
    r'.isUnderReview v = (r.isUnderReview v || sameValueZero u v) := by
  unfold isUnderReview
  rw [reviews, List.any_append, List.any_cons, List.any_nil, Bool.or_false]

theorem isUnderReview_of_filter {u : Binary64} (reviews : r'.inReview = r.inReview.filter (!sameValueZero · u))
    (v : Binary64) : r'.isUnderReview v = (r.isUnderReview v && !sameValueZero v u) := by
  unfold isUnderReview
  rw [reviews, List.any_filter, Bool.eq_iff_iff, Bool.and_eq_true, List.any_eq_true, List.any_eq_true]
  simp only [sameValueZero_eq_decide, Bool.and_eq_true, Bool.not_eq_true', decide_eq_false_iff_not,
    decide_eq_true_eq]
  constructor
  · rintro ⟨x, mem, apart, same⟩
    exact ⟨⟨x, mem, same⟩, same ▸ apart⟩
  · rintro ⟨⟨x, mem, same⟩, apart⟩
    exact ⟨x, mem, same ▸ apart, same⟩

theorem pop_inReview {u : Binary64} {a : Application} (found : r.ledger.applications.get? u = some a)
    (free : r.isUnderReview u = false) : (r.pop u).after.inReview = r.inReview ++ [u] := by
  simp [pop, found, free]

theorem recordDecision_inReview {u : Binary64} {status : Status} {d : DecisionDetails} {c : Change HistoryEntry}
    (ok : r.recordDecision now u status d = .ok c) : c.after.inReview = r.inReview.filter (!sameValueZero · u) := by
  unfold recordDecision at ok
  cases now with
  | error e => cases ok
  | ok t =>
    simp only [writeHistory_ok] at ok
    injection ok with ok
    rw [← ok]

theorem removeAdmin_inReview (u : Binary64) : (r.removeAdmin u).after.inReview = r.inReview := by
  unfold removeAdmin
  dsimp only
  split <;> rfl

theorem submit_inReview {s : Submission} {c : Change (Except SubmitRefusal (Application × HistoryEntry))}
    (ok : r.submit now s = .ok c) : c.after.inReview = r.inReview := by
  unfold submit at ok
  simp only [bind, Except.bind, pure, Except.pure] at ok
  -- each refusal answers the memory as it was, and a queued application opens no review
  split at ok
  · cases ok; rfl
  · split at ok
    · cases ok; rfl
    · split at ok
      · cases ok; rfl
      · split at ok
        · cases ok
        · cases ok; rfl

theorem withdraw_inReview {u : Binary64} {c : Change (Option HistoryEntry)} (ok : r.withdraw now u = .ok c) :
    c.after.inReview = r.inReview := by
  unfold withdraw at ok
  split at ok
  · cases ok; rfl
  · cases now with
    | error e => cases ok
    | ok t => cases ok; rfl

theorem decide_inReview {u : Binary64} {decision : Status} {d : DecisionDetails}
    {c : Change (Option (Application × HistoryEntry))} (ok : r.decide now u decision d = .ok c) :
    c.after.inReview = r.inReview := by
  unfold decide at ok
  split at ok
  · cases ok; rfl
  · cases now with
    | error e => cases ok
    | ok t => cases ok; rfl

theorem addCup_inReview {chat : Binary64} {cup : NewCup} {c : Change Cup} (ok : r.addCup now chat cup = .ok c) :
    c.after.inReview = r.inReview := by
  unfold addCup at ok
  cases now with
  | error e => cases ok
  | ok t => cases ok; rfl

end Registry

namespace Request

/-- The calls that leave the open reviews alone: all but a load, taking an application off the
queue and recording a decision. -/
def keepsReviews : Request → Bool
  | .load | .pop _ | .recordDecision .. => false
  | _ => true

theorem inReview_changes {now : Except StoreError String} {req : Request} {r r' : Registry}
    (keeps : req.keepsReviews = true) (moved : req.Changes now r r') : r'.inReview = r.inReview := by
  cases req with
  | addAdmin u p => obtain rfl := moved; rfl
  | removeAdmin u => obtain rfl := moved; exact Registry.removeAdmin_inReview u
  | submit sub => obtain ⟨c, ok, rfl⟩ := moved; exact Registry.submit_inReview ok
  | withdraw u => obtain ⟨c, ok, rfl⟩ := moved; exact Registry.withdraw_inReview ok
  | pop u => cases keeps
  | recordDecision u st d => cases keeps
  | decide u decision d => obtain ⟨c, ok, rfl⟩ := moved; exact Registry.decide_inReview ok
  | addXp chat u amount => obtain ⟨-, rfl⟩ := moved; rfl
  | addCup chat cup => obtain ⟨c, ok, rfl⟩ := moved; exact Registry.addCup_inReview ok
  | _ => exact moved.elim

end Request

/-- A store action that leaves the reviews to the bot: a call that leaves them alone and hands
the store ids binary64 holds, or an action that is no call. -/
def Action.KeepsReviews : Action → Prop
  | .call req => req.keepsReviews = true ∧ req.IdsHeld
  | _ => True

namespace Store

variable {f : SnapshotFile} {α β : Type} {R : Store → Registry → Prop}

theorem stateAfter_map (x : StoreM α) (g : α → β) (s : Store) : stateAfter ((g <$> x) s) = stateAfter (x s) := by
  change stateAfter (EStateM.map g x s) = _
  unfold EStateM.map
  split <;> rename_i run <;> rw [run] <;> rfl

theorem stateAfter_bind_answer {x : StoreM α} {k : α → StoreM β} (answers : ∀ a s, ∃ b, k a s = .ok b s)
    (s : Store) : stateAfter ((x >>= k) s) = stateAfter (x s) := by
  change stateAfter (EStateM.bind x k s) = _
  unfold EStateM.bind
  split
  · rename_i a s₁ run
    obtain ⟨b, answered⟩ := answers a s₁
    rw [run, answered]
    rfl
  · rename_i e s₁ run
    rw [run]
    rfl

theorem Moves.of_map {x : StoreM α} {g : α → β} (h : Moves R (g <$> x)) : Moves R x := by
  intro s
  have moved := h s
  rw [stateAfter_map] at moved
  exact moved

theorem Moves.of_bind_answer {x : StoreM α} {k : α → StoreM β} (h : Moves R (x >>= k))
    (answers : ∀ a s, ∃ b, k a s = .ok b s) : Moves R x := by
  intro s
  have moved := h s
  rw [stateAfter_bind_answer answers] at moved
  exact moved

/-! The operations the bot calls leave the memory where the calls running them do. -/

theorem moves_addAdmin (u : Binary64) (p : ProfileUpdate) :
    Moves (Request.Leaves f (.addAdmin u p)) (addAdmin f u p) :=
  Moves.of_map (g := Json.bool) fun s => Request.run_leaves (.addAdmin u p) s

theorem moves_removeAdmin (u : Binary64) : Moves (Request.Leaves f (.removeAdmin u)) (removeAdmin f u) :=
  Moves.of_map (g := Json.bool) fun s => Request.run_leaves (.removeAdmin u) s

theorem moves_submit (sub : Submission) : Moves (Request.Leaves f (.submit sub)) (submit f sub) :=
  Moves.of_map (g := Request.submitJson) fun s => Request.run_leaves (.submit sub) s

theorem moves_withdraw (u : Binary64) : Moves (Request.Leaves f (.withdraw u)) (withdraw f u) := by
  refine Moves.of_bind_answer (fun s => Request.run_leaves (f := f) (.withdraw u) s) fun a s => ?_
  cases a <;> exact ⟨_, rfl⟩

theorem moves_addXp (chat u amount : Binary64) :
    Moves (Request.Leaves f (.addXp chat u amount)) (addXp f chat u amount) :=
  Moves.of_map (g := Json.num) fun s => Request.run_leaves (.addXp chat u amount) s

theorem moves_addCup (chat : Binary64) (cup : NewCup) : Moves (Request.Leaves f (.addCup chat cup)) (addCup f chat cup) :=
  Moves.of_map (g := Cup.toJson) fun s => Request.run_leaves (.addCup chat cup) s

theorem pop_cases (u : Binary64) (s : Store) :
    match pop f u s with
    | .ok (some a) s' => s.registry.ledger.applications.get? u = some a ∧ s'.registry = (s.registry.pop u).after
    | .ok none s' => s'.registry = s.registry
    | .error _ s' => s'.registry = s.registry.reload := by
  cases run : pop f u s with
  | ok answer s' =>
    obtain ⟨c, made, rfl, kept⟩ := mutate_ok run
    cases made
    have after : s'.registry = (s.registry.pop u).after := by
      rcases kept with ⟨-, rfl⟩ | ⟨-, w, -, rfl⟩ <;> rfl
    cases found : s.registry.ledger.applications.get? u with
    | none =>
      have unchanged : s.registry.pop u = s.registry.unchanged none := by simp [Registry.pop, found]
      rw [unchanged] at after ⊢
      exact after
    | some a =>
      have popped : (s.registry.pop u).result = some a := by simp [Registry.pop, found]
      rw [popped]
      exact ⟨rfl, after⟩
  | error e s' => exact (mutate_error run).1

theorem recordDecision_cases (u : Binary64) (status : Status) (d : DecisionDetails) (s : Store) :
    match recordDecision f u status d s with
    | .ok _ s' => ∃ c, s.registry.recordDecision (now s) u status d = .ok c ∧ s'.registry = c.after
    | .error _ s' => s'.registry = s.registry.reload := by
  cases run : recordDecision f u status d s with
  | ok e s' =>
    have ran : mutate f "recordDecision" (fun r => r.recordDecision (now s) u status d) s = .ok e s' := run
    obtain ⟨c, made, -, kept⟩ := mutate_ok ran
    refine ⟨c, made, ?_⟩
    rcases kept with ⟨-, rfl⟩ | ⟨-, w, -, rfl⟩ <;> rfl
  | error e s' =>
    have ran : mutate f "recordDecision" (fun r => r.recordDecision (now s) u status d) s = .error e s' := run
    exact (mutate_error ran).1

end Store

namespace Bot

/-- The reviews a registry has open match the decisions waiting for a note: a user is under
review exactly when a waiting decision is for them, no admin or applicant has two waiting
decisions, and each applicant is a value binary64 holds. Beside them the registry keeps its
ledger consistent and its users under review off the queue. -/
structure ReviewsMatch (r : Registry) (prompts : KeyMap PendingDecision) : Prop where
  consistent : r.ledger.Consistent
  offQueue : r.ReviewsOffQueue
  adminsApart : prompts.entries.Pairwise fun p q => sameValueZero p.1 q.1 = false
  applicantsApart : prompts.entries.Pairwise fun p q => sameValueZero p.2.applicantId q.2.applicantId = false
  representable : ∀ p ∈ prompts.entries, p.2.applicantId.Representable
  held : ∀ u, r.isUnderReview u = true ↔ ∃ p ∈ prompts.entries, sameValueZero p.2.applicantId u = true

namespace ReviewsMatch

variable {r r' : Registry} {m : KeyMap PendingDecision}

theorem of_registry (h : ReviewsMatch r m) (reviews : r'.inReview = r.inReview) (consistent : r'.ledger.Consistent)
    (offQueue : r'.ReviewsOffQueue) : ReviewsMatch r' m where
  consistent := consistent
  offQueue := offQueue
  adminsApart := h.adminsApart
  applicantsApart := h.applicantsApart
  representable := h.representable
  held u := by
    rw [Registry.isUnderReview, reviews]
    exact h.held u

theorem of_noReviews (consistent : r.ledger.Consistent) (none : r.inReview = []) : ReviewsMatch r KeyMap.empty where
  consistent := consistent
  offQueue u under := by simp [Registry.isUnderReview, none] at under
  adminsApart := List.Pairwise.nil
  applicantsApart := List.Pairwise.nil
  representable _ mem := by cases mem
  held u := by simp [Registry.isUnderReview, none, KeyMap.empty]

theorem reload (h : ReviewsMatch r m) : ReviewsMatch r.reload m :=
  h.of_registry rfl (Ledger.consistent_reload h.consistent) (h.offQueue.reload h.consistent)

theorem leaves {f : SnapshotFile} {req : Request} {s : Store} (h : ReviewsMatch s.registry m) (held : req.IdsHeld)
    (keeps : req.keepsReviews = true) (left : req.Leaves f s r) : ReviewsMatch r m := by
  rcases left with rfl | ⟨-, rfl⟩ | ⟨rfl, -⟩ | moved
  · exact h
  · exact h.reload
  · cases keeps
  · exact h.of_registry (Request.inReview_changes keeps moved) (Request.consistent_changes h.consistent held moved)
      (h.offQueue.changes _ moved)

theorem wait (h : ReviewsMatch r m) {admin u : Binary64} {a : Application} {d : PendingDecision}
    (free : m.contains admin = false) (found : r.ledger.applications.get? u = some a) (hu : u.Representable)
    (applicant : d.applicantId = u) : ReviewsMatch (r.pop u).after (m.set admin d) := by
  -- a user with an application queued is under no review, so no waiting decision is for them
  have notUnder : r.isUnderReview u = false := by
    cases under : r.isUnderReview u with
    | false => rfl
    | true =>
      have off := h.offQueue u under
      rw [contains_of_get? found] at off
      cases off
  have others : ∀ p ∈ m.entries, sameValueZero p.2.applicantId u = false := by
    intro p mem
    cases same : sameValueZero p.2.applicantId u with
    | false => rfl
    | true =>
      have under := (h.held u).mpr ⟨p, mem, same⟩
      rw [notUnder] at under
      cases under
  have reviews := Registry.pop_inReview found notUnder
  rw [set_of_not_contains free]
  refine ⟨Registry.consistent_pop u h.consistent, h.offQueue.pop u, ?_, ?_, ?_, ?_⟩
  · exact List.pairwise_append.mpr ⟨h.adminsApart, List.pairwise_singleton _ _,
      fun p mem q added => by rw [List.mem_singleton.mp added]; exact apart_of_not_contains free p mem⟩
  · exact List.pairwise_append.mpr ⟨h.applicantsApart, List.pairwise_singleton _ _,
      fun p mem q added => by rw [List.mem_singleton.mp added, applicant]; exact others p mem⟩
  · intro p mem
    rcases List.mem_append.mp mem with old | added
    · exact h.representable p old
    · rw [List.mem_singleton.mp added, applicant]
      exact hu
  · intro v
    rw [Registry.isUnderReview_of_append reviews, Bool.or_eq_true, h.held v]
    constructor
    · rintro (⟨p, mem, same⟩ | same)
      · exact ⟨p, List.mem_append_left _ mem, same⟩
      · exact ⟨_, List.mem_append_right _ (List.mem_singleton_self _), by rw [applicant]; exact same⟩
    · rintro ⟨p, mem, same⟩
      rcases List.mem_append.mp mem with old | added
      · exact .inl ⟨p, old, same⟩
      · rw [List.mem_singleton.mp added, applicant] at same
        exact .inr same

theorem take (h : ReviewsMatch r m) {admin : Binary64} {d : PendingDecision} (found : m.get? admin = some d) :
    (m.erase admin).contains admin = false ∧ ReviewsMatch r ((m.erase admin).set admin d) := by
  have gone : (m.erase admin).contains admin = false := by simp [sameValueZero_self]
  obtain ⟨e, mem, key, rfl⟩ := exists_of_get? found
  -- the admin's entry is the only one with the admin's key
  have unique : ∀ p ∈ m.entries, sameValueZero p.1 admin = true → p = e := fun p held same =>
    eq_of_pairwise_apart h.adminsApart held mem (sameValueZero_trans same (by rw [sameValueZero_comm]; exact key))
  have kept : ∀ p ∈ (m.erase admin).entries, p ∈ m.entries ∧ sameValueZero p.1 admin = false := by
    intro p held
    have filtered := List.mem_filter.mp held
    exact ⟨filtered.1, by simpa using filtered.2⟩
  refine ⟨gone, ?_⟩
  rw [set_of_not_contains gone]
  refine ⟨h.consistent, h.offQueue, ?_, ?_, ?_, ?_⟩
  · exact List.pairwise_append.mpr ⟨h.adminsApart.sublist List.filter_sublist, List.pairwise_singleton _ _,
      fun p held q added => by rw [List.mem_singleton.mp added]; exact apart_of_not_contains gone p held⟩
  · refine List.pairwise_append.mpr ⟨h.applicantsApart.sublist List.filter_sublist, List.pairwise_singleton _ _, ?_⟩
    intro p held q added
    rw [List.mem_singleton.mp added]
    obtain ⟨old, apart⟩ := kept p held
    -- an entry left is another admin's, so its applicant is another
    have other : p ≠ e := by
      rintro rfl
      rw [key] at apart
      cases apart
    have differs := apart_of_pairwise h.applicantsApart old mem other
    exact differs
  · intro p held
    rcases List.mem_append.mp held with old | added
    · exact h.representable p (kept p old).1
    · rw [List.mem_singleton.mp added]
      exact h.representable e mem
  · intro v
    rw [h.held v]
    constructor
    · rintro ⟨p, held, same⟩
      by_cases atAdmin : sameValueZero p.1 admin = true
      · rw [unique p held atAdmin] at same
        exact ⟨_, List.mem_append_right _ (List.mem_singleton_self _), same⟩
      · exact ⟨p, List.mem_append_left _ (List.mem_filter.mpr ⟨held, by simpa using atAdmin⟩), same⟩
    · rintro ⟨p, held, same⟩
      rcases List.mem_append.mp held with old | added
      · exact ⟨p, (kept p old).1, same⟩
      · rw [List.mem_singleton.mp added] at same
        exact ⟨e, mem, same⟩

theorem close {admin : Binary64} {d : PendingDecision} (h : ReviewsMatch r (m.set admin d))
    (free : m.contains admin = false) {now : Except StoreError String} {status : Status} {details : DecisionDetails}
    {c : Change HistoryEntry} (ok : r.recordDecision now d.applicantId status details = .ok c) :
    ReviewsMatch c.after m := by
  rw [set_of_not_contains free] at h
  have hd : d.applicantId.Representable := h.representable _ (List.mem_append_right _ (List.mem_singleton_self _))
  -- no other waiting decision is for the decided applicant
  have others : ∀ p ∈ m.entries, sameValueZero p.2.applicantId d.applicantId = false := fun p mem =>
    (List.pairwise_append.mp h.applicantsApart).2.2 p mem _ (List.mem_singleton_self _)
  refine ⟨Registry.consistent_recordDecision now d.applicantId h.consistent hd status details ok,
    h.offQueue.recordDecision now d.applicantId status details ok, (List.pairwise_append.mp h.adminsApart).1,
    (List.pairwise_append.mp h.applicantsApart).1, fun p mem => h.representable p (List.mem_append_left _ mem),
    fun v => ?_⟩
  rw [Registry.isUnderReview_of_filter (Registry.recordDecision_inReview ok), Bool.and_eq_true, h.held v,
    Bool.not_eq_true']
  constructor
  · rintro ⟨⟨p, mem, same⟩, apart⟩
    rcases List.mem_append.mp mem with old | added
    · exact ⟨p, old, same⟩
    · rw [List.mem_singleton.mp added, sameValueZero_comm] at same
      rw [same] at apart
      cases apart
  · rintro ⟨p, mem, same⟩
    refine ⟨⟨p, List.mem_append_left _ mem, same⟩, ?_⟩
    cases decided : sameValueZero v d.applicantId with
    | false => rfl
    | true =>
      have apart := others p mem
      rw [sameValueZero_trans same decided] at apart
      cases apart

theorem action {f : SnapshotFile} {a : Action} (allowed : a.KeepsReviews) {s : Store}
    {m : KeyMap PendingDecision} (h : ReviewsMatch s.registry m) : ReviewsMatch (stateAfter (a.run f s)).registry m := by
  cases a with
  | call req => exact h.leaves allowed.2 allowed.1 (Request.run_leaves req s)
  | _ =>
    rw [Action.registry_run fun req same => by cases same]
    exact h

end ReviewsMatch

end Bot

end GuildRegistry
