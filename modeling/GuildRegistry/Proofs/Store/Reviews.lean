import GuildRegistry.Proofs.Store.Runs

/-! Reviews and the queue.

A review takes an application off the queue, and a user under review cannot queue another, so in
every memory a session reaches no user under review has an application waiting
(`Registry.ReviewsOffQueue`, kept by every call, `Session.keeps_reviewsOffQueue`).
-/

set_option autoImplicit false

namespace GuildRegistry

namespace Binary64

theorem representable_ofNat (n : Nat) : (OfNat.ofNat n : Binary64).Representable :=
  representable_ofRatUnits false (n * unit) 1

theorem sameValueZero_eq_decide (a b : Binary64) :
    sameValueZero a b = decide (KeyMap.normalizeKey a = KeyMap.normalizeKey b) := by
  rw [Bool.eq_iff_iff, sameValueZero_iff, decide_eq_true_iff]

theorem sameValueZero_self (a : Binary64) : sameValueZero a a = true := sameValueZero_iff.mpr rfl

theorem sameValueZero_comm (a b : Binary64) : sameValueZero a b = sameValueZero b a := by
  rw [sameValueZero_eq_decide, sameValueZero_eq_decide]
  simp only [eq_comm]

theorem sameValueZero_trans {a b c : Binary64} (hab : sameValueZero a b = true) (hbc : sameValueZero b c = true) :
    sameValueZero a c = true := by
  rw [sameValueZero_iff] at *
  exact hab.trans hbc

end Binary64

namespace KeyMap

variable {α : Type}

theorem contains_congr (m : KeyMap α) {a b : Binary64} (same : Binary64.sameValueZero a b = true) :
    m.contains a = m.contains b := by
  rw [Binary64.sameValueZero_iff] at same
  simp only [contains, Binary64.sameValueZero_eq_decide, same]

theorem get?_congr (m : KeyMap α) {a b : Binary64} (same : Binary64.sameValueZero a b = true) :
    m.get? a = m.get? b := by
  rw [Binary64.sameValueZero_iff] at same
  unfold get?
  simp only [Binary64.sameValueZero_eq_decide, same]

theorem get?_set_of_other (m : KeyMap α) {k k' : Binary64} (v : α)
    (other : Binary64.sameValueZero k' k = false) : (m.set k v).get? k' = m.get? k' := by
  have apart : ∀ e : Binary64 × α, Binary64.sameValueZero e.1 k' = true →
      Binary64.sameValueZero e.1 k = false := by
    intro e same
    rw [Binary64.sameValueZero_eq_decide] at same other ⊢
    simp only [decide_eq_true_eq, decide_eq_false_iff_not] at same other ⊢
    rwa [same]
  unfold set get?
  split
  · -- replacing values keeps every key, and no entry of `k'` is replaced
    rw [List.find?_map]
    have keep : ((fun e : Binary64 × α => Binary64.sameValueZero e.1 k') ∘
        fun e => if Binary64.sameValueZero e.1 k then (e.1, v) else e) =
        fun e => Binary64.sameValueZero e.1 k' := by
      funext e
      simp only [Function.comp_apply]
      split <;> rfl
    rw [keep]
    cases found : m.entries.find? (fun e => Binary64.sameValueZero e.1 k') with
    | none => rfl
    | some e =>
      have hit := List.find?_some found
      simp only [Option.map_some, apart e hit, Bool.false_eq_true, if_false]
  · have last : Binary64.sameValueZero (normalizeKey k) k' = false := by
      rw [Binary64.sameValueZero_eq_decide] at other ⊢
      simpa [eq_comm] using other
    rw [List.find?_append, List.find?_singleton, if_neg (by simp [last]), Option.or_none]

theorem get?_set_self (m : KeyMap α) (k : Binary64) (v : α) : (m.set k v).get? k = some v := by
  unfold set get?
  split
  · rename_i present
    obtain ⟨e, found⟩ := Option.isSome_iff_exists.mp
      (List.find?_isSome.mpr (List.any_eq_true.mp present))
    have same := List.find?_some found
    -- replacing values keeps every key, so the entry found is the one found before
    have keep : ((fun e : Binary64 × α => Binary64.sameValueZero e.1 k) ∘
        fun e => if Binary64.sameValueZero e.1 k then (e.1, v) else e) =
        fun e => Binary64.sameValueZero e.1 k := by
      funext e'
      simp only [Function.comp_apply]
      split <;> rfl
    rw [List.find?_map, keep, found]
    simp [same]
  · rename_i absent
    have none : m.entries.find? (fun e => Binary64.sameValueZero e.1 k) = none := by
      rw [List.find?_eq_none]
      intro e mem hit
      exact absent (List.any_eq_true.mpr ⟨e, mem, hit⟩)
    rw [List.find?_append, none, Option.none_or, List.find?_singleton, if_pos (sameValueZero_normalizeKey k)]
    rfl

/-- Setting a key adds that key, and no other. -/
@[simp] theorem contains_set (m : KeyMap α) (k k' : Binary64) (v : α) :
    (m.set k v).contains k' = (m.contains k' || Binary64.sameValueZero k k') := by
  rw [contains_eq_any_keys, keys_set]
  cases held : m.contains k
  · rw [if_neg (by simp), List.any_append, ← contains_eq_any_keys]
    simp [Binary64.sameValueZero_eq_decide]
  · -- the key was there: setting it keeps the keys
    rw [if_pos rfl, ← contains_eq_any_keys]
    cases same : Binary64.sameValueZero k k'
    · simp
    · rw [← m.contains_congr same, held]
      simp

/-- Erasing a key drops that key, and no other. -/
@[simp] theorem contains_erase (m : KeyMap α) (k k' : Binary64) :
    (m.erase k).contains k' = (m.contains k' && !Binary64.sameValueZero k' k) := by
  simp only [erase, contains, List.any_filter, Binary64.sameValueZero_eq_decide]
  by_cases same : normalizeKey k' = normalizeKey k
  · simp only [same, decide_true, Bool.not_true, Bool.and_false]
    rw [List.any_eq_false]
    intro e _
    by_cases atK : normalizeKey e.1 = normalizeKey k <;> simp [atK]
  · simp only [same, decide_false, Bool.not_false, Bool.and_true]
    congr 1
    funext e
    by_cases atK' : normalizeKey e.1 = normalizeKey k'
    · have notK : normalizeKey e.1 ≠ normalizeKey k := by rw [atK']; exact same
      simpa [atK', notK] using same
    · simp [atK']

theorem erase_erase (m : KeyMap α) (k : Binary64) : (m.erase k).erase k = m.erase k := by
  simp only [erase, List.filter_filter, Bool.and_self]

theorem contains_of_get? {m : KeyMap α} {k : Binary64} {v : α} (found : m.get? k = some v) :
    m.contains k = true := by
  unfold get? at found
  obtain ⟨e, first, -⟩ := Option.map_eq_some_iff.mp found
  have atK := List.find?_some first
  exact List.any_eq_true.mpr ⟨e, List.mem_of_find?_eq_some first, atK⟩

theorem contains_ownIds (m : KeyMap Application) (k : Binary64) : (Ledger.ownIds m).contains k = m.contains k := by
  rw [contains_eq_any_keys, Ledger.keys_ownIds, contains_eq_any_keys]

end KeyMap

namespace Registry

open KeyMap

/-- No user under review has an application waiting. -/
def ReviewsOffQueue (r : Registry) : Prop :=
  ∀ u, r.isUnderReview u = true → r.ledger.applications.contains u = false

theorem isUnderReview_congr (r : Registry) {a b : Binary64} (same : Binary64.sameValueZero a b = true) :
    r.isUnderReview a = r.isUnderReview b := by
  simp only [isUnderReview, Binary64.sameValueZero_eq_decide, decide_eq_true_iff] at same ⊢
  rw [same]

section Kept

variable {r r' : Registry}

theorem ReviewsOffQueue.of_shrink (off : r.ReviewsOffQueue) (reviews : r'.inReview = r.inReview)
    (apps : ∀ u, r'.ledger.applications.contains u = true → r.ledger.applications.contains u = true) :
    r'.ReviewsOffQueue := by
  intro u under
  have before : r.isUnderReview u = true := by rw [isUnderReview, ← reviews]; exact under
  have free := off u before
  cases queued : r'.ledger.applications.contains u with
  | false => rfl
  | true => rw [apps u queued] at free; cases free

theorem ReviewsOffQueue.reload (c : r.ledger.Consistent) (off : r.ReviewsOffQueue) : r.reload.ReviewsOffQueue := by
  refine off.of_shrink rfl fun u queued => ?_
  have reread : r.reload.ledger.applications = Ledger.ownIds (reread r.ledger.applications) :=
    Ledger.reload_applications c
  rw [reread, contains_ownIds, (c.applications.similar_reread).contains_eq (valid_reread c.applications)] at queued
  exact queued

variable (now : Except StoreError String) (u : Binary64)

theorem ReviewsOffQueue.submit (off : r.ReviewsOffQueue) (sub : Submission)
    {c : Change (Except SubmitRefusal (Application × HistoryEntry))} (ok : r.submit now sub = .ok c) :
    c.after.ReviewsOffQueue := by
  unfold Registry.submit at ok
  dsimp only at ok
  -- a refused submission leaves the memory as it was
  split at ok
  · injection ok with ok; rw [← ok]; exact off
  split at ok
  · injection ok with ok; rw [← ok]; exact off
  rename_i _ free
  split at ok
  · injection ok with ok; rw [← ok]; exact off
  cases now with
  | error e => cases ok
  | ok t =>
    injection ok with ok
    rw [← ok]
    intro v under
    -- the new application is for a user not under review
    have notSame : Binary64.sameValueZero sub.userId v = false := by
      cases same : Binary64.sameValueZero sub.userId v with
      | false => rfl
      | true => rw [r.isUnderReview_congr same] at free; exact absurd under free
    simp [off v under, notSame]

theorem ReviewsOffQueue.withdraw (off : r.ReviewsOffQueue) {c : Change (Option HistoryEntry)}
    (ok : r.withdraw now u = .ok c) : c.after.ReviewsOffQueue := by
  unfold Registry.withdraw at ok
  split at ok
  · injection ok with ok; rw [← ok]; exact off
  · cases now with
    | error e => cases ok
    | ok t =>
      simp only [writeHistory_ok] at ok
      injection ok with ok
      rw [← ok]
      exact off.of_shrink rfl fun v queued => by simp at queued; exact queued.1

theorem ReviewsOffQueue.pop (off : r.ReviewsOffQueue) : (r.pop u).after.ReviewsOffQueue := by
  unfold Registry.pop
  split
  · exact off
  · intro v under
    change (if r.isUnderReview u = true then r.inReview else r.inReview ++ [u]).any
      (Binary64.sameValueZero · v) = true at under
    change (r.ledger.applications.erase u).contains v = false
    -- the popped user is the one new under review, and their application is gone
    have either : r.isUnderReview v = true ∨ Binary64.sameValueZero v u = true := by
      by_cases already : r.isUnderReview u = true
      · rw [if_pos already] at under
        exact .inl under
      · rw [if_neg already, List.any_append, List.any_cons, List.any_nil, Bool.or_false, Bool.or_eq_true] at under
        rcases under with old | new
        · exact .inl old
        · right
          rw [Binary64.sameValueZero_eq_decide] at new ⊢
          simpa [eq_comm] using new
    rcases either with old | new
    · simp [off v old]
    · simp [new]

theorem ReviewsOffQueue.recordDecision (off : r.ReviewsOffQueue) (status : Status) (d : DecisionDetails)
    {c : Change HistoryEntry} (ok : r.recordDecision now u status d = .ok c) : c.after.ReviewsOffQueue := by
  unfold Registry.recordDecision at ok
  cases now with
  | error e => cases ok
  | ok t =>
    simp only [writeHistory_ok] at ok
    injection ok with ok
    rw [← ok]
    intro v under
    simp only [isUnderReview, List.any_filter, List.any_eq_true, Bool.and_eq_true] at under
    obtain ⟨x, mem, -, same⟩ := under
    have before : r.isUnderReview v = true := List.any_eq_true.mpr ⟨x, mem, same⟩
    -- the applications are kept, or the decided user's is dropped
    split <;> simp [off v before]

theorem ReviewsOffQueue.decide (off : r.ReviewsOffQueue) (decision : Status) (d : DecisionDetails)
    {c : Change (Option (Application × HistoryEntry))} (ok : r.decide now u decision d = .ok c) :
    c.after.ReviewsOffQueue := by
  unfold Registry.decide at ok
  split at ok
  · injection ok with ok; rw [← ok]; exact off
  · cases now with
    | error e => cases ok
    | ok t =>
      simp only [writeHistory_ok] at ok
      injection ok with ok
      rw [← ok]
      exact off.of_shrink rfl fun v queued => by simp at queued; exact queued.1

theorem ReviewsOffQueue.addCup (off : r.ReviewsOffQueue) (chat : Binary64) (cup : NewCup) {c : Change Cup}
    (ok : r.addCup now chat cup = .ok c) : c.after.ReviewsOffQueue := by
  unfold Registry.addCup at ok
  cases now with
  | error e => cases ok
  | ok t =>
    injection ok with ok
    rw [← ok]
    exact off

theorem ReviewsOffQueue.removeAdmin (off : r.ReviewsOffQueue) : (r.removeAdmin u).after.ReviewsOffQueue := by
  unfold Registry.removeAdmin
  dsimp only
  split
  · exact off
  · exact off

theorem ReviewsOffQueue.changes {req : Request} (off : r.ReviewsOffQueue) (moved : req.Changes now r r') :
    r'.ReviewsOffQueue := by
  cases req with
  | addAdmin v p => obtain rfl := moved; exact off
  | removeAdmin v => obtain rfl := moved; exact off.removeAdmin v
  | submit sub => obtain ⟨c, ok, rfl⟩ := moved; exact off.submit now sub ok
  | withdraw v => obtain ⟨c, ok, rfl⟩ := moved; exact off.withdraw now v ok
  | pop v => obtain rfl := moved; exact off.pop v
  | recordDecision v st d => obtain ⟨c, ok, rfl⟩ := moved; exact off.recordDecision now v st d ok
  | decide v decision d => obtain ⟨c, ok, rfl⟩ := moved; exact off.decide now v decision d ok
  | addXp chat v amount => obtain ⟨-, rfl⟩ := moved; exact off
  | addCup chat cup => obtain ⟨c, ok, rfl⟩ := moved; exact off.addCup now chat cup ok
  | _ => exact moved.elim

end Kept

end Registry

namespace Session

variable {f : SnapshotFile}

theorem keeps_reviewsOffQueue :
    Keeps f Action.IdsHeld (fun s => s.registry.ledger.Consistent ∧ s.registry.ReviewsOffQueue) := by
  refine keeps_registry (Q := fun r => r.ledger.Consistent ∧ r.ReviewsOffQueue) fun req s r held kept left => ?_
  obtain ⟨c, off⟩ := kept
  refine ⟨Request.consistent_leaves c held left, ?_⟩
  rcases left with rfl | ⟨-, rfl⟩ | ⟨-, doc, w, -, rfl⟩ | moved
  · exact off
  · exact off.reload c
  · -- a load opens no review
    intro u under
    simp [Registry.isUnderReview] at under
  · exact off.changes _ moved

theorem start_reviewsOffQueue (f : SnapshotFile) (clock : Binary64) (file : Option FileContent)
    (staleTemp : Option String) :
    (start f clock file staleTemp).registry.ledger.Consistent ∧ (start f clock file staleTemp).registry.ReviewsOffQueue :=
  ⟨Ledger.consistent_empty, fun u under => by simp [start, Registry.empty, Registry.isUnderReview] at under⟩

end Session

namespace Registry

open KeyMap

theorem decide_eq_pop_recordDecision {r : Registry} (off : r.ReviewsOffQueue) {u : Binary64} {a : Application}
    (queued : r.ledger.applications.get? u = some a) (now : Except StoreError String) (decision : Status)
    (d : DecisionDetails) :
    (r.pop u).result = some a ∧
      r.decide now u decision d =
        ((r.pop u).after.recordDecision now u decision ⟨d.note, d.languageCode.or a.languageCode⟩).map
          fun c => ⟨some (a, c.result), c.after, true⟩ := by
  have held := contains_of_get? queued
  have free : r.isUnderReview u = false := by
    cases under : r.isUnderReview u with
    | false => rfl
    | true => rw [off u under] at held; cases held
  -- no review of `u` was open, so closing the one the pop opens leaves the reviews as they were
  have reviews : (r.inReview ++ [u]).filter (!Binary64.sameValueZero · u) = r.inReview := by
    rw [List.filter_append, List.filter_eq_self.mpr]
    · simp [Binary64.sameValueZero_eq_decide]
    · intro x mem
      have notSame : Binary64.sameValueZero x u = false := by
        simp only [isUnderReview, List.any_eq_false] at free
        simpa using free x mem
      simp [notSame]
  refine ⟨by simp [Registry.pop, queued], ?_⟩
  unfold Registry.decide Registry.pop Registry.recordDecision
  simp only [queued, free, Bool.false_eq_true, if_false, reviews]
  cases now with
  | error e => rfl
  | ok t =>
    -- a decision other than pending drops the application a second time, which changes nothing
    by_cases pending : (decision == .pending) = true
    · simp [pending, writeHistory_ok, Except.map]
    · simp [pending, writeHistory_ok, Except.map, erase_erase]

end Registry

/-- In every memory a session reaches, for every user with an application waiting, deciding the
application in one step is taking it off the queue and then recording the decision with the
application's language code standing in for a missing one: the same memory, reviews included,
the application the pop answers and the entry the decision writes. -/
theorem decide_eq_pop_then_record {f : SnapshotFile} {clock : Binary64} {file : Option FileContent}
    {staleTemp : Option String} {steps : List SessionStep}
    (held : ∀ st ∈ steps, ∀ a ∈ st.actions, a.IdsHeld) {u : Binary64} {a : Application}
    (queued : (Session.run f (Session.start f clock file staleTemp) steps).2.registry.ledger.applications.get? u =
      some a)
    (now : Except StoreError String) (decision : Status) (d : DecisionDetails) :
    let r := (Session.run f (Session.start f clock file staleTemp) steps).2.registry
    (r.pop u).result = some a ∧
      r.decide now u decision d =
        ((r.pop u).after.recordDecision now u decision ⟨d.note, d.languageCode.or a.languageCode⟩).map
          fun c => ⟨some (a, c.result), c.after, true⟩ := by
  have reached := (Session.keeps_reviewsOffQueue (f := f)).run held (Session.start_reviewsOffQueue f clock file staleTemp)
  exact Registry.decide_eq_pop_recordDecision reached.2 queued now decision d

-- Checking that the literal id is on the grid unfolds `2 ^ 1074` one step at a time.
set_option maxRecDepth 20000 in
/-- A user who has just applied in a fresh session: deciding in one step and in two agree. -/
theorem decide_eq_pop_then_record_after_submit :
    let f : SnapshotFile := ⟨"data/storage.enc", ⟨[], []⟩⟩
    let steps : List SessionStep := [.single (.call (.submit ⟨1, "One", none, some "en", .text "a"⟩))]
    let s := Session.start f 1714555800000 none none
    let a : Application := ⟨1, "One", none, "a", [], "2024-05-01T09:30:00.000Z", some "en"⟩
    let r := (Session.run f s steps).2.registry
    ((∀ st ∈ steps, ∀ act ∈ st.actions, act.IdsHeld) ∧ r.ledger.applications.get? 1 = some a) ∧
      (r.pop 1).result = some a ∧
      r.decide (Store.now s) 1 .approved ⟨none, none⟩ =
        ((r.pop 1).after.recordDecision (Store.now s) 1 .approved ⟨none, none.or a.languageCode⟩).map
          fun c => ⟨some (a, c.result), c.after, true⟩ := by
  intro f steps s a r
  have held : ∀ st ∈ steps, ∀ act ∈ st.actions, act.IdsHeld := by
    intro st mem act acting
    simp only [steps, List.mem_singleton] at mem
    subst mem
    simp only [SessionStep.actions, List.mem_singleton] at acting
    subst acting
    exact Binary64.representable_ofNat 1
  have queued : r.ledger.applications.get? 1 = some a := by decide +kernel
  exact ⟨⟨held, queued⟩, @decide_eq_pop_then_record f 1714555800000 none none steps held 1 a queued _ _ _⟩

/-- Once a pending decision has recorded a language code of its own, the two ways of deciding
write different entries: the one-step decision takes the application's code, the recorded
decision the entry's. -/
theorem decide_differs_from_pop_then_record :
    let f : SnapshotFile := ⟨"data/storage.enc", ⟨[], []⟩⟩
    let s := (Session.run f (Session.start f 1714555800000 none none)
      [.single (.call (.submit ⟨1, "One", none, some "en", .text "a"⟩)),
        .single (.call (.recordDecision 1 .pending ⟨none, some "de"⟩))]).2
    let r := s.registry
    ((r.decide (Store.now s) 1 .approved ⟨none, none⟩).toOption.map fun c => c.after.ledger.history.get? 1) =
        some (some ⟨.approved, "2024-05-01T09:30:00.000Z", none, some "en"⟩) ∧
      (((r.pop 1).after.recordDecision (Store.now s) 1 .approved ⟨none, none⟩).toOption.map
        fun c => c.after.ledger.history.get? 1) =
        some (some ⟨.approved, "2024-05-01T09:30:00.000Z", none, some "de"⟩) := by
  decide +kernel

end GuildRegistry
