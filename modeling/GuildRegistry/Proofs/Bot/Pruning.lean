import GuildRegistry.Proofs.Bot.RateLimit
import GuildRegistry.Proofs.Number.Monotone

/-! Pruning the limiter changes no decision.

`prune` forgets the keys with no hit inside the window ending at its own reading, while `hit` counts
the hits inside the window ending at the hit's reading. While the clock does not go back, the start
of every later window is no earlier than the start at the pruning (`Binary64.lt_sub_of_le`), so a
forgotten key held no hit that a later window could count.
-/

set_option autoImplicit false

namespace GuildRegistry

namespace KeyMap

variable {α : Type}

/-- A map whose keys are pairwise different numbers. -/
def Distinct (m : KeyMap α) : Prop := m.keys.Pairwise fun a b => Binary64.sameValueZero a b = false

theorem distinct_empty : Distinct (empty : KeyMap α) := List.Pairwise.nil

theorem Distinct.set {m : KeyMap α} (distinct : m.Distinct) (k : Binary64) (v : α) : (m.set k v).Distinct := by
  unfold Distinct
  rw [keys_set]
  cases present : m.contains k
  · rw [if_neg Bool.false_ne_true]
    refine List.pairwise_append.mpr ⟨distinct, List.pairwise_singleton _ _, ?_⟩
    intro a mem b last
    rw [List.mem_singleton] at last
    subst last
    have apart : Binary64.sameValueZero a k = false := by
      rw [contains_eq_any_keys, List.any_eq_false] at present
      simpa using present a mem
    cases same : Binary64.sameValueZero a (normalizeKey k)
    · rfl
    · rw [Binary64.sameValueZero_trans same (sameValueZero_normalizeKey k)] at apart
      cases apart
  · rw [if_pos rfl]
    exact distinct

theorem Distinct.get?_filter {m : KeyMap α} (distinct : m.Distinct) (p : α → Bool) (k : Binary64) :
    (⟨m.entries.filter fun e => p e.2⟩ : KeyMap α).get? k = (m.get? k).filter p := by
  obtain ⟨entries⟩ := m
  induction entries with
  | nil => rfl
  | cons e rest ih =>
    obtain ⟨apart, distinct'⟩ := List.pairwise_cons.mp distinct
    have ih := ih distinct'
    unfold get? at ih ⊢
    dsimp only at ih ⊢
    by_cases same : Binary64.sameValueZero e.1 k
    · -- the first entry is the key's, and no later entry is
      have others : ∀ e' ∈ rest, Binary64.sameValueZero e'.1 k = false := by
        intro e' mem
        cases other : Binary64.sameValueZero e'.1 k
        · rfl
        · have := apart e'.1 (List.mem_map_of_mem mem)
          rw [Binary64.sameValueZero_trans same
            (by rw [Binary64.sameValueZero_comm]; exact other)] at this
          cases this
      have later : (rest.filter fun e => p e.2).find? (fun e => Binary64.sameValueZero e.1 k) = .none :=
        List.find?_eq_none.mpr fun e' mem => by simp [others e' (List.mem_filter.mp mem).1]
      cases passes : p e.2
      · simp [passes, same, later, Option.filter]
      · simp [passes, same, Option.filter]
    · -- the first entry is another key's: both skip it
      cases passes : p e.2 <;> simpa [List.filter_cons, List.find?_cons, passes, same] using ih

end KeyMap

namespace Bot

namespace Limiter

/-! ### A hit decides by the recent hits of its key -/

/-- What a hit decides from the recent hits of its key, and the hits the key keeps after it. -/
def verdict (burst interval now : Binary64) : List Binary64 → RateDecision × List Binary64
  | [] => (.allowed, [now])
  | oldest :: rest =>
    if Binary64.le burst (Binary64.ofNat (rest.length + 1)) then
      (.denied (oldest + interval - now), oldest :: rest)
    else (.allowed, oldest :: rest ++ [now])

theorem hit_eq_verdict (l : Limiter) (now key : Binary64) :
    l.hit now key = ((verdict l.burst l.interval now (l.recent now key)).1,
      { l with hits := l.hits.set key (verdict l.burst l.interval now (l.recent now key)).2 }) := by
  cases recent : l.recent now key with
  | nil => rw [hit_of_recent_nil recent, recent]; rfl
  | cons oldest rest =>
    rw [hit_of_recent_cons recent, recent]
    simp only [verdict, List.length_cons]
    split <;> rfl

theorem get?_prune {l : Limiter} (distinct : l.hits.Distinct) (p key : Binary64) :
    (l.prune p).hits.get? key = (l.hits.get? key).filter (·.any (Binary64.lt (p - l.interval) ·)) :=
  distinct.get?_filter (·.any (Binary64.lt (p - l.interval) ·)) key

theorem recent_eq_nil_of_le {l : Limiter} {key p now : Binary64} {ts : List Binary64}
    (held : l.hits.get? key = some ts) (outside : ts.any (Binary64.lt (p - l.interval) ·) = false)
    (earlier : Binary64.le p now = true) : l.recent now key = [] := by
  unfold recent
  rw [held, Option.getD_some, List.filter_eq_nil_iff]
  intro t mem counted
  rw [List.any_eq_false] at outside
  exact outside t mem (Binary64.lt_sub_of_le earlier l.interval t counted)

/-! ### Runs with prunings -/

/-- A call on a limiter: a hit of a key, or a pruning. -/
inductive Call where
  | hit (key : Binary64)
  | prune
  deriving DecidableEq, Repr

def Call.isHit : Call → Bool
  | .hit _ => true
  | .prune => false

@[simp] theorem Call.isHit_hit (key : Binary64) : (Call.hit key).isHit = true := rfl

@[simp] theorem Call.isHit_prune : Call.prune.isHit = false := rfl

/-- Runs calls, each at its clock reading, and gives the decisions of the hits in order. -/
def decisions (l : Limiter) : List (Binary64 × Call) → List RateDecision
  | [] => []
  | (now, .hit key) :: rest => (l.hit now key).1 :: decisions (l.hit now key).2 rest
  | (now, .prune) :: rest => decisions (l.prune now) rest

section Decisions

variable (l : Limiter) (now : Binary64) (rest : List (Binary64 × Call))

@[simp] theorem decisions_hit (key : Binary64) :
    l.decisions ((now, .hit key) :: rest) = (l.hit now key).1 :: (l.hit now key).2.decisions rest := rfl

@[simp] theorem decisions_prune : l.decisions ((now, .prune) :: rest) = (l.prune now).decisions rest := rfl

end Decisions

/-- A limiter pruned along a run against the same limiter never pruned: the same limits, keys
apart, and on every key the same hits, or none where the other holds no hit inside a window
ending at a reading still to come. -/
structure Forgets (later : Binary64 → Prop) (pruned full : Limiter) : Prop where
  interval_eq : pruned.interval = full.interval
  burst_eq : pruned.burst = full.burst
  distinct : pruned.hits.Distinct
  hits : ∀ key, pruned.hits.get? key = full.hits.get? key ∨
    (pruned.hits.get? key = none ∧ ∀ now, later now → full.recent now key = [])

theorem forgets_self {l : Limiter} (distinct : l.hits.Distinct) (later : Binary64 → Prop) :
    Forgets later l l :=
  ⟨rfl, rfl, distinct, fun _ => Or.inl rfl⟩

section Forgets

variable {later : Binary64 → Prop} {pruned full : Limiter}

theorem Forgets.recent_eq (forgets : Forgets later pruned full) {now : Binary64} (upcoming : later now)
    (key : Binary64) : pruned.recent now key = full.recent now key := by
  rcases forgets.hits key with same | ⟨gone, silent⟩
  · unfold recent
    rw [same, forgets.interval_eq]
  · rw [silent now upcoming]
    unfold recent
    rw [gone]
    rfl

theorem Forgets.hit (forgets : Forgets later pruned full) {now : Binary64} (upcoming : later now)
    (key : Binary64) :
    (pruned.hit now key).1 = (full.hit now key).1 ∧
      Forgets later (pruned.hit now key).2 (full.hit now key).2 := by
  rw [hit_eq_verdict, hit_eq_verdict, forgets.recent_eq upcoming, forgets.interval_eq, forgets.burst_eq]
  refine ⟨rfl, rfl, rfl, forgets.distinct.set _ _, ?_⟩
  intro key'
  cases other : Binary64.sameValueZero key' key
  · -- another key: both keep what they had
    simp only [KeyMap.get?_set_of_other _ _ other]
    rcases forgets.hits key' with same | ⟨gone, silent⟩
    · exact Or.inl same
    · refine Or.inr ⟨gone, fun t upcoming' => ?_⟩
      rw [recent_set_of_other _ other]
      exact silent t upcoming'
  · -- the key hit: both hold what the verdict keeps
    left
    rw [KeyMap.get?_congr _ other, KeyMap.get?_congr _ other, KeyMap.get?_set_self, KeyMap.get?_set_self]

theorem Forgets.prune (forgets : Forgets later pruned full) (p : Binary64) :
    Forgets (fun now => later now ∧ Binary64.le p now = true) (pruned.prune p) full := by
  refine ⟨forgets.interval_eq, forgets.burst_eq, ?_, fun key => ?_⟩
  · exact forgets.distinct.sublist (List.filter_sublist.map _)
  · rw [get?_prune forgets.distinct]
    rcases forgets.hits key with same | ⟨gone, silent⟩
    · rw [same]
      cases held : full.hits.get? key with
      | none => exact Or.inl rfl
      | some ts =>
        cases inside : ts.any (Binary64.lt (p - pruned.interval) ·)
        · -- every hit of the key is outside the window at the pruning, so at every later one
          rw [forgets.interval_eq] at inside
          exact Or.inr ⟨by simp [Option.filter, forgets.interval_eq, inside],
            fun now upcoming => recent_eq_nil_of_le held inside upcoming.2⟩
        · exact Or.inl (by simp [Option.filter, inside])
    · exact Or.inr ⟨by rw [gone]; rfl, fun now upcoming => silent now upcoming.1⟩

end Forgets

theorem Forgets.decisions {later : Binary64 → Prop} {pruned full : Limiter} (forgets : Forgets later pruned full)
    (calls : List (Binary64 × Call)) (ordered : (calls.map (·.1)).Pairwise fun a b => Binary64.le a b = true)
    (upcoming : ∀ c ∈ calls, later c.1) :
    pruned.decisions calls = full.decisions (calls.filter (·.2.isHit)) := by
  -- the relation is carried call by call; a pruning narrows the readings still to come
  induction calls generalizing later pruned full with
  | nil => rfl
  | cons c rest ih =>
    obtain ⟨first, ordered'⟩ := List.pairwise_cons.mp ordered
    obtain ⟨now, call⟩ := c
    cases call with
    | hit key =>
      obtain ⟨same, forgets'⟩ := forgets.hit (upcoming _ List.mem_cons_self) key
      simp only [decisions_hit, List.filter_cons, Call.isHit_hit, if_true, same]
      rw [ih forgets' ordered' fun c mem => upcoming c (List.mem_cons_of_mem _ mem)]
    | prune =>
      simp only [decisions_prune, List.filter_cons, Call.isHit_prune, Bool.false_eq_true, if_false]
      refine ih (forgets.prune now) ordered' fun c mem => ⟨upcoming c (List.mem_cons_of_mem _ mem), ?_⟩
      exact first c.1 (List.mem_map_of_mem mem)

/-- Prunings anywhere in a run whose clock readings never go back change no decision of a hit:
neither whether it is let through nor the wait a refusal names. -/
theorem prune_invisible (interval burst : Binary64) (calls : List (Binary64 × Call))
    (ordered : (calls.map (·.1)).Pairwise fun a b => Binary64.le a b = true) :
    (create interval burst).decisions calls = (create interval burst).decisions (calls.filter (·.2.isHit)) :=
  (forgets_self KeyMap.distinct_empty fun _ => True).decisions calls ordered fun _ _ => trivial

/-- Two hits of a key with a burst of one, pruned while the first is in the window and again
after it has left: the decisions are those of the two hits alone. -/
theorem prune_invisible_between_hits :
    (([0, 500, 1500, 1600] : List Binary64).Pairwise fun a b => Binary64.le a b = true) ∧
      (create 1000 1).decisions [(0, .hit 7), (500, .prune), (1500, .prune), (1600, .hit 7)] =
        (create 1000 1).decisions [(0, .hit 7), (1600, .hit 7)] :=
  ⟨by decide +kernel, prune_invisible 1000 1 _ (by decide +kernel)⟩

end Limiter

end Bot

end GuildRegistry
