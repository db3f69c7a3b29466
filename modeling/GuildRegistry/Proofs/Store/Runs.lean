import GuildRegistry.Proofs.Store.Persist

/-! Runs of a session, and what one call can do to the memory.

What a call leaves in memory is said once (`Request.run_leaves`): the memory as it was, the memory
reread after a change failed, the ledger a load read with no reviews open, or what the call's change
made of the memory at the clock's reading (`Request.Changes`). A change that returns has left its
memory, and saved it when it changed anything (`Store.mutate_ok`).
-/

set_option autoImplicit false

namespace GuildRegistry

namespace Ledger

/-- The ledger a load makes of what the snapshot holds. -/
def ofSnapshot : Option Document → Ledger
  | some d => ofDocument d
  | none => empty

end Ledger

namespace Store

variable {f : SnapshotFile}

theorem mutate_ok {α : Type} {op : String} {change : Registry → Except StoreError (Change α)}
    {s s' : Store} {a : α} (run : mutate f op change s = .ok a s') :
    ∃ c, change s.registry = .ok c ∧ a = c.result ∧
      ((c.changed = false ∧ s' = { s with registry := c.after }) ∨
        (c.changed = true ∧ ∃ w, f.save c.after.ledger.toDocument s.world = .ok () w ∧
          s' = { s with registry := c.after, world := w })) := by
  unfold mutate at run
  simp only [bind, EStateM.bind, get_run] at run
  cases changed : change s.registry with
  | error e₀ => rw [changed] at run; cases run
  | ok c =>
    rw [changed] at run
    dsimp only [EStateM.bind] at run
    simp only [set_run] at run
    refine ⟨c, rfl, ?_⟩
    by_cases saves : c.changed = true
    · simp only [saves, Bool.not_true, Bool.false_eq_true, if_false] at run
      cases saved : f.save c.after.ledger.toDocument s.world with
      | ok u w =>
        simp only [EStateM.bind, attempt_onWorld, saved] at run
        cases run
        exact ⟨rfl, .inr ⟨saves, w, rfl, rfl⟩⟩
      | error e₁ w =>
        simp only [EStateM.bind, attempt_onWorld, saved, modify_run, onWorld_run, World.record,
          throw_run] at run
        cases run
    · simp only [saves, Bool.not_false, if_true] at run
      cases run
      exact ⟨rfl, .inl ⟨by simpa using saves, rfl⟩⟩

/-- A call whose store afterwards, whether it returns or fails, is related by `R` to the store it
ran on. -/
def Lands {α : Type} (R : Store → Store → Prop) (x : StoreM α) : Prop :=
  ∀ s, R s (stateAfter (x s))

section Lands

variable {R R' : Store → Store → Prop}

theorem Lands.mono {α : Type} {x : StoreM α} (hx : Lands R x) (weaker : ∀ s s', R s s' → R' s s') : Lands R' x :=
  fun s => weaker s _ (hx s)

theorem Lands.map {α β : Type} {x : StoreM α} (hx : Lands R x) (g : α → β) : Lands R (g <$> x) := by
  intro s
  have kept := hx s
  change R s (stateAfter (EStateM.map g x s))
  unfold EStateM.map
  split <;> rename_i run <;> rw [run] at kept <;> exact kept

theorem Lands.bind_answer {α β : Type} {x : StoreM α} {k : α → StoreM β} (hx : Lands R x)
    (answers : ∀ a s, ∃ b, k a s = .ok b s) : Lands R (x >>= k) := by
  intro s
  have kept := hx s
  change R s (stateAfter (EStateM.bind x k s))
  unfold EStateM.bind
  split
  · rename_i a s₁ run
    obtain ⟨b, answered⟩ := answers a s₁
    rw [run] at kept
    rw [answered]
    exact kept
  · rename_i e s₁ run
    rw [run] at kept
    exact kept

theorem lands_get_bind {α : Type} {k : Store → StoreM α} (hk : ∀ s, Lands R (k s)) : Lands R (get >>= k) :=
  fun s => hk s s

theorem lands_throw {α : Type} (e : StoreError) (same : ∀ s, R s s) : Lands R (throw e : StoreM α) :=
  fun s => same s

theorem lands_pure {α : Type} (a : α) (same : ∀ s, R s s) : Lands R (pure a : StoreM α) :=
  fun s => same s

end Lands

/-- A call whose memory afterwards, whether it returns or fails, is related by `R` to the
store it ran on. -/
def Moves {α : Type} (R : Store → Registry → Prop) (x : StoreM α) : Prop :=
  ∀ s, R s (stateAfter (x s)).registry

section Moves

variable {R R' : Store → Registry → Prop}

theorem Moves.mono {α : Type} {x : StoreM α} (hx : Moves R x) (weaker : ∀ s r, R s r → R' s r) :
    Moves R' x :=
  Lands.mono (R := fun s s' => R s s'.registry) hx fun s s' => weaker s s'.registry

theorem Moves.map {α β : Type} {x : StoreM α} (hx : Moves R x) (g : α → β) : Moves R (g <$> x) :=
  Lands.map (R := fun s s' => R s s'.registry) hx g

theorem Moves.bind_answer {α β : Type} {x : StoreM α} {k : α → StoreM β} (hx : Moves R x)
    (answers : ∀ a s, ∃ b, k a s = .ok b s) : Moves R (x >>= k) :=
  Lands.bind_answer (R := fun s s' => R s s'.registry) hx answers

theorem moves_get_bind {α : Type} {k : Store → StoreM α} (hk : ∀ s, Moves R (k s)) : Moves R (get >>= k) :=
  lands_get_bind (R := fun s s' => R s s'.registry) hk

theorem moves_throw {α : Type} (e : StoreError) (same : ∀ s, R s s.registry) : Moves R (throw e : StoreM α) :=
  lands_throw (R := fun s s' => R s s'.registry) e same

theorem moves_pure {α : Type} (a : α) (same : ∀ s, R s s.registry) : Moves R (pure a : StoreM α) :=
  lands_pure (R := fun s s' => R s s'.registry) a same

theorem moves_mutate {α : Type} (op : String) (change : Registry → Except StoreError (Change α)) :
    Moves (fun s r => r = s.registry.reload ∨ ∃ c, change s.registry = .ok c ∧ r = c.after)
      (mutate f op change) := by
  intro s
  cases run : mutate f op change s with
  | ok a s' =>
    obtain ⟨c, hc, -, kept⟩ := mutate_ok run
    rcases kept with ⟨-, rfl⟩ | ⟨-, w, -, rfl⟩ <;> exact .inr ⟨c, hc, rfl⟩
  | error e s' => exact .inl (mutate_error run).1

theorem moves_get_mutate {α : Type} (op : String) (g : Store → Registry → Except StoreError (Change α)) :
    Moves (fun s r => r = s.registry.reload ∨ ∃ c, g s s.registry = .ok c ∧ r = c.after)
      (get >>= fun s₀ => mutate f op (g s₀)) :=
  fun s => moves_mutate op (g s) s

theorem moves_load :
    Moves (fun s r => r = s.registry ∨ ∃ doc w, f.load s.world = .ok doc w ∧ r = ⟨Ledger.ofSnapshot doc, []⟩)
      (load f) := by
  intro s
  unfold load
  simp only [bind, EStateM.bind, onWorld_run]
  cases loaded : f.load s.world with
  | ok doc w =>
    refine .inr ⟨doc, w, rfl, ?_⟩
    cases doc <;> rfl
  | error e w => exact .inl rfl

theorem moves_onWorld {α : Type} (op : WorldM α) : Moves (fun s r => r = s.registry) (onWorld op) := by
  intro s
  rw [onWorld_run]
  cases op s.world <;> rfl

end Moves

end Store

namespace Request

/-- What a call's change makes of the memory at a clock reading, when the change returns. A grant
runs its change only on an amount it takes. -/
def Changes (now : Except StoreError String) : Request → Registry → Registry → Prop
  | .addAdmin u p, r, r' => r' = (r.addAdmin u p).after
  | .removeAdmin u, r, r' => r' = (r.removeAdmin u).after
  | .submit sub, r, r' => ∃ c, r.submit now sub = .ok c ∧ r' = c.after
  | .withdraw u, r, r' => ∃ c, r.withdraw now u = .ok c ∧ r' = c.after
  | .pop u, r, r' => r' = (r.pop u).after
  | .recordDecision u st d, r, r' => ∃ c, r.recordDecision now u st d = .ok c ∧ r' = c.after
  | .decide u decision d, r, r' => ∃ c, r.decide now u decision d = .ok c ∧ r' = c.after
  | .addXp chat u amount, r, r' => xpAmountError? amount = none ∧ r' = (r.addXp chat u amount).after
  | .addCup chat c, r, r' => ∃ c', r.addCup now chat c = .ok c' ∧ r' = c'.after
  | _, _, _ => False

/-- Where a call can leave the memory of a store: as it was, reread after a change failed,
holding what a load read, or as its change made it. -/
def Leaves (f : SnapshotFile) (req : Request) (s : Store) (r : Registry) : Prop :=
  r = s.registry ∨ (req.changes = true ∧ r = s.registry.reload) ∨
    (req = .load ∧ ∃ doc w, f.load s.world = .ok doc w ∧ r = ⟨Ledger.ofSnapshot doc, []⟩) ∨
    req.Changes (Store.now s) s.registry r

variable {f : SnapshotFile}

theorem leaves_of_mutate (req : Request) (changing : req.changes = true) {α : Type}
    {g : Store → Registry → Except StoreError (Change α)}
    (made : ∀ s c, g s s.registry = .ok c → req.Changes (Store.now s) s.registry c.after) (s : Store)
    (r : Registry) (moved : r = s.registry.reload ∨ ∃ c, g s s.registry = .ok c ∧ r = c.after) :
    Leaves f req s r := by
  rcases moved with reread | ⟨c, ok, rfl⟩
  · exact .inr (.inl ⟨changing, reread⟩)
  · exact .inr (.inr (.inr (made s c ok)))

theorem run_leaves (req : Request) : Store.Moves (Leaves f req) (req.run f) := by
  unfold run
  refine Store.moves_get_bind fun _ => ?_
  have same : ∀ s, Leaves f req s s.registry := fun s => .inl rfl
  cases req with
  | load =>
    refine (Store.moves_load.bind_answer fun _ s => ⟨_, rfl⟩).mono fun s r moved => ?_
    rcases moved with kept | loaded
    · exact .inl kept
    · exact .inr (.inr (.inl ⟨rfl, loaded⟩))
  | save =>
    refine ((Store.moves_get_bind fun _ => Store.moves_onWorld _).bind_answer fun _ s => ⟨_, rfl⟩).mono ?_
    exact fun s r kept => .inl kept
  | addAdmin u p =>
    exact ((Store.moves_mutate _ _).map _).mono
      (leaves_of_mutate (.addAdmin u p) rfl (g := fun _ r => .ok (r.addAdmin u p)) fun s c ok => by cases ok; exact rfl)
  | removeAdmin u =>
    exact ((Store.moves_mutate _ _).map _).mono
      (leaves_of_mutate (.removeAdmin u) rfl (g := fun _ r => .ok (r.removeAdmin u)) fun s c ok => by cases ok; exact rfl)
  | submit sub =>
    exact ((Store.moves_get_mutate _ _).map _).mono
      (leaves_of_mutate (.submit sub) rfl (g := fun s r => r.submit (Store.now s) sub) fun s c ok => ⟨c, ok, rfl⟩)
  | withdraw u =>
    refine ((Store.moves_get_mutate _ _).bind_answer fun a s => ?_).mono
      (leaves_of_mutate (.withdraw u) rfl (g := fun s r => r.withdraw (Store.now s) u) fun s c ok => ⟨c, ok, rfl⟩)
    cases a <;> exact ⟨_, rfl⟩
  | pop u =>
    exact ((Store.moves_mutate _ _).map _).mono
      (leaves_of_mutate (.pop u) rfl (g := fun _ r => .ok (r.pop u)) fun s c ok => by cases ok; exact rfl)
  | recordDecision u status d =>
    exact ((Store.moves_get_mutate _ _).map _).mono
      (leaves_of_mutate (.recordDecision u status d) rfl (g := fun s r => r.recordDecision (Store.now s) u status d)
        fun s c ok => ⟨c, ok, rfl⟩)
  | decide u decision d =>
    refine ((Store.moves_get_mutate _ _).bind_answer fun a s => ?_).mono
      (leaves_of_mutate (.decide u decision d) rfl (g := fun s r => r.decide (Store.now s) u decision d)
        fun s c ok => ⟨c, ok, rfl⟩)
    cases a with
    | none => exact ⟨_, rfl⟩
    | some p => exact ⟨_, rfl⟩
  | addXp chat u amount =>
    refine Store.Moves.map ?_ _
    unfold Store.addXp
    -- a bad amount fails before anything runs
    split
    · exact Store.moves_throw _ same
    · rename_i fine
      exact (Store.moves_mutate _ _).mono
        (leaves_of_mutate (.addXp chat u amount) rfl (g := fun _ r => .ok (r.addXp chat u amount))
          fun s c ok => by cases ok; exact ⟨fine, rfl⟩)
  | addCup chat cup =>
    exact ((Store.moves_get_mutate _ _).map _).mono
      (leaves_of_mutate (.addCup chat cup) rfl (g := fun s r => r.addCup (Store.now s) chat cup) fun s c ok => ⟨c, ok, rfl⟩)
  | _ => exact Store.moves_pure _ same

/-- The identifiers a call hands the store are values binary64 can hold, as every number read
from JSON is. -/
def IdsHeld : Request → Prop
  | .addAdmin u _ => u.Representable
  | .recordDecision u _ _ => u.Representable
  | .submit sub => sub.userId.Representable
  | .addXp chat u _ => chat.Representable ∧ u.Representable
  | .addCup chat _ => chat.Representable
  | _ => True

theorem consistent_changes {now : Except StoreError String} {req : Request} {r r' : Registry}
    (c : r.ledger.Consistent) (held : req.IdsHeld) (moved : req.Changes now r r') : r'.ledger.Consistent := by
  cases req with
  | addAdmin u p => obtain rfl := moved; exact Registry.consistent_addAdmin u p c held
  | removeAdmin u => obtain rfl := moved; exact Registry.consistent_removeAdmin u c
  | submit sub => obtain ⟨c', ok, rfl⟩ := moved; exact Registry.consistent_submit now sub c held ok
  | withdraw u => obtain ⟨c', ok, rfl⟩ := moved; exact Registry.consistent_withdraw now u c ok
  | pop u => obtain rfl := moved; exact Registry.consistent_pop u c
  | recordDecision u st d =>
    obtain ⟨c', ok, rfl⟩ := moved
    exact Registry.consistent_recordDecision now u c held st d ok
  | decide u decision d => obtain ⟨c', ok, rfl⟩ := moved; exact Registry.consistent_decide now u c decision d ok
  | addXp chat u amount => obtain ⟨-, rfl⟩ := moved; exact Registry.consistent_addXp c held.1 held.2 amount
  | addCup chat cup => obtain ⟨c', ok, rfl⟩ := moved; exact Registry.consistent_addCup c now held cup ok
  | _ => exact moved.elim

theorem tables_changes {now : Except StoreError String} {req : Request} {r r' : Registry}
    (moved : req.Changes now r r') :
    (r'.ledger.xp = r.ledger.xp ∧ r'.ledger.cups = r.ledger.cups) ∨
      (∃ chat u amount, req = .addXp chat u amount ∧ xpAmountError? amount = none ∧
        r' = (r.addXp chat u amount).after) ∨
      (∃ chat cup c, req = .addCup chat cup ∧ r.addCup now chat cup = .ok c ∧ r' = c.after) := by
  cases req with
  | addAdmin u p => obtain rfl := moved; exact .inl ⟨rfl, rfl⟩
  | removeAdmin u => obtain rfl := moved; exact .inl (Registry.removeAdmin_tables u)
  | submit sub => obtain ⟨c, ok, rfl⟩ := moved; exact .inl (Registry.submit_tables ok)
  | withdraw u => obtain ⟨c, ok, rfl⟩ := moved; exact .inl (Registry.withdraw_tables ok)
  | pop u => obtain rfl := moved; exact .inl (Registry.pop_tables u)
  | recordDecision u st d => obtain ⟨c, ok, rfl⟩ := moved; exact .inl (Registry.recordDecision_tables ok)
  | decide u decision d => obtain ⟨c, ok, rfl⟩ := moved; exact .inl (Registry.decide_tables ok)
  | addXp chat u amount => exact .inr (.inl ⟨chat, u, amount, rfl, moved⟩)
  | addCup chat cup => obtain ⟨c, ok, rfl⟩ := moved; exact .inr (.inr ⟨chat, cup, c, rfl, ok, rfl⟩)
  | _ => exact moved.elim

theorem consistent_leaves {req : Request} {s : Store} {r : Registry} (c : s.registry.ledger.Consistent)
    (held : req.IdsHeld) (left : req.Leaves f s r) : r.ledger.Consistent := by
  rcases left with rfl | ⟨-, rfl⟩ | ⟨-, doc, w, -, rfl⟩ | moved
  · exact c
  · exact Ledger.consistent_reload c
  · cases doc with
    | some d => exact Ledger.consistent_ofDocument d
    | none => exact Ledger.consistent_empty
  · exact consistent_changes c held moved

end Request

namespace Action

variable {f : SnapshotFile}

theorem registry_run {a : Action} (notCall : ∀ req, a ≠ .call req) (s : Store) :
    (stateAfter (a.run f s)).registry = s.registry := by
  cases a with
  | call req => exact absurd rfl (notCall req)
  | report =>
    simp only [run, bind, EStateM.bind, get_run]
    cases fileReport f s.world.disk <;> rfl
  | _ => rfl

/-- The identifiers an action hands the store are values binary64 can hold. -/
def IdsHeld : Action → Prop
  | .call req => req.IdsHeld
  | _ => True

end Action

namespace SessionStep

/-- The actions a step runs. -/
def actions : SessionStep → List Action
  | .single a => [a]
  | .batch as => as

end SessionStep

namespace Session

variable {f : SnapshotFile}

theorem settle_snd {α : Type} (op : StoreM α) (s : Store) : (settle op s).2 = stateAfter (op s) := by
  unfold settle
  cases op s <;> rfl

/-- A property of stores that the allowed actions keep, whether they succeed or fail, and
that clearing the log keeps. -/
structure Keeps (f : SnapshotFile) (allowed : Action → Prop) (P : Store → Prop) : Prop where
  action : ∀ a s, allowed a → P s → P (stateAfter (a.run f s))
  clearLog : ∀ s, P s → P { s with world := { s.world with log := [] } }

variable {allowed : Action → Prop} {P : Store → Prop}

theorem foldl_keeps {β γ : Type} {xs : List γ} {g : β × Store → γ → β × Store}
    (step : ∀ acc x, x ∈ xs → P acc.2 → P (g acc x).2) {b : β} {s : Store} (start : P s) :
    P (xs.foldl g (b, s)).2 := by
  induction xs generalizing b s with
  | nil => exact start
  | cons x rest ih =>
    exact ih (fun acc y mem => step acc y (List.mem_cons_of_mem x mem)) (step (b, s) x List.mem_cons_self start)

theorem Keeps.settle (keeps : Keeps f allowed P) {a : Action} (ha : allowed a) {s : Store} (hs : P s) :
    P (settle (a.run f) s).2 := by
  rw [settle_snd]
  exact keeps.action a s ha hs

theorem Keeps.runBatch (keeps : Keeps f allowed P) {actions : List Action} (ha : ∀ a ∈ actions, allowed a)
    {s : Store} (hs : P s) : P (runBatch f actions s).2 := by
  unfold Session.runBatch
  split
  rename_i early s₁ ranEarly
  -- the actions that do not wait run first, each on the store the one before it left
  have kept₁ : P s₁ := by
    have after := congrArg Prod.snd ranEarly
    dsimp only at after
    rw [← after]
    refine foldl_keeps (fun acc a mem kept => ?_) hs
    split
    · exact kept
    · exact keeps.settle (ha a mem) kept
  refine foldl_keeps (fun acc x mem kept => ?_) kept₁
  obtain ⟨a, e⟩ := x
  have allowedA : allowed a := ha a (List.of_mem_zip mem).1
  cases e with
  | some r => exact kept
  | none => exact keeps.settle allowedA kept

theorem Keeps.step (keeps : Keeps f allowed P) {st : SessionStep} (ha : ∀ a ∈ st.actions, allowed a)
    {s : Store} (hs : P s) : P (step f s st).2 := by
  have cleared := keeps.clearLog s hs
  unfold Session.step
  cases st with
  | single a => exact keeps.settle (ha a (List.mem_singleton_self a)) cleared
  | batch actions => exact keeps.runBatch ha cleared

theorem keeps_registry {Q : Registry → Prop}
    (leaves : ∀ req s r, allowed (.call req) → Q s.registry → req.Leaves f s r → Q r) :
    Keeps f allowed (fun s => Q s.registry) where
  action a s ha hs := by
    cases a with
    | call req => exact leaves req s _ ha hs (Request.run_leaves req s)
    | _ => rw [Action.registry_run fun req same => by cases same]; exact hs
  clearLog _ hs := hs

theorem keeps_consistent : Keeps f Action.IdsHeld (fun s => s.registry.ledger.Consistent) :=
  keeps_registry (Q := fun r => r.ledger.Consistent) fun _ _ _ held c left => Request.consistent_leaves c held left

theorem Keeps.run (keeps : Keeps f allowed P) {steps : List SessionStep}
    (ha : ∀ st ∈ steps, ∀ a ∈ st.actions, allowed a) {s : Store} (hs : P s) : P (Session.run f s steps).2 := by
  unfold Session.run
  refine foldl_keeps (fun acc st mem kept => ?_) hs
  have next := keeps.step (ha st mem) kept
  revert next
  cases Session.step f acc.2 st
  exact id

end Session

end GuildRegistry
