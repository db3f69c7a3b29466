import GuildRegistry.Store.Registry
import GuildRegistry.Store.Snapshot
import GuildRegistry.Calendar.Instant

/-! The store: the registry's memory over one snapshot file.

Every change runs as "change the memory, then save". When the memory did not change, nothing is
saved. When the change itself fails, or the save fails, the memory goes back to what it was before
the call, as reread from its own document (so its maps come back in the order a load would give
them), the reviews included; a failed save is also logged with the name of the call.
-/

set_option autoImplicit false

namespace GuildRegistry

/-- A store: its memory, the world it persists to, and its clock's time value. -/
structure Store where
  registry : Registry
  world : World
  clock : Binary64
  deriving Repr, Inhabited

/-- A call on a store. A failure keeps what was done before it. -/
abbrev StoreM := EStateM StoreError Store

namespace Store

/-- Runs a call on the world. -/
def onWorld {α : Type} (op : WorldM α) : StoreM α := fun s =>
  match op s.world with
  | .ok a w => .ok a { s with world := w }
  | .error e w => .error e { s with world := w }

/-- Runs a call, answering its failure instead of raising it. -/
def attempt {α : Type} (op : StoreM α) : StoreM (Except StoreError α) := fun s =>
  match op s with
  | .ok a s' => .ok (.ok a) s'
  | .error e s' => .ok (.error e) s'

/-- The clock's reading as a timestamp. -/
def now (s : Store) : Except StoreError String :=
  match Instant.ofTimeValue? s.clock with
  | some t => .ok t.toIso
  | none => .error StoreError.invalidTime

/-- Makes a change and saves it, going back to the memory before the call on failure. -/
def mutate {α : Type} (f : SnapshotFile) (op : String) (change : Registry → Except StoreError (Change α)) :
    StoreM α := do
  let s ← get
  let before := s.registry.reload
  match change s.registry with
  | .error e =>
    set { s with registry := before }
    throw e
  | .ok c =>
    set { s with registry := c.after }
    if !c.changed then return c.result
    match ← attempt (onWorld (f.save c.after.ledger.toDocument)) with
    | .ok () => return c.result
    | .error e =>
      modify fun s => { s with registry := before }
      onWorld (World.record .error "snapshot save failed, in-memory change rolled back"
        [e.field, ("op", .str op)])
      throw e

/-- Replaces the memory with the snapshot's. -/
def load (f : SnapshotFile) : StoreM Unit := do
  let doc ← onWorld f.load
  let ledger := match doc with
    | some d => Ledger.ofDocument d
    | none => Ledger.empty
  modify fun s => { s with registry := ⟨ledger, []⟩ }
  onWorld (World.record .info "store loaded"
    [("admins", Json.ofNat ledger.admins.length), ("pending", Json.ofNat ledger.applications.size),
      ("history", Json.ofNat ledger.history.size), ("chats", Json.ofNat ledger.xp.size)])

/-- Saves the memory as it is. -/
def save (f : SnapshotFile) : StoreM Unit := do
  let s ← get
  onWorld (f.save s.registry.ledger.toDocument)

def addAdmin (f : SnapshotFile) (u : Binary64) (p : ProfileUpdate) : StoreM Bool :=
  mutate f "addAdmin" fun r => .ok (r.addAdmin u p)

def removeAdmin (f : SnapshotFile) (u : Binary64) : StoreM Bool :=
  mutate f "removeAdmin" fun r => .ok (r.removeAdmin u)

def submit (f : SnapshotFile) (sub : Submission) :
    StoreM (Except SubmitRefusal (Application × HistoryEntry)) := do
  let n := now (← get)
  mutate f "submitApplication" fun r => r.submit n sub

def withdraw (f : SnapshotFile) (u : Binary64) : StoreM (Option HistoryEntry) := do
  let n := now (← get)
  mutate f "withdrawApplication" fun r => r.withdraw n u

def pop (f : SnapshotFile) (u : Binary64) : StoreM (Option Application) :=
  mutate f "popApplication" fun r => .ok (r.pop u)

def recordDecision (f : SnapshotFile) (u : Binary64) (status : Status) (d : DecisionDetails) :
    StoreM HistoryEntry := do
  let n := now (← get)
  mutate f "recordDecision" fun r => r.recordDecision n u status d

def decide (f : SnapshotFile) (u : Binary64) (decision : Status) (d : DecisionDetails) :
    StoreM (Option (Application × HistoryEntry)) := do
  let n := now (← get)
  mutate f "decideApplication" fun r => r.decide n u decision d

/-- Adds XP; an amount that is not a safe integer at least zero fails before anything runs. -/
def addXp (f : SnapshotFile) (chat u amount : Binary64) : StoreM Binary64 :=
  match xpAmountError? amount with
  | some e => throw e
  | none => mutate f "addXp" fun r => .ok (r.addXp chat u amount)

def addCup (f : SnapshotFile) (chat : Binary64) (c : NewCup) : StoreM Cup := do
  let n := now (← get)
  mutate f "addCup" fun r => r.addCup n chat c

end Store

end GuildRegistry
