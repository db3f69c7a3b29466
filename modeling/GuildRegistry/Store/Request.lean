import GuildRegistry.Store.Machine

/-! Calls on the store, answered as JSON.

A call either reads the memory, and then answers at once, or waits for the store's lock:
loading, saving and every change. An XP grant with a bad amount fails before it would
wait.
-/

set_option autoImplicit false

namespace GuildRegistry

/-- A call on the store. -/
inductive Request where
  | load
  | save
  | snapshot
  | addAdmin (u : Binary64) (p : ProfileUpdate)
  | removeAdmin (u : Binary64)
  | isAdmin (u : Binary64)
  | listAdmins
  | adminDetails
  | submit (s : Submission)
  | withdraw (u : Binary64)
  | pop (u : Binary64)
  | recordDecision (u : Binary64) (status : Status) (d : DecisionDetails)
  | decide (u : Binary64) (decision : Status) (d : DecisionDetails)
  | status (u : Binary64)
  | getApplication (u : Binary64)
  | hasApplication (u : Binary64)
  | isUnderReview (u : Binary64)
  | pending
  | statistics
  | addXp (chat u amount : Binary64)
  | leaderboard (chat limit : Binary64)
  | addCup (chat : Binary64) (c : NewCup)
  | cups (chat limit : Binary64)
  deriving Repr, Inhabited

namespace Request

/-- Whether the call waits for the lock. -/
def waits : Request → Bool
  | .load | .save | .addAdmin .. | .removeAdmin _ | .submit _ | .withdraw _ | .pop _
  | .recordDecision .. | .decide .. | .addCup .. => true
  | .addXp _ _ amount => (xpAmountError? amount).isNone
  | _ => false

def ids (xs : List Binary64) : Json := .arr (xs.map Json.num)

/-- The JSON form of a submission's outcome. -/
def submitJson : Except SubmitRefusal (Application × HistoryEntry) → Json
  | .ok (a, e) => .obj [("ok", .bool true), ("application", a.toJson), ("entry", e.toJson)]
  | .error r => .obj [("ok", .bool false), ("reason", .str r.reason)]

/-- A value's JSON form, or null. -/
def orNull {α : Type} (toJson : α → Json) : Option α → Json
  | some a => toJson a
  | none => .null

def notFound : Json := .obj [("ok", .bool false), ("reason", .str "not_found")]

/-- Runs the call and answers its JSON form. -/
def run (f : SnapshotFile) (req : Request) : StoreM Json := do
  let r := (← get).registry
  let l := r.ledger
  match req with
  | .load => do Store.load f; pure .null
  | .save => do Store.save f; pure .null
  | .snapshot => pure l.toDocument.toJson
  | .addAdmin u p => .bool <$> Store.addAdmin f u p
  | .removeAdmin u => .bool <$> Store.removeAdmin f u
  | .isAdmin u => pure (.bool (l.isAdmin u))
  | .listAdmins => pure (ids l.admins)
  | .adminDetails => pure (.arr (l.adminDetails.map AdminRecord.toJson))
  | .submit s => submitJson <$> Store.submit f s
  | .withdraw u => do
    match ← Store.withdraw f u with
    | some e => pure (.obj [("ok", .bool true), ("entry", e.toJson)])
    | none => pure notFound
  | .pop u => orNull Application.toJson <$> Store.pop f u
  | .recordDecision u st d => HistoryEntry.toJson <$> Store.recordDecision f u st d
  | .decide u st d => do
    match ← Store.decide f u st d with
    | some (a, e) => pure (.obj [("ok", .bool true), ("application", a.toJson), ("entry", e.toJson)])
    | none => pure notFound
  | .status u => pure (orNull HistoryEntry.toJson (l.history.get? u))
  | .getApplication u => pure (orNull Application.toJson (l.applications.get? u))
  | .hasApplication u => pure (.bool (l.applications.contains u))
  | .isUnderReview u => pure (.bool (r.isUnderReview u))
  | .pending => pure (.arr (l.pending.map Application.toJson))
  | .statistics => pure l.statistics.toJson
  | .addXp chat u amount => Json.num <$> Store.addXp f chat u amount
  | .leaderboard chat limit => pure (.arr ((l.leaderboard chat limit).map Standing.toJson))
  | .addCup chat c => Cup.toJson <$> Store.addCup f chat c
  | .cups chat limit => pure (.arr ((l.cupHistory chat limit).map Cup.toJson))

end Request

end GuildRegistry
