import GuildRegistry.Store.Request

/-! Store sessions: calls on one store, with its clock and disk driven between them.

Each step answers its value or failure, the log lines written during it, and the document of the
memory after it.
-/

set_option autoImplicit false

namespace GuildRegistry

/-- Content put in the snapshot file from outside the store. -/
inductive FileContent where
  /-- A JSON value, sealed with the store's key. -/
  | document (j : Json)
  /-- A text, sealed with the store's key. -/
  | plaintext (text : String)
  /-- A text written as it is. -/
  | token (text : String)
  /-- Bytes written as they are. -/
  | raw (bytes : List UInt8)
  deriving Repr, Inhabited

def FileContent.bytes (key : Fernet.Key) : FileContent → List UInt8
  | .document j => SnapshotFile.sealText key (Json.render j)
  | .plaintext t => SnapshotFile.sealText key t
  | .token t => Utf8.encode t
  | .raw b => b

/-- One action of a session. -/
inductive Action where
  | call (r : Request)
  | setClock (t : Binary64)
  | advance (ms : Binary64)
  | plant (p : FaultPoint) (times : Binary64) (code : String)
  | writeSnapshot (c : FileContent)
  | writeTemp (text : String)
  | deleteSnapshot
  | report
  deriving Repr, Inhabited

/-- A step: one action, or a batch started all at once. -/
inductive SessionStep where
  | single (a : Action)
  | batch (actions : List Action)
  deriving Repr, Inhabited

namespace Action

def waits : Action → Bool
  | .call r => r.waits
  | _ => false

def onDisk (g : Disk → Disk) : StoreM Unit :=
  modify fun s => { s with world := { s.world with disk := g s.world.disk } }

/-- The files on disk and what the snapshot holds: its document, why it does not decrypt,
or nothing when there is no snapshot. A snapshot that decrypts to text that is not JSON
fails with the reader's message. -/
def fileReport (f : SnapshotFile) (d : Disk) : Except StoreError Json := do
  let content : Json ← match d.read? f.path with
    | none => pure .null
    | some bytes =>
      match Fernet.decrypt f.key bytes with
      | .error r => pure (.obj [("undecryptable", .str r.reason)])
      | .ok plain =>
        match Json.parseText (Utf8.decodeLossy plain) with
        | .ok j => pure j
        | .error m => throw (.notJson m)
  pure (.obj [("files", .arr (d.paths.map Json.str)), ("content", content)])

def run (f : SnapshotFile) : Action → StoreM Json
  | .call r => r.run f
  | .setClock t => do modify fun s => { s with clock := t }; pure .null
  | .advance ms => do modify fun s => { s with clock := s.clock + ms }; pure .null
  | .plant p times code => do onDisk (·.plant p times code); pure .null
  | .writeSnapshot c => do onDisk (·.put f.path (c.bytes f.key)); pure .null
  | .writeTemp text => do onDisk (·.put f.tempPath (Utf8.encode text)); pure .null
  | .deleteSnapshot => do onDisk (·.delete f.path); pure .null
  | .report => do
    match fileReport f (← get).world.disk with
    | .ok j => pure j
    | .error e => throw e

end Action

namespace Session

/-- Runs a call from a store, answering its value or failure. -/
def settle {α : Type} (op : StoreM α) (s : Store) : Except StoreError α × Store :=
  match op s with
  | .ok a s' => (.ok a, s')
  | .error e s' => (.error e, s')

/-- Runs a batch: first what runs at once, then the waiting calls in order. -/
def runBatch (f : SnapshotFile) (actions : List Action) (s : Store) :
    List (Except StoreError Json) × Store :=
  let (early, s) := actions.foldl (fun (acc : List (Option (Except StoreError Json)) × Store) a =>
    if a.waits then (acc.1 ++ [none], acc.2)
    else
      let (r, s) := settle (a.run f) acc.2
      (acc.1 ++ [some r], s)) ([], s)
  (actions.zip early).foldl (fun (acc : List (Except StoreError Json) × Store) (a, e) =>
    match e with
    | some r => (acc.1 ++ [r], acc.2)
    | none =>
      let (r, s) := settle (a.run f) acc.2
      (acc.1 ++ [r], s)) ([], s)

/-- The fields answering a value or a failure. -/
def replyFields : Except StoreError Json → List (String × Json)
  | .ok v => [("result", v)]
  | .error e =>
    let base := [("error", .str e.name), ("message", .str e.message)]
    match e with
    | .badSnapshot _ (some issues) => base ++ [("issues", .arr (issues.map Schema.Issue.toBriefJson))]
    | _ => base

/-- Runs one step, answering its reply, its log lines and the memory's document. -/
def step (f : SnapshotFile) (s : Store) (st : SessionStep) : Json × Store :=
  let s := { s with world := { s.world with log := [] } }
  let (fields, s) := match st with
    | .single a =>
      let (r, s) := settle (a.run f) s
      (replyFields r, s)
    | .batch actions =>
      let (rs, s) := runBatch f actions s
      ([("results", .arr (rs.map fun r => .obj (replyFields r)))], s)
  (.obj (fields ++ [("logs", .arr (s.world.log.map LogLine.toJson)),
    ("state", s.registry.ledger.toDocument.toJson)]), s)

/-- A store with nothing in memory, on a disk holding the given snapshot and temp file. -/
def start (f : SnapshotFile) (clock : Binary64) (file : Option FileContent)
    (staleTemp : Option String) : Store :=
  let disk := match file with
    | some c => Disk.empty.put f.path (c.bytes f.key)
    | none => Disk.empty
  let disk := match staleTemp with
    | some t => disk.put f.tempPath (Utf8.encode t)
    | none => disk
  ⟨Registry.empty, ⟨disk, []⟩, clock⟩

/-- Runs the steps in order, answering each. -/
def run (f : SnapshotFile) (s : Store) (steps : List SessionStep) : List Json × Store :=
  steps.foldl (fun (acc : List Json × Store) st =>
    let (j, s) := step f acc.2 st
    (acc.1 ++ [j], s)) ([], s)

end Session

end GuildRegistry
