import GuildRegistry.Store.Failure
import GuildRegistry.Cipher.Fernet
import GuildRegistry.Guild.Document
import GuildRegistry.Json.Reader
import GuildRegistry.Json.Writer
import GuildRegistry.Text.Utf8

/-! The encrypted snapshot file.

The registry is kept as one Fernet token holding the JSON text of its document.
-/

set_option autoImplicit false

namespace GuildRegistry

/-- What a store call affects besides its memory: the disk, and the log lines written. -/
structure World where
  disk : Disk
  log : List LogLine
  deriving Repr, Inhabited

/-- A call on the world: it changes the disk and the log, and may fail. A failure keeps
what was done before it. -/
abbrev WorldM := EStateM StoreError World

namespace World

/-- Writes a log line. -/
def record (level : LogLevel) (message : String) (fields : List (String × Json)) : WorldM Unit :=
  modify fun w => { w with log := w.log ++ [⟨level, message, fields⟩] }

/-- Runs a filesystem call, answering its failure instead of raising it. -/
def attempt {α : Type} (op : DiskM α) : WorldM (Except IoError α) := fun w =>
  match op w.disk with
  | .ok a d => .ok (.ok a) { w with disk := d }
  | .error e d => .ok (.error e) { w with disk := d }

/-- Runs a filesystem call, raising its failure as the given store failure. -/
def call {α : Type} (wrap : IoError → StoreError) (op : DiskM α) : WorldM α := do
  match ← attempt op with
  | .ok a => pure a
  | .error e => throw (wrap e)

end World

/-- Opens a directory, syncs it and closes it. The close is made even when the sync fails,
and a failure of the close then replaces that of the sync. -/
def syncDirectoryCalls : DiskM Unit := do
  Disk.openRead
  let synced : Option IoError ← tryCatch (do Disk.directorySync; pure none) (fun e => pure (some e))
  Disk.directoryClose
  match synced with
  | some e => throw e
  | none => pure ()

/-- Where a snapshot is kept, and the key it is sealed with. -/
structure SnapshotFile where
  path : String
  key : Fernet.Key

namespace SnapshotFile

/-- The file a save writes before renaming it over the snapshot. -/
def tempPath (f : SnapshotFile) : String := f.path ++ ".tmp"

/-- The bytes of a token sealing a text. Nothing reads a token's time field or initial
vector back, so tokens carry the epoch and a zero vector. -/
def sealText (key : Fernet.Key) (text : String) : List UInt8 :=
  Utf8.encode (Fernet.encrypt key 0 (List.replicate 16 0) (Utf8.encode text))

/-- The document held by a snapshot's bytes, or why there is none. -/
def readBytes (f : SnapshotFile) (bytes : List UInt8) : Except StoreError Document :=
  match Fernet.decrypt f.key bytes with
  | .error r => .error (.decryption
      ("Failed to decrypt " ++ f.path ++ " (" ++ r.reason ++ "). Check the secret key."))
  | .ok plain =>
    match Json.parse? (Utf8.decodeLossy plain) with
    | none => .error (.badSnapshot ("Snapshot " ++ f.path ++ " is not valid JSON") none)
    | some j =>
      if Document.raises j then .error (.typeError Json.unconvertible)
      else match Document.check j with
      | .ok d => .ok d
      | .error issues =>
        .error (.badSnapshot ("Snapshot " ++ f.path ++ " has an unexpected shape") (some issues))

/-- Removes a temp file left by an interrupted save, saying so in the log. -/
def removeStaleTemp (f : SnapshotFile) : WorldM Unit := do
  match ← World.attempt (Disk.inspect f.tempPath) with
  | .error e =>
    if e.isMissing then pure ()
    else throw (.persistence ("Failed to inspect " ++ f.tempPath) e)
  | .ok () =>
    World.record .warn "removing temp snapshot left by an interrupted save" [("path", .str f.tempPath)]
    World.call .io (Disk.remove f.tempPath)

/-- Reads the snapshot: no document when there is no file yet or it is empty. -/
def load (f : SnapshotFile) : WorldM (Option Document) := do
  World.call .io Disk.makeDirectory
  f.removeStaleTemp
  match ← World.attempt (Disk.readFile f.path) with
  | .error e =>
    if e.isMissing then
      World.record .info "no snapshot yet, starting empty" [("path", .str f.path)]
      pure none
    else throw (.persistence ("Failed to read snapshot " ++ f.path) e)
  | .ok [] => pure none
  | .ok bytes =>
    match f.readBytes bytes with
    | .ok d => pure (some d)
    | .error e => throw e

/-- Writes the temp file and renames it over the snapshot. On a failure, answers the error
of the call that failed and whether the temp file is still open. -/
def writeTemp (f : SnapshotFile) (bytes : List UInt8) : WorldM (Option (IoError × Bool)) := do
  match ← World.attempt (Disk.openWrite f.tempPath) with
  | .error e => pure (some (e, false))
  | .ok () =>
    match ← World.attempt (do Disk.write f.tempPath bytes; Disk.sync; Disk.close) with
    | .error e => pure (some (e, true))
    | .ok () =>
      match ← World.attempt (Disk.rename f.tempPath f.path) with
      | .error e => pure (some (e, false))
      | .ok () => pure none

/-- Closes a temp file still open and removes it; failures here are only logged. -/
def discardTemp (f : SnapshotFile) (stillOpen : Bool) : WorldM Unit := do
  if stillOpen then
    match ← World.attempt Disk.close with
    | .error e =>
      World.record .warn "closing temp snapshot failed" [(StoreError.io e).field, ("path", .str f.tempPath)]
    | .ok () => pure ()
  match ← World.attempt (Disk.remove f.tempPath) with
  | .error e =>
    World.record .error "removing temp snapshot failed" [(StoreError.io e).field, ("path", .str f.tempPath)]
  | .ok () => pure ()

/-- Makes the rename durable; a failure is only logged. -/
def syncDirectory (f : SnapshotFile) : WorldM Unit := do
  match ← World.attempt syncDirectoryCalls with
  | .error e =>
    World.record .warn "directory fsync failed after snapshot rename"
      [(StoreError.io e).field, ("path", .str f.path)]
  | .ok () => pure ()

/-- Writes a document as the new snapshot. -/
def save (f : SnapshotFile) (d : Document) : WorldM Unit := do
  let token := sealText f.key (Json.render d.toJson)
  World.call (.persistence ("Failed to create directory for " ++ f.path)) Disk.makeDirectory
  match ← f.writeTemp token with
  | some (cause, stillOpen) =>
    f.discardTemp stillOpen
    throw (.persistence ("Failed to write snapshot " ++ f.path) cause)
  | none =>
    f.syncDirectory
    World.record .debug "snapshot saved" [("path", .str f.path), ("bytes", Json.ofNat token.length)]

end SnapshotFile

end GuildRegistry
