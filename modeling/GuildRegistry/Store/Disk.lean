import GuildRegistry.Number.Binary64

/-! A filesystem held in memory, where failures can be planted at named calls.

Files are byte contents under paths. Directories are not kept, since the store only ever asks for
one to exist and then lists files. A planted failure makes the next calls at its point fail with its
error code while its count is above zero, each failing call taking one off the count: a count of 1.5
fails two calls, and an infinite one fails every call. A failing call changes no file.
-/

set_option autoImplicit false

namespace GuildRegistry

/-- The filesystem calls that a failure can be planted at. -/
inductive FaultPoint where
  | makeDirectory
  | inspect
  | readFile
  | remove
  | rename
  | openWrite
  | write
  | sync
  | close
  | openRead
  | directorySync
  | directoryClose
  deriving DecidableEq, Repr, Inhabited

namespace FaultPoint

def all : List FaultPoint :=
  [.makeDirectory, .inspect, .readFile, .remove, .rename, .openWrite, .write, .sync, .close,
    .openRead, .directorySync, .directoryClose]

/-- The point's name in failure messages. -/
def name : FaultPoint → String
  | .makeDirectory => "mkdir"
  | .inspect => "stat"
  | .readFile => "readFile"
  | .remove => "rm"
  | .rename => "rename"
  | .openWrite => "open_w"
  | .write => "write"
  | .sync => "sync"
  | .close => "close"
  | .openRead => "open_r"
  | .directorySync => "dir_sync"
  | .directoryClose => "dir_close"

def ofName? (s : String) : Option FaultPoint := all.find? (·.name == s)

end FaultPoint

/-- The error of a failed filesystem call: a code such as `ENOENT` and a message. -/
structure IoError where
  code : String
  message : String
  deriving DecidableEq, Repr, Inhabited

namespace IoError

/-- The error of a planted failure. -/
def planted (code : String) (p : FaultPoint) : IoError :=
  ⟨code, code ++ ": injected " ++ p.name ++ " failure"⟩

/-- The error of a call on a file that does not exist. -/
def missing (path : String) : IoError :=
  ⟨"ENOENT", "ENOENT: no such file or directory, " ++ path⟩

def isMissing (e : IoError) : Bool := e.code == "ENOENT"

end IoError

/-- A planted failure: the calls at `point` fail with `code` while `remaining` is above
zero. -/
structure Fault where
  point : FaultPoint
  remaining : Binary64
  code : String
  deriving Repr, Inhabited

/-- The files and the planted failures. -/
structure Disk where
  files : List (String × List UInt8)
  faults : List Fault
  deriving Repr, Inhabited

/-- A filesystem call: it changes the disk, and may fail with an `IoError`. -/
abbrev DiskM := EStateM IoError Disk

namespace Disk

def empty : Disk := ⟨[], []⟩

def read? (d : Disk) (path : String) : Option (List UInt8) :=
  (d.files.find? (·.1 == path)).map (·.2)

/-- Writes a file, in place when it exists. -/
def put (d : Disk) (path : String) (bytes : List UInt8) : Disk :=
  if d.files.any (·.1 == path) then
    { d with files := d.files.map fun f => if f.1 == path then (path, bytes) else f }
  else { d with files := d.files ++ [(path, bytes)] }

def delete (d : Disk) (path : String) : Disk := { d with files := d.files.filter (·.1 != path) }

/-- The paths of all files, in code point order. -/
def paths (d : Disk) : List String := (d.files.map (·.1)).mergeSort (fun a b => decide (a ≤ b))

/-- Plants a failure for the next `times` calls at a point, replacing one planted there. -/
def plant (d : Disk) (p : FaultPoint) (times : Binary64) (code : String) : Disk :=
  { d with faults := d.faults.filter (·.point != p) ++ [⟨p, times, code⟩] }

/-- The error planted for the next call at a point, if any is left. -/
def planted? (d : Disk) (p : FaultPoint) : Option IoError :=
  match d.faults.find? (fun f => f.point == p && Binary64.lt 0 f.remaining) with
  | some f => some (IoError.planted f.code p)
  | none => none

/-- Uses up one planted failure at a point. -/
def useFault (d : Disk) (p : FaultPoint) : Disk :=
  { d with faults := d.faults.map fun f =>
      if f.point == p then { f with remaining := Binary64.sub f.remaining 1 } else f }

/-- Makes a call at a point: fails if a failure is planted there, using it up. -/
def enter (p : FaultPoint) : DiskM Unit := fun d =>
  match d.planted? p with
  | some e => .error e (d.useFault p)
  | none => .ok () d

def makeDirectory : DiskM Unit := enter .makeDirectory

/-- Succeeds when the file exists. -/
def inspect (path : String) : DiskM Unit := do
  enter .inspect
  match (← get).read? path with
  | some _ => pure ()
  | none => throw (IoError.missing path)

def readFile (path : String) : DiskM (List UInt8) := do
  enter .readFile
  match (← get).read? path with
  | some bytes => pure bytes
  | none => throw (IoError.missing path)

/-- Removes a file; a missing file is not an error. -/
def remove (path : String) : DiskM Unit := do
  enter .remove
  modify (·.delete path)

/-- Moves a file over another. -/
def rename (source target : String) : DiskM Unit := do
  enter .rename
  match (← get).read? source with
  | some bytes => modify fun d => (d.delete source).put target bytes
  | none => throw (IoError.missing source)

/-- Opens a file for writing, which creates it empty. -/
def openWrite (path : String) : DiskM Unit := do
  enter .openWrite
  modify (·.put path [])

/-- Writes the whole content of a file opened for writing. -/
def write (path : String) (bytes : List UInt8) : DiskM Unit := do
  enter .write
  modify (·.put path bytes)

def sync : DiskM Unit := enter .sync
def close : DiskM Unit := enter .close
def openRead : DiskM Unit := enter .openRead
def directorySync : DiskM Unit := enter .directorySync
def directoryClose : DiskM Unit := enter .directoryClose

end Disk

end GuildRegistry
