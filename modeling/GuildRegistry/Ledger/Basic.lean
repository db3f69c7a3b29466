import GuildRegistry.Ledger.KeyMap
import GuildRegistry.Guild.Document
import GuildRegistry.Number.Numeral

/-! The registry's state in memory.

The ledger holds the admin list (no identifier twice), the admins' profiles, the pending
applications, the latest history entry of every applicant, the XP table of each chat and the cups of
each chat, all keyed by number.
-/

set_option autoImplicit false

namespace GuildRegistry

/-- The registry state. -/
structure Ledger where
  admins : List Binary64
  profiles : KeyMap AdminProfile
  applications : KeyMap Application
  history : KeyMap HistoryEntry
  xp : KeyMap (KeyMap Binary64)
  cups : KeyMap (List Cup)
  deriving Repr, Inhabited

namespace Ledger

def empty : Ledger := ⟨[], .empty, .empty, .empty, .empty, .empty⟩

/-- Entries of a text-keyed table with keys read as numbers. -/
def numberKeyed {α : Type} (pairs : List (String × α)) : List (Binary64 × α) :=
  pairs.map fun (k, v) => (Binary64.ofNumeral k, v)

/-- Adds an identifier to a list unless the same number is already there. -/
def addDistinct (xs : List Binary64) (x : Binary64) : List Binary64 :=
  if xs.any (Binary64.sameValueZero · x) then xs else xs ++ [x]

/-- The entry given to a pending application that has none. -/
def pendingEntry (a : Application) : HistoryEntry := ⟨.pending, a.createdAt, none, a.languageCode⟩

/-- Gives every application without a history entry a pending one. -/
def withPendingEntries (apps : KeyMap Application) (history : KeyMap HistoryEntry) :
    KeyMap HistoryEntry :=
  apps.entries.foldl (fun h (k, a) => if h.contains k then h else h.set k (pendingEntry a)) history

/-- The ledger of a stored document. -/
def ofDocument (d : Document) : Ledger :=
  let apps := KeyMap.ofList ((numberKeyed d.applications).map fun (k, a) => (k, { a with userId := k }))
  { admins := d.admins.foldl addDistinct []
    profiles := KeyMap.ofList (numberKeyed d.adminProfiles)
    applications := apps
    history := withPendingEntries apps (KeyMap.ofList (numberKeyed d.history))
    xp := KeyMap.ofList ((numberKeyed d.xp).map fun (k, t) => (k, KeyMap.ofList (numberKeyed t)))
    cups := KeyMap.ofList (numberKeyed d.cups) }

/-- A number-keyed map as a text-keyed table in property order. -/
def textKeyed {α : Type} (m : KeyMap α) : List (String × α) :=
  PropertyOrder.ofList (m.entries.map fun (k, v) => (k.format, v))

/-- The stored document of a ledger. -/
def toDocument (l : Ledger) : Document :=
  { admins := l.admins
    adminProfiles := textKeyed l.profiles
    applications := textKeyed l.applications
    history := textKeyed l.history
    xp := textKeyed (l.xp.mapValues textKeyed)
    cups := textKeyed l.cups }

/-- The ledger as it reads back from its own document. -/
def reload (l : Ledger) : Ledger := ofDocument l.toDocument

def isAdmin (l : Ledger) (u : Binary64) : Bool := l.admins.any (Binary64.sameValueZero · u)

end Ledger

end GuildRegistry
