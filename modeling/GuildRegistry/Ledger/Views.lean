import GuildRegistry.Ledger.Basic
import GuildRegistry.Text.Units
import GuildRegistry.Order.TimSort

/-! What the ledger shows: admin details, the review queue, XP leaderboards, cup

histories and application statistics.
-/

set_option autoImplicit false

namespace GuildRegistry

/-- An admin with the profile known for them. -/
structure AdminRecord where
  userId : Binary64
  profile : AdminProfile
  deriving DecidableEq, Repr

def AdminRecord.toJson (r : AdminRecord) : Json :=
  .obj [("user_id", .num r.userId), ("username", Json.ofOption r.profile.username),
    ("full_name", Json.ofOption r.profile.fullName)]

/-- A score in a chat's XP table. -/
structure Standing where
  userId : Binary64
  score : Binary64
  deriving DecidableEq, Repr, Inhabited

def Standing.toJson (s : Standing) : Json := .obj [("user_id", .num s.userId), ("score", .num s.score)]

/-- A language's tally. The tallies are kept in a plain record, where a missing key reads
as the member every record inherits under that name, if any, and one more than a text is
the text followed by the digit 1. So most tallies are counts, but a language named like an
inherited method starts from the text of that method. -/
inductive Tally where
  | count (n : Nat)
  | text (s : String)
  deriving DecidableEq, Repr

def Tally.toJson : Tally → Json
  | .count n => Json.ofNat n
  | .text s => .str s

/-- One more than a tally, or than nothing at all. -/
def Tally.bump : Option Tally → Tally
  | none => .count 1
  | some (.count n) => .count (n + 1)
  | some (.text s) => .text (s ++ "1")

/-- The methods every plain record inherits, besides its constructor. -/
def inheritedMethods : List String :=
  ["__defineGetter__", "__defineSetter__", "hasOwnProperty", "__lookupGetter__",
    "__lookupSetter__", "isPrototypeOf", "propertyIsEnumerable", "toString", "valueOf",
    "toLocaleString"]

/-- The text of the member a plain record inherits under a key: its constructor, one of its
methods, or its prototype. -/
def inheritedText? (key : String) : Option String :=
  if key = "constructor" then some "function Object() \x7b [native code] \x7d"
  else if key = "__proto__" then some "[object Object]"
  else if inheritedMethods.contains key then some ("function " ++ key ++ "() \x7b [native code] \x7d")
  else none

/-- Counts one more of a key in a plain record of tallies. The key starts from what the
record inherits under it; the prototype key takes no text, so it never becomes a key of
its own. -/
def tallyKey (acc : List (String × Tally)) (key : String) : List (String × Tally) :=
  if key = "__proto__" then acc
  else
    let current := match PropertyOrder.get? acc key with
      | some t => some t
      | none => (inheritedText? key).map Tally.text
    PropertyOrder.set acc key (Tally.bump current)

/-- Counts of applications and their latest decisions. -/
structure Statistics where
  total : Nat
  pendingCount : Nat
  statusCounts : List (Status × Nat)
  languageCounts : List (String × Tally)
  averageAnswerLength : Binary64
  recentUpdates : List (Binary64 × HistoryEntry)
  deriving Repr

def Statistics.toJson (s : Statistics) : Json :=
  .obj [("total", Json.ofNat s.total), ("pending_count", Json.ofNat s.pendingCount),
    ("status_counts", .obj (s.statusCounts.map fun (st, n) => (st.text, Json.ofNat n))),
    ("language_counts", .obj (s.languageCounts.map fun (l, n) => (l, n.toJson))),
    ("average_answer_length", .num s.averageAnswerLength),
    ("most_recent_updates", .arr (s.recentUpdates.map fun (u, e) =>
      .obj ([("user_id", .num u)] ++ e.fields)))]

/-- The first items allowed by a limit: none unless it is above zero, all when it is
infinite, else as many as its whole part. -/
def takeLimit {α : Type} (limit : Binary64) (items : List α) : List α :=
  if !Binary64.lt 0 limit then []
  else match limit.floor with
    | .finite _ u => items.take (u / Binary64.unit)
    | _ => items

/-- A sort key comparison read as "may come first": a result that is not above zero. -/
def comesFirst (cmp : Binary64) : Bool := !Binary64.lt 0 cmp

/-- The first of two differences that is neither zero nor NaN, else the second. -/
def orElse (first second : Binary64) : Binary64 :=
  if first.isNaN || Binary64.eq first 0 then second else first

/-- How two scores compare: the difference of the scores, highest first, or when that is
zero or NaN the difference of the identifiers, lowest first. -/
def Standing.compare (a b : Standing) : Binary64 := orElse (b.score - a.score) (a.userId - b.userId)

namespace Ledger

def adminDetails (l : Ledger) : List AdminRecord :=
  l.admins.map fun u => ⟨u, (l.profiles.get? u).getD AdminProfile.blank⟩

/-- Pending applications, oldest first; unrecognised creation times come first. -/
def pending (l : Ledger) : List Application :=
  l.applications.values.mergeSort fun a b => Timestamp.compareNewest a.createdAt b.createdAt ≥ 0

/-- The scores of a chat, highest first, ties by lower identifier. Without NaN among the
identifiers and scores the comparison is a total order, and every stable sort gives the
same list. A NaN makes its differences NaN, which count as ties, so the comparison is no
order at all, and the list is the one the run-merging sort makes of it. -/
def leaderboard (l : Ledger) (chat : Binary64) (limit : Binary64) : List Standing :=
  match l.xp.get? chat with
  | none => []
  | some scores =>
    let rows := scores.entries.map fun (u, s) => (⟨u, s⟩ : Standing)
    if rows.all fun r => !r.userId.isNaN && !r.score.isNaN then
      takeLimit limit (rows.mergeSort fun a b => comesFirst (a.compare b))
    else
      takeLimit limit (TimSort.sort (fun a b => Binary64.lt (a.compare b) 0) rows)

/-- The cups of a chat, newest first; cups of the same time latest added first. -/
def cupHistory (l : Ledger) (chat : Binary64) (limit : Binary64) : List Cup :=
  let cups := (l.cups.get? chat).getD []
  let indexed := cups.zipIdx
  let sorted := indexed.mergeSort fun (a, i) (b, j) =>
    let c := Timestamp.compareNewest a.createdAt b.createdAt
    if c ≠ 0 then c < 0 else j ≤ i
  takeLimit limit (sorted.map (·.1))

/-- The number of latest updates the statistics show. -/
def recentLimit : Nat := 5

def statistics (l : Ledger) : Statistics :=
  let entries := l.history.values
  let statusCounts := Status.all.map fun s => (s, (entries.filter (·.status == s)).length)
  let languageCounts := entries.foldl (fun acc e =>
    tallyKey acc (match e.languageCode with
      | some c => if c.isEmpty then "unknown" else c
      | none => "unknown")) []
  let lengths := l.applications.values.map fun a => Binary64.ofNat (Text.units16 a.answer)
  let average : Binary64 :=
    if lengths.isEmpty then 0
    else lengths.foldl (· + ·) 0 / Binary64.ofNat lengths.length
  let recent := (l.history.entries.mergeSort fun (_, a) (_, b) =>
    Timestamp.compareNewest a.updatedAt b.updatedAt ≤ 0).take recentLimit
  { total := l.history.size
    pendingCount := l.applications.size
    statusCounts
    languageCounts
    averageAnswerLength := (average * 100).roundHalfUp / 100
    recentUpdates := recent }

end Ledger

end GuildRegistry
