import GuildRegistry.Ledger.Views
import GuildRegistry.Store.Failure
import GuildRegistry.Text.Blank

/-! The registry's memory and the changes made to it.

The memory is the ledger and the set of users whose application was taken off the queue for review
and whose decision is not yet recorded. A change answers a value, gives the memory after it, and
says whether anything changed, so that the store knows whether a save is due.
-/

set_option autoImplicit false

namespace GuildRegistry

/-- The registry's memory. -/
structure Registry where
  ledger : Ledger
  inReview : List Binary64
  deriving Repr, Inhabited

/-- A change: the value it answers, the memory after it, and whether a save is due. -/
structure Change (α : Type) where
  result : α
  after : Registry
  changed : Bool

/-- Profile details given for an admin; a missing or blank one keeps what is known. -/
structure ProfileUpdate where
  username : Option String
  fullName : Option String
  deriving DecidableEq, Repr, Inhabited

/-- The answers of an application: one text, or answered questions. -/
inductive Answers where
  | text (answer : String)
  | structured (responses : List Response)
  deriving DecidableEq, Repr, Inhabited

/-- An application as submitted. -/
structure Submission where
  userId : Binary64
  fullName : String
  username : Option String
  languageCode : Option String
  answers : Answers
  deriving DecidableEq, Repr, Inhabited

/-- Why a submission is refused. -/
inductive SubmitRefusal where
  | duplicate
  | inReview
  | alreadyApproved
  deriving DecidableEq, Repr, Inhabited

def SubmitRefusal.reason : SubmitRefusal → String
  | .duplicate => "duplicate"
  | .inReview => "in_review"
  | .alreadyApproved => "already_approved"

/-- The note and language code given with a decision. -/
structure DecisionDetails where
  note : Option String
  languageCode : Option String
  deriving DecidableEq, Repr, Inhabited

/-- A cup to award. -/
structure NewCup where
  title : String
  description : String
  podium : List String
  deriving DecidableEq, Repr, Inhabited

/-- The answered questions as `question: answer` lines. -/
def summarizeResponses (responses : List Response) : String :=
  "\n".intercalate (responses.map fun r => r.question ++ ": " ++ r.answer)

/-- A username as given: trimmed, without one leading `@`. -/
def bareUsername (s : String) : String :=
  let t := Text.trim s
  if t.startsWith "@" then String.ofList (t.toList.drop 1) else t

/-- The failure raised for an XP amount that is not a safe integer at least zero. -/
def xpAmountError? (amount : Binary64) : Option StoreError :=
  if amount.isSafeInteger && Binary64.le 0 amount then none
  else some (.range ("XP amount must be a non-negative integer, got " ++ amount.format))

namespace Registry

def empty : Registry := ⟨Ledger.empty, []⟩

/-- The memory as it reads back from its own document, with the same reviews. -/
def reload (r : Registry) : Registry := ⟨r.ledger.reload, r.inReview⟩

def isUnderReview (r : Registry) (u : Binary64) : Bool := r.inReview.any (Binary64.sameValueZero · u)

/-- The change that changes nothing. -/
def unchanged {α : Type} (r : Registry) (a : α) : Change α := ⟨a, r, false⟩

/-- Adds an admin, or merges newer profile details; answers whether anything changed. -/
def addAdmin (r : Registry) (u : Binary64) (p : ProfileUpdate) : Change Bool :=
  let l := r.ledger
  let added := !l.isAdmin u
  let current := (l.profiles.get? u).getD AdminProfile.blank
  let merged : AdminProfile :=
    ⟨(Text.clean (p.username.map bareUsername)).or current.username,
      (Text.clean p.fullName).or current.fullName⟩
  let updated := merged != current
  let changed := added || updated
  ⟨changed,
    { r with ledger := { l with
      admins := if added then l.admins ++ [u] else l.admins
      profiles := if updated then l.profiles.set u merged else l.profiles } },
    changed⟩

/-- Removes an admin and their profile; answers whether they were an admin. The admin is
found by numeric equality, so NaN is never found. -/
def removeAdmin (r : Registry) (u : Binary64) : Change Bool :=
  let l := r.ledger
  match l.admins.findIdx? (Binary64.eq · u) with
  | none => r.unchanged false
  | some i =>
    ⟨true, { r with ledger := { l with admins := l.admins.eraseIdx i, profiles := l.profiles.erase u } },
      true⟩

/-- Queues an application, unless the user has one queued, is under review, or was
approved. -/
def submit (r : Registry) (now : Except StoreError String) (s : Submission) :
    Except StoreError (Change (Except SubmitRefusal (Application × HistoryEntry))) := do
  let l := r.ledger
  if l.applications.contains s.userId then return r.unchanged (.error .duplicate)
  if r.isUnderReview s.userId then return r.unchanged (.error .inReview)
  if (l.history.get? s.userId).map (·.status) == some .approved then
    return r.unchanged (.error .alreadyApproved)
  let createdAt ← now
  let languageCode := Text.clean s.languageCode
  let responses := match s.answers with
    | .structured rs => rs
    | .text _ => []
  let answer := match s.answers with
    | .structured rs => summarizeResponses rs
    | .text a => a
  let application : Application :=
    ⟨s.userId, s.fullName, Text.clean s.username, answer, responses, createdAt, languageCode⟩
  let entry : HistoryEntry := ⟨.pending, createdAt, none, languageCode⟩
  return ⟨.ok (application, entry),
    { r with ledger := { l with
      applications := l.applications.set s.userId application
      history := l.history.set s.userId entry } },
    true⟩

/-- Writes a user's latest history entry. The language code is the cleaned one given, else
the previous entry's. -/
def writeHistory (l : Ledger) (now : Except StoreError String) (u : Binary64) (status : Status)
    (d : DecisionDetails) : Except StoreError (HistoryEntry × Ledger) := do
  let previous := l.history.get? u
  let updatedAt ← now
  let entry : HistoryEntry :=
    ⟨status, updatedAt, Text.clean d.note, (Text.clean d.languageCode).or (previous.bind (·.languageCode))⟩
  return (entry, { l with history := l.history.set u entry })

/-- Withdraws a queued application. -/
def withdraw (r : Registry) (now : Except StoreError String) (u : Binary64) :
    Except StoreError (Change (Option HistoryEntry)) := do
  match r.ledger.applications.get? u with
  | none => return r.unchanged none
  | some a =>
    let l := { r.ledger with applications := r.ledger.applications.erase u }
    let (entry, l) ← writeHistory l now u .withdrawn ⟨none, a.languageCode⟩
    return ⟨some entry, { r with ledger := l }, true⟩

/-- Takes an application off the queue for review; the user cannot submit again until the
decision is recorded. -/
def pop (r : Registry) (u : Binary64) : Change (Option Application) :=
  match r.ledger.applications.get? u with
  | none => r.unchanged none
  | some a =>
    ⟨some a,
      ⟨{ r.ledger with applications := r.ledger.applications.erase u },
        if r.isUnderReview u then r.inReview else r.inReview ++ [u]⟩,
      true⟩

/-- Records a decision: a status other than pending also drops a queued application, and
the review closes. -/
def recordDecision (r : Registry) (now : Except StoreError String) (u : Binary64) (status : Status)
    (d : DecisionDetails) : Except StoreError (Change HistoryEntry) := do
  let l := if status == .pending then r.ledger
    else { r.ledger with applications := r.ledger.applications.erase u }
  let reviews := r.inReview.filter (!Binary64.sameValueZero · u)
  let (entry, l) ← writeHistory l now u status d
  return ⟨entry, ⟨l, reviews⟩, true⟩

/-- Decides a queued application in one step. The language code given defaults to the
application's. -/
def decide (r : Registry) (now : Except StoreError String) (u : Binary64) (decision : Status)
    (d : DecisionDetails) : Except StoreError (Change (Option (Application × HistoryEntry))) := do
  match r.ledger.applications.get? u with
  | none => return r.unchanged none
  | some a =>
    let l := { r.ledger with applications := r.ledger.applications.erase u }
    let (entry, l) ← writeHistory l now u decision ⟨d.note, d.languageCode.or a.languageCode⟩
    return ⟨some (a, entry), { r with ledger := l }, true⟩

/-- Adds XP to a user in a chat and answers the new total. Adding zero changes nothing
for a user already in the chat's table. -/
def addXp (r : Registry) (chat u amount : Binary64) : Change Binary64 :=
  let l := r.ledger
  let scores := (l.xp.get? chat).getD KeyMap.empty
  let total := (scores.get? u).getD 0 + amount
  let changed := Binary64.lt 0 amount || !scores.contains u
  ⟨total, { r with ledger := { l with xp := l.xp.set chat (scores.set u total) } }, changed⟩

/-- Awards a cup in a chat. -/
def addCup (r : Registry) (now : Except StoreError String) (chat : Binary64) (c : NewCup) :
    Except StoreError (Change Cup) := do
  let createdAt ← now
  let cup : Cup := ⟨c.title, c.description, c.podium, createdAt⟩
  let l := r.ledger
  return ⟨cup, { r with ledger := { l with cups := l.cups.set chat ((l.cups.get? chat).getD [] ++ [cup]) } },
    true⟩

end Registry

end GuildRegistry
