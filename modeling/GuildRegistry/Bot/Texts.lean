import GuildRegistry.Ledger.Views
import GuildRegistry.Markup.Html

/-! The bot's messages.

Fixed texts are named constants, and `table` lists them all by name. Renderers build the HTML
messages about applications, decisions, admins, XP and cups. Every text that comes from a user
(names, answers, notes, titles) is escaped before it goes into markup. The notes shown to applicants
in plain text are not escaped. Numbers are written in their shortest form, as `1e+21` or `NaN`.
-/

set_option autoImplicit false

namespace GuildRegistry.Bot

namespace Texts

def welcome : String := "<b>Welcome to the guild hall!</b>\n\nTap the button below to apply for membership."
def applyButton : String := "Apply to join"
def intakeStarted : String :=
  "Your application has started. Answer each question in a single message, or send /cancel to stop."
def intakeCancelled : String := "Application cancelled."
def nothingToCancel : String := "There is no application in progress."
def tooShort : String := "That answer is a bit short, please tell us more."
def tooLong : String := "That answer is too long, please shorten it."
def received : String := "Thank you! Your application was received and will be reviewed soon."
def duplicate : String := "You already have an application waiting for review."
def alreadyMember : String := "You are already a member of the guild."
def adminsCannotApply : String := "Admins do not need to apply."
def adminOnly : String := "This action is for admins only."
def ownerOnly : String := "Only the bot owner can run this command."
def noPending : String := "There are no applications waiting for review."
def noLongerPending : String := "This application is no longer pending."
def noStatus : String := "You have not applied yet. Send /start to begin."
def withdrawn : String := "Your application was withdrawn."
def nothingToWithdraw : String := "You have no pending application to withdraw."
def finishOpenDecision : String :=
  "Finish your open decision first: reply with a note or tap \"No note\"."
def dmHint : String :=
  "Send /start to apply, /status to check your application or /withdraw to take it back."
def ownerStays : String := "The owner cannot be demoted."
def noteButton : String := "No note"
def skipButton : String := "Skip"
def approveButton : String := "Approve"
def denyButton : String := "Deny"
def approvedUser : String := "Your application was approved. Welcome to the guild!"
def deniedUser : String := "Sorry, your application was not accepted this time."
def noAdmins : String := "No admins are registered."
def userIdRequired : String := "Please give a numeric user id, for example /promote 123456."
def noData : String := "Nothing recorded yet."
def cupUsage : String := "Usage: /add_cup title | description | first, second, third"
def xpTitle : String := "<b>XP leaderboard</b>"
def cupsTitle : String := "<b>Guild cups</b>"
def errorGeneric : String := "Something went wrong. Please try again later."

/-- Every fixed text by name. -/
def table : List (String × String) :=
  [("welcome", welcome), ("applyButton", applyButton), ("intakeStarted", intakeStarted),
    ("intakeCancelled", intakeCancelled), ("nothingToCancel", nothingToCancel),
    ("tooShort", tooShort), ("tooLong", tooLong), ("received", received),
    ("duplicate", duplicate), ("alreadyMember", alreadyMember),
    ("adminsCannotApply", adminsCannotApply), ("adminOnly", adminOnly),
    ("ownerOnly", ownerOnly), ("noPending", noPending), ("noLongerPending", noLongerPending),
    ("noStatus", noStatus), ("withdrawn", withdrawn), ("nothingToWithdraw", nothingToWithdraw),
    ("finishOpenDecision", finishOpenDecision), ("dmHint", dmHint), ("ownerStays", ownerStays),
    ("noteButton", noteButton), ("skipButton", skipButton), ("approveButton", approveButton),
    ("denyButton", denyButton), ("approvedUser", approvedUser), ("deniedUser", deniedUser),
    ("noAdmins", noAdmins), ("userIdRequired", userIdRequired), ("noData", noData),
    ("cupUsage", cupUsage), ("xpTitle", xpTitle), ("cupsTitle", cupsTitle),
    ("errorGeneric", errorGeneric)]

end Texts

/-- The label of a status. -/
def statusLabel : Status → String
  | .pending => "Pending review"
  | .approved => "Approved"
  | .denied => "Denied"
  | .withdrawn => "Withdrawn"

/-- What is known of a chat user's name. -/
structure Person where
  id : Binary64
  firstName : Option String
  lastName : Option String
  username : Option String
  deriving DecidableEq, Repr, Inhabited

/-- A text that is present and not empty. -/
def given (s : Option String) : Option String :=
  match s with
  | some t => if t.isEmpty then none else some t
  | none => none

/-- A user's name: first and last name, else the username, else the identifier. -/
def displayName (p : Person) : String :=
  let full := Text.trim (" ".intercalate ([p.firstName, p.lastName].filterMap given))
  if !full.isEmpty then full
  else match given p.username with
    | some u => u
    | none => p.id.format

/-- Joins the lines of a message. -/
def lines (ls : List String) : String := "\n".intercalate ls

/-- An application as shown to reviewers. -/
def renderApplication (a : Application) : String :=
  let head := ["<b>Applicant:</b> " ++ Html.escape a.fullName ++ " (<code>" ++ a.userId.format ++ "</code>)"]
  let username := match given a.username with
    | some u => ["<b>Username:</b> @" ++ Html.escape u]
    | none => []
  let language := match given a.languageCode with
    | some l => ["<b>Language:</b> " ++ Html.escape l]
    | none => []
  let body := if a.responses.isEmpty then
      ["<b>Answer:</b> " ++ Html.escape (if a.answer.isEmpty then "-" else a.answer)]
    else a.responses.map fun r => "<b>" ++ Html.escape r.question ++ "</b>\n" ++ Html.escape r.answer
  lines (head ++ username ++ language ++ body ++ ["<b>Submitted:</b> " ++ Timestamp.display (some a.createdAt)])

/-- An application's latest state as shown to the applicant. -/
def renderStatus (e : HistoryEntry) : String :=
  let note := match given e.note with
    | some n => ["<b>Note:</b> " ++ Html.escape n]
    | none => []
  lines (["<b>Status:</b> " ++ statusLabel e.status,
    "<b>Updated:</b> " ++ Timestamp.display (some e.updatedAt)] ++ note)

/-- The decision as told to the applicant, in plain text. -/
def renderDecisionForApplicant (approved : Bool) (note : Option String) : String :=
  let base := if approved then Texts.approvedUser else Texts.deniedUser
  match given note with
  | some n => base ++ "\n\nNote from the reviewers: " ++ n
  | none => base

/-- The decision as confirmed to the reviewing admin. -/
def renderDecisionForAdmin (approved : Bool) (applicantName : String) (note : Option String) : String :=
  let line := "Application from " ++ Html.escape applicantName ++ " " ++
    (if approved then "approved" else "denied") ++ "."
  match given note with
  | some n => line ++ "\n<b>Note:</b> " ++ Html.escape n
  | none => line

/-- Asks the reviewing admin for a note. -/
def renderNotePrompt (approved : Bool) (applicantName : String) : String :=
  (if approved then "Approving" else "Denying") ++ " " ++ Html.escape applicantName ++
    ". Reply with a note for the applicant, or tap \"" ++ Texts.noteButton ++ "\"."

/-- The admin list. -/
def renderAdmins (admins : List AdminRecord) : String :=
  if admins.isEmpty then Texts.noAdmins
  else
    let item (r : AdminRecord) : String :=
      let label := " ".intercalate
        ([given r.profile.fullName, (given r.profile.username).map ("@" ++ ·)].filterMap id)
      if label.isEmpty then "• <code>" ++ r.userId.format ++ "</code>"
      else "• " ++ Html.escape label ++ " (<code>" ++ r.userId.format ++ "</code>)"
    lines ("<b>Admins</b>" :: admins.map item)

def renderXpMilestone (name : String) (score : Binary64) : String :=
  Html.escape name ++ " now has " ++ score.format ++ " XP!"

/-- A leaderboard row: a name and a score. -/
structure ScoreRow where
  name : String
  score : Binary64
  deriving DecidableEq, Repr, Inhabited

def renderLeaderboard (rows : List ScoreRow) : String :=
  if rows.isEmpty then Texts.noData
  else lines (Texts.xpTitle :: rows.zipIdx.map fun (r, i) =>
    toString (i + 1) ++ ". <b>" ++ Html.escape r.name ++ "</b> - <code>" ++ r.score.format ++ "</code>")

def renderCups (cups : List Cup) : String :=
  if cups.isEmpty then Texts.noData
  else
    let block (c : Cup) : String :=
      let podium := ", ".intercalate ((c.podium.filter (!·.isEmpty)).map Html.escape)
      let head := if c.description.isEmpty then "<b>" ++ Html.escape c.title ++ "</b>"
        else "<b>" ++ Html.escape c.title ++ "</b> - " ++ Html.escape c.description
      head ++ "\n" ++ Text.ofChars "🥇 " ++ (if podium.isEmpty then "-" else podium)
    "\n\n".intercalate (Texts.cupsTitle :: cups.map block)

def renderCupAdded (title : String) : String := "New cup recorded: <b>" ++ Html.escape title ++ "</b>"

/-- Asks to wait, in whole seconds rounded up, at least one. -/
def renderRateLimited (retryAfterMs : Binary64) : String :=
  let seconds := Binary64.max 1 (retryAfterMs / 1000).ceil
  "You are sending requests too quickly. Please wait " ++ seconds.format ++ "s and try again."

end GuildRegistry.Bot
