import GuildRegistry.Bot.Intake
import GuildRegistry.Ledger.KeyMap

/-! What the bot remembers between messages, in memory only.

It keeps the questionnaire each user is filling in, and for each admin at most one decision waiting
for a note. A waiting decision remembers the chat that showed the prompt, so that only a reply in
that chat is taken as the note.
-/

set_option autoImplicit false

namespace GuildRegistry.Bot

/-- A decision made by an admin, waiting for the admin's note. -/
structure PendingDecision where
  applicantId : Binary64
  applicantName : String
  status : Status
  languageCode : Option String
  chatId : Binary64
  deriving DecidableEq, Repr, Inhabited

/-- The questionnaires in progress (of kind `σ`) and the decisions waiting for a note (of
kind `δ`), each keyed by a user. -/
structure Conversations (σ δ : Type) where
  intake : KeyMap σ
  notePrompts : KeyMap δ
  deriving Repr, Inhabited

/-- What the bot remembers. -/
abbrev BotConversations := Conversations IntakeSession PendingDecision

namespace Conversations

variable {σ δ : Type}

def empty : Conversations σ δ := ⟨KeyMap.empty, KeyMap.empty⟩

def intakeFor (c : Conversations σ δ) (user : Binary64) : Option σ := c.intake.get? user

def setIntake (c : Conversations σ δ) (user : Binary64) (s : σ) : Conversations σ δ :=
  { c with intake := c.intake.set user s }

/-- Drops a user's questionnaire; answers whether there was one. -/
def cancelIntake (c : Conversations σ δ) (user : Binary64) : Bool × Conversations σ δ :=
  (c.intake.contains user, { c with intake := c.intake.erase user })

/-- Makes a decision wait for the admin's note, replacing one already waiting. -/
def awaitNote (c : Conversations σ δ) (admin : Binary64) (d : δ) : Conversations σ δ :=
  { c with notePrompts := c.notePrompts.set admin d }

def hasNotePrompt (c : Conversations σ δ) (admin : Binary64) : Bool := c.notePrompts.contains admin

/-- Takes the admin's waiting decision when `fits` accepts it; otherwise it stays. -/
def takeNotePromptIf (c : Conversations σ δ) (admin : Binary64) (fits : δ → Bool) :
    Option δ × Conversations σ δ :=
  match c.notePrompts.get? admin with
  | none => (none, c)
  | some d =>
    if fits d then (some d, { c with notePrompts := c.notePrompts.erase admin }) else (none, c)

/-- Takes the admin's waiting decision when it is for the given applicant and chat (each
compared by numeric equality when given). -/
def takeNotePrompt (c : Conversations σ PendingDecision) (admin : Binary64)
    (applicant chat : Option Binary64) : Option PendingDecision × Conversations σ PendingDecision :=
  let fitsGiven (given : Option Binary64) (actual : Binary64) : Bool :=
    given.all fun g => Binary64.eq actual g
  c.takeNotePromptIf admin fun d => fitsGiven applicant d.applicantId && fitsGiven chat d.chatId

end Conversations

end GuildRegistry.Bot
