import GuildRegistry.Bot.Texts
import GuildRegistry.Bot.Parse

/-! Inline keyboards, the callback data of their buttons, and the command menu.

A review keyboard carries the applicant's identifier in its callback data (`review:<id>:approve`,
`review:<id>:deny`, and `review:skip`); a note keyboard carries it in `note:<id>:skip`. Reading
callback data back accepts exactly these forms, with the identifier an optional minus sign and ASCII
digits.
-/

set_option autoImplicit false

namespace GuildRegistry.Bot

/-- A button that answers with callback data. -/
structure Button where
  text : String
  data : String
  deriving DecidableEq, Repr, Inhabited

/-- Rows of buttons under a message. -/
structure Keyboard where
  rows : List (List Button)
  deriving DecidableEq, Repr, Inhabited

def Keyboard.toJson (k : Keyboard) : Json :=
  .obj [("inline_keyboard", .arr (k.rows.map fun row =>
    .arr (row.map fun b => .obj [("text", .str b.text), ("callback_data", .str b.data)])))]

namespace Callback

def apply : String := "apply"
def reviewSkip : String := "review:skip"

end Callback

def welcomeKeyboard : Keyboard := ⟨[[⟨Texts.applyButton, Callback.apply⟩]]⟩

def reviewKeyboard (userId : Binary64) : Keyboard :=
  ⟨[[⟨Texts.approveButton, "review:" ++ userId.format ++ ":approve"⟩,
      ⟨Texts.denyButton, "review:" ++ userId.format ++ ":deny"⟩],
    [⟨Texts.skipButton, Callback.reviewSkip⟩]]⟩

def noteKeyboard (applicantId : Binary64) : Keyboard :=
  ⟨[[⟨Texts.noteButton, "note:" ++ applicantId.format ++ ":skip"⟩]]⟩

/-- A review action: the applicant's identifier as written and whether to approve. -/
structure ReviewAction where
  applicant : String
  approve : Bool
  deriving DecidableEq, Repr, Inhabited

/-- The text between a prefix and a suffix, when the data has both. -/
def between (pre post s : String) : Option String :=
  if s.startsWith pre && s.endsWith post && s.length ≥ pre.length + post.length then
    some (String.ofList ((s.toList.drop pre.length).take (s.length - pre.length - post.length)))
  else none

/-- Reads `review:<id>:approve` or `review:<id>:deny`. -/
def matchReview (data : String) : Option ReviewAction :=
  match between "review:" ":approve" data, between "review:" ":deny" data with
  | some id, _ => if isIntegerWord id then some ⟨id, true⟩ else none
  | _, some id => if isIntegerWord id then some ⟨id, false⟩ else none
  | none, none => none

/-- Reads `note:<id>:skip`. -/
def matchNoteSkip (data : String) : Option String :=
  match between "note:" ":skip" data with
  | some id => if isIntegerWord id then some id else none
  | none => none

/-- A command of the menu and what it does. -/
structure Command where
  name : String
  description : String
  deriving DecidableEq, Repr, Inhabited

def commands : List Command :=
  [⟨"start", "apply to join the guild"⟩, ⟨"status", "check your application"⟩,
    ⟨"withdraw", "withdraw your pending application"⟩, ⟨"cancel", "stop filling in an application"⟩,
    ⟨"pending", "applications waiting for review (admins)"⟩, ⟨"admins", "list bot admins"⟩,
    ⟨"xp", "XP leaderboard (groups)"⟩, ⟨"cups", "recent cups (groups)"⟩]

end GuildRegistry.Bot
