import GuildRegistry.Bot.Texts

/-! Updates the bot receives: a text message or a button press, in a chat, usually from a
user; an update may come without one.

A text starting with `/` and a word (letters, digits, underscores) carries that command;
the command's argument is the rest of the text with leading blanks removed.
-/

set_option autoImplicit false

namespace GuildRegistry.Bot

/-- The chat an update happened in. -/
structure Chat where
  id : Binary64
  kind : String
  deriving DecidableEq, Repr, Inhabited

def Chat.isPrivate (c : Chat) : Bool := c.kind == "private"
def Chat.isGroup (c : Chat) : Bool := c.kind == "group" || c.kind == "supergroup"

/-- The user an update came from. -/
structure Sender where
  person : Person
  isBot : Bool
  languageCode : Option String
  deriving DecidableEq, Repr, Inhabited

def Sender.id (s : Sender) : Binary64 := s.person.id

/-- What happened: a text message, or a press of a button with callback data. -/
inductive Event where
  | text (t : String)
  | press (data : String)
  deriving DecidableEq, Repr, Inhabited

/-- One update. A button press belongs to the message with the update's number. -/
structure Update where
  id : Nat
  chat : Chat
  sender : Option Sender
  event : Event
  deriving DecidableEq, Repr, Inhabited

/-- The characters a command name is made of. -/
def isWordChar (c : Char) : Bool := c.isAlphanum || c == '_'

/-- The command a text starts with, and its argument. -/
def commandOf (text : String) : Option (String × String) :=
  match text.toList with
  | '/' :: rest =>
    let name := rest.takeWhile isWordChar
    if name.isEmpty then none
    else some (String.ofList name, Text.trimStart (String.ofList (rest.drop name.length)))
  | _ => none

namespace Update

def text? (u : Update) : Option String :=
  match u.event with
  | .text t => some t
  | .press _ => none

def data? (u : Update) : Option String :=
  match u.event with
  | .press d => some d
  | .text _ => none

/-- The argument when the update is the given command. -/
def command? (u : Update) (name : String) : Option String :=
  match u.text?.bind commandOf with
  | some (n, arg) => if n == name then some arg else none
  | none => none

end Update

end GuildRegistry.Bot
