import GuildRegistry.Bot.Update
import GuildRegistry.Bot.Keyboards
import GuildRegistry.Bot.Conversation
import GuildRegistry.Bot.RateLimit
import GuildRegistry.Bot.Settings
import GuildRegistry.Store.Machine

/-! The bot at work: its state, its calls on the Bot API, and its log.

Every Bot API call is recorded, then answered from prepared replies: the reply for `<method>:<chat>`
if there is one, else the reply for `<method>`, else a plain success (for sending and editing
messages, the message as sent). A refused call fails the bot's work with a Bot API failure. The
store's failures pass through as they are; the store's own log lines are not the bot's.
-/

set_option autoImplicit false

namespace GuildRegistry.Bot

/-- A Bot API call: the method and its parameters. -/
structure ApiCall where
  method : String
  payload : List (String × Json)
  deriving Repr, Inhabited

def ApiCall.toJson (c : ApiCall) : Json := .obj [("method", .str c.method), ("payload", .obj c.payload)]

/-- A prepared reply to Bot API calls. -/
inductive ApiReply where
  | success (result : Json)
  | refusal (code : Binary64) (description : String)
  deriving Repr, Inhabited

/-- Why the bot's handling of an update failed. -/
inductive BotError where
  /-- A Bot API call was refused. -/
  | api (method : String) (code : Binary64) (description : String)
  /-- A store call failed. -/
  | store (e : StoreError)
  /-- A reply held no value where one was read. -/
  | missing (what : String)
  /-- A value of the wrong kind was used. -/
  | typeError (message : String)
  deriving Repr

/-- The bot's state across updates, and what the current update has done so far. -/
structure BotState where
  store : Store
  conversations : BotConversations
  limiter : Limiter
  /-- Private updates seen, for pruning the limiter now and then. -/
  seen : Nat
  replies : List (String × ApiReply)
  calls : List ApiCall
  log : List LogLine
  deriving Repr, Inhabited

/-- The bot's work on an update. A failure keeps what was done before it. -/
abbrev BotM := EStateM BotError BotState

/-- What the bot is set up with: its settings and where the store keeps its snapshot. -/
structure BotConfig where
  settings : Settings
  file : SnapshotFile

namespace BotM

def record (level : LogLevel) (message : String) (fields : List (String × Json)) : BotM Unit :=
  modify fun s => { s with log := s.log ++ [⟨level, message, fields⟩] }

/-- The reply when no reply is prepared. -/
def defaultResult (method : String) (payload : List (String × Json)) : Json :=
  if method == "sendMessage" || method == "editMessageText" then
    .obj [("message_id", Json.ofNat 9000),
      ("chat", .obj [("id", (Schema.member payload "chat_id").getD .null), ("type", .str "private"),
        ("first_name", .str "Chat")]),
      ("text", (Schema.member payload "text").getD .null)]
  else .bool true

/-- The text a chat identifier has in a reply key. -/
def chatKey (payload : List (String × Json)) : String :=
  match Schema.member payload "chat_id" with
  | some (.num x) => x.format
  | some (.str s) => s
  | _ => "undefined"

/-- Makes a Bot API call, answering its result. -/
def call (method : String) (payload : List (String × Json)) : BotM Json := do
  modify fun s => { s with calls := s.calls ++ [⟨method, payload⟩] }
  let replies := (← get).replies
  let reply := match PropertyOrder.get? replies (method ++ ":" ++ chatKey payload) with
    | some r => some r
    | none => PropertyOrder.get? replies method
  match reply with
  | some (.success r) => pure r
  | some (.refusal code description) => throw (.api method code description)
  | none => pure (defaultResult method payload)

/-- Runs a call, answering its failure instead of raising it. -/
def attempt {α : Type} (op : BotM α) : BotM (Except BotError α) := fun s =>
  match op s with
  | .ok a s' => .ok (.ok a) s'
  | .error e s' => .ok (.error e) s'

/-- Runs a store call; the store's log lines are dropped. -/
def onStore {α : Type} (op : StoreM α) : BotM α := fun s =>
  let clear (st : Store) : Store := { st with world := { st.world with log := [] } }
  match op s.store with
  | .ok a st => .ok a { s with store := clear st }
  | .error e st => .error (.store e) { s with store := clear st }

def registry : BotM Registry := do pure (← get).store.registry

def conversations : BotM BotConversations := do pure (← get).conversations

def setConversations (c : BotConversations) : BotM Unit := modify fun s => { s with conversations := c }

end BotM

/-- The parameters of a message: the text, and HTML parsing and a keyboard when asked. -/
def messageFields (text : String) (html : Bool) (keyboard : Option Keyboard) : List (String × Json) :=
  [("text", .str text)] ++ (if html then [("parse_mode", .str "HTML")] else []) ++
    match keyboard with
    | some k => [("reply_markup", k.toJson)]
    | none => []

/-- Sends a message to a chat, parsed as HTML or not, with a keyboard or none. -/
def sendMessage (chat : Binary64) (text : String) (html : Bool) (keyboard : Option Keyboard) :
    BotM Unit := do
  let _ ← BotM.call "sendMessage" ([("chat_id", .num chat)] ++ messageFields text html keyboard)

/-- Replies in the update's chat with plain text. -/
def reply (u : Update) (text : String) : BotM Unit := sendMessage u.chat.id text false none

/-- Replies in the update's chat with HTML. -/
def replyHtml (u : Update) (text : String) : BotM Unit := sendMessage u.chat.id text true none

/-- Replaces the text of the message whose button was pressed. -/
def editMessageText (u : Update) (text : String) (html : Bool) (keyboard : Option Keyboard) :
    BotM Unit := do
  let _ ← BotM.call "editMessageText"
    ([("chat_id", .num u.chat.id), ("message_id", Json.ofNat u.id)] ++ messageFields text html keyboard)

/-- Replaces the text of the message whose button was pressed with plain text. -/
def editText (u : Update) (text : String) : BotM Unit := editMessageText u text false none

/-- Removes the buttons of the message whose button was pressed. -/
def editMessageReplyMarkup (u : Update) : BotM Unit := do
  let _ ← BotM.call "editMessageReplyMarkup" [("chat_id", .num u.chat.id), ("message_id", Json.ofNat u.id)]

/-- Answers a button press, with a notice (shown as an alert or not) when given one. -/
def answerCallbackQuery (u : Update) (notice : Option String) (alert : Bool) : BotM Unit := do
  let fields := match notice with
    | some t => [("text", .str t)] ++ (if alert then [("show_alert", .bool true)] else [])
    | none => []
  let _ ← BotM.call "answerCallbackQuery" ([("callback_query_id", .str ("cb-" ++ toString u.id))] ++ fields)

/-- Answers a button press without a notice. -/
def acknowledge (u : Update) : BotM Unit := answerCallbackQuery u none false

/-- The sender of an update, read where a handler takes it to be there: an update without
one fails the handling. -/
def requireSender (u : Update) : BotM Sender :=
  match u.sender with
  | some s => pure s
  | none => throw (.typeError ("Cannot read properties of undefined (reading " ++
      String.singleton (Char.ofNat 39) ++ "id" ++ String.singleton (Char.ofNat 39) ++ ")"))

/-- Looks up a member of a chat. -/
def getChatMember (chat user : Binary64) : BotM Json :=
  BotM.call "getChatMember" [("chat_id", .num chat), ("user_id", .num user)]

end GuildRegistry.Bot
