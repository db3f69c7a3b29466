import GuildRegistry.Bot.Pipeline
import GuildRegistry.Store.Session

/-! Bot sessions: updates fed to the bot one at a time, with the store, the clock and the

prepared Bot API replies driven between them.
-/

set_option autoImplicit false

namespace GuildRegistry.Bot

/-- One step of a bot session. -/
inductive BotStep where
  /-- An update: a text or a button press in a chat, from a user when it names one. -/
  | update (chat : Chat) (sender : Option Sender) (event : Event)
  /-- An action on the store, its clock or its disk. -/
  | store (a : Action)
  /-- Moves the clock on. -/
  | advance (ms : Binary64)
  /-- Prepares these replies, over the session's own. -/
  | respond (replies : List (String × ApiReply))
  deriving Repr, Inhabited

/-- A running bot session. -/
structure BotSession where
  state : BotState
  nextUpdate : Nat
  baseReplies : List (String × ApiReply)
  deriving Repr, Inhabited

namespace BotSession

/-- Before its first update the bot asks the Bot API who it is. A refusal of that call ends
the session: the failure's kind and message. -/
def identityRefusal? (replies : List (String × ApiReply)) : Option (String × String) :=
  let reply := match PropertyOrder.get? replies "getMe:undefined" with
    | some r => some r
    | none => PropertyOrder.get? replies "getMe"
  match reply with
  | some (.refusal code description) =>
    some ("GrammyError", "Call to 'getMe' failed! (" ++ code.format ++ ": " ++ description ++ ")")
  | _ => none

/-- A session whose store is empty and loaded. -/
def start (cfg : BotConfig) (clock : Binary64) (replies : List (String × ApiReply)) : BotSession :=
  let store := (Session.settle (Store.load cfg.file) (Session.start cfg.file clock none none)).2
  let store := { store with world := { store.world with log := [] } }
  let limiter := Limiter.create (cfg.settings.rateLimitIntervalSeconds * 1000) cfg.settings.rateLimitBurst
  ⟨⟨store, Conversations.empty, limiter, 0, replies, [], []⟩, 1, replies⟩

/-- The answer of a step with nothing to say. -/
def quiet (fields : List (String × Json)) : Json :=
  .obj (fields ++ [("calls", .arr []), ("logs", .arr [])])

/-- Runs one step, answering its result, its Bot API calls and its log lines. -/
def step (cfg : BotConfig) (sess : BotSession) : BotStep → Json × BotSession
  | .update chat sender event =>
    let u : Update := ⟨sess.nextUpdate, chat, sender, event⟩
    let st := { sess.state with calls := [], log := [] }
    let st := match handleUpdate cfg u st with
      | .ok _ s => s
      | .error _ s => s
    (.obj [("result", .null), ("calls", .arr (st.calls.map ApiCall.toJson)),
        ("logs", .arr (st.log.map LogLine.toJson))],
      { sess with state := st, nextUpdate := sess.nextUpdate + 1 })
  | .store a =>
    let (r, store) := Session.settle (a.run cfg.file) sess.state.store
    let store := { store with world := { store.world with log := [] } }
    (quiet (Session.replyFields r), { sess with state := { sess.state with store } })
  | .advance ms =>
    let store := sess.state.store
    (quiet [("result", .null)],
      { sess with state := { sess.state with store := { store with clock := store.clock + ms } } })
  | .respond replies =>
    (quiet [("result", .null)],
      { sess with state := { sess.state with
        replies := replies.foldl (fun acc (k, r) => PropertyOrder.set acc k r) sess.baseReplies } })

/-- Runs the steps, answering each, and the store's document at the end. -/
def run (cfg : BotConfig) (sess : BotSession) (steps : List BotStep) : Json :=
  let (answers, sess) := steps.foldl (fun (acc : List Json × BotSession) st =>
    let (j, s) := step cfg acc.2 st
    (acc.1 ++ [j], s)) ([], sess)
  .obj [("steps", .arr answers), ("state", sess.state.store.registry.ledger.toDocument.toJson)]

end BotSession

end GuildRegistry.Bot
