import GuildRegistry.Bot.Direct
import GuildRegistry.Bot.Group

/-! How an update is handled.

First every command is logged (its text cut to 120 UTF-16 units, and its sender only when it has
one). Then updates from users in private chats go through the rate limiter; a dropped update is
logged and answered with how long to wait.
-/

set_option autoImplicit false

namespace GuildRegistry.Bot

/-- Private updates between two prunings of the rate limiter. -/
def pruneEvery : Nat := 1000

/-- Logs a command, without recording other chat content. -/
def commandLog (u : Update) : BotM Unit := do
  let some text := u.text? | pure ()
  if (Text.trimStart text).startsWith "/" then
    let sender : List (String × Json) := (u.sender.map fun s => ("from_id", .num s.id)).toList
    BotM.record .info "command"
      ([("t", .str "cmd"), ("update_id", Json.ofNat u.id), ("chat_id", .num u.chat.id),
        ("chat_type", .str u.chat.kind)] ++ sender ++ [("text", .str (Text.prefixUnits 120 text))])

/-- Rate-limits private updates from users; answers whether the update was dropped. -/
def rateLimit (u : Update) : BotM Bool := do
  let some sender := u.sender | return false
  if !u.chat.isPrivate then return false
  let s ← get
  let now := s.store.clock
  let seen := s.seen + 1
  let limiter := if seen % pruneEvery == 0 then s.limiter.prune now else s.limiter
  let (decision, limiter) := limiter.hit now sender.id
  set { s with seen, limiter }
  match decision with
  | .allowed => return false
  | .denied ms =>
    BotM.record .warn "update dropped" [("t", .str "rate_limited"), ("from_id", .num sender.id), ("retry_after_ms", .num ms)]
    let text := renderRateLimited ms
    match u.event with
    | .press _ => answerCallbackQuery u (some text) false
    | .text _ => reply u text
    return true

/-- Tries handlers in order until one takes the update. -/
def firstTaking (handlers : List (Update → BotM Bool)) (u : Update) : BotM Bool :=
  match handlers with
  | [] => pure false
  | h :: rest => do
    if (← h u) then return true
    firstTaking rest u

/-- The handlers in the order they are tried. -/
def handlers (cfg : BotConfig) : List (Update → BotM Bool) :=
  [pendingCommand, reviewSkipPress, reviewPress cfg, noteSkipPress cfg, noteReply cfg,
    adminsCommand, promoteCommand cfg, demoteCommand cfg,
    fun u => if u.chat.isPrivate then
      firstTaking [startCommand, cancelCommand, statusCommand, withdrawCommand cfg, intakeText cfg] u
      else pure false,
    applyPress,
    fun u => if u.chat.isGroup then
      firstTaking [xpCommand cfg, cupsCommand cfg, addCupCommand cfg, rewardText cfg] u
      else pure false]

/-- Handles an update, apologising when the handling fails. -/
def handleUpdate (cfg : BotConfig) (u : Update) : BotM Unit := do
  let handled ← BotM.attempt do
    commandLog u
    if (← rateLimit u) then return ()
    let _ ← firstTaking (handlers cfg) u
  match handled with
  | .ok () => pure ()
  | .error _ =>
    BotM.record .error "update failed" [("t", .str "bot_error"), ("update_id", Json.ofNat u.id)]
    match ← BotM.attempt (reply u Texts.errorGeneric) with
    | .ok () => pure ()
    | .error _ => BotM.record .warn "apology not delivered" [("t", .str "bot_error"), ("chat_id", .num u.chat.id)]

end GuildRegistry.Bot
