import GuildRegistry.Bot.Review

/-! Group chats: XP for messages, the leaderboard, and cups.

Every text that is not a command, from a user who is not a bot, earns the configured reward, and
every fifth reward's multiple is announced. Cups may be added by the registry's admins and by the
chat's own administrators. Names on the leaderboard come from the chat's member list, and read `User
<id>` when the member cannot be looked up.
-/

set_option autoImplicit false

namespace GuildRegistry.Bot

/-- The name a chat member's user record is shown by, for a record of any shape: its first
and last names that are set, as text, joined by a space and trimmed; else its username when
set, whatever its kind; else its identifier as text. A missing record has none, and neither
has one whose names or identifier must be written as text and do not convert. -/
def memberDisplayName? (user : Option Json) : Option Json :=
  match user with
  | none | some .null => none
  | some u =>
    let field (k : String) : Option Json := match u with
      | .obj ms => Schema.member ms k
      | _ => none
    let names := [field "first_name", field "last_name"].filterMap fun v => v.filter fun w => Json.truthy (some w)
    if !names.all Json.converts then none
    else
    let full := Text.trim (" ".intercalate (names.map Json.textOf))
    if !full.isEmpty then some (.str full)
    else match (field "username").filter fun w => Json.truthy (some w) with
      | some name => some name
      | none => if (field "id").all Json.converts then some (.str (Json.keyText (field "id"))) else none

/-- Whether a user may add cups in a chat: an admin of the registry, or of the chat. A failed
lookup is logged and counts as no. -/
def canManageCups (chat user : Binary64) : BotM Bool := do
  if (← isAdmin user) then return true
  let failed : BotM Bool := do
    BotM.record .warn "chat member lookup failed" [("t", .str "group"), ("chat_id", .num chat), ("user", .num user)]
    pure false
  match ← BotM.attempt (getChatMember chat user) with
  | .ok (.obj ms) =>
    let status := (Schema.member ms "status").bind Json.asString?
    pure (status == some "administrator" || status == some "creator")
  | .ok .null => failed
  | .ok _ => pure false
  | .error _ => failed

/-- The name of a chat member, or `User <id>` when the member or its user record cannot be
read. -/
def memberName (chat user : Binary64) : BotM Json := do
  let unavailable : BotM Json := do
    BotM.record .debug "member name unavailable" [("t", .str "group"), ("chat_id", .num chat), ("user", .num user)]
    pure (.str ("User " ++ user.format))
  match ← BotM.attempt (getChatMember chat user) with
  | .ok (.obj ms) =>
    match memberDisplayName? (Schema.member ms "user") with
    | some name => pure name
    | none => unavailable
  | _ => unavailable

/-- `/xp`: the chat's leaderboard. Every member's name is looked up first; a name that is
not text cannot be escaped, and fails the update. -/
def xpCommand (cfg : BotConfig) (u : Update) : BotM Bool := do
  let some _ := u.command? "xp" | return false
  let board := (← BotM.registry).ledger.leaderboard u.chat.id cfg.settings.xpLeaderboardSize
  let names ← board.mapM fun s => memberName u.chat.id s.userId
  match names.mapM Json.asString? with
  | some ns =>
    replyHtml u (renderLeaderboard ((ns.zip board).map fun (n, s) => (⟨n, s.score⟩ : ScoreRow)))
    return true
  | none => throw (.typeError "s.replaceAll is not a function")

/-- `/cups`: the chat's latest cups. -/
def cupsCommand (cfg : BotConfig) (u : Update) : BotM Bool := do
  let some _ := u.command? "cups" | return false
  replyHtml u (renderCups ((← BotM.registry).ledger.cupHistory u.chat.id cfg.settings.cupsLeaderboardSize))
  return true

/-- `/add_cup title | description | podium`. -/
def addCupCommand (cfg : BotConfig) (u : Update) : BotM Bool := do
  let some arg := u.command? "add_cup" | return false
  let some sender := u.sender | return true
  if !(← canManageCups u.chat.id sender.id) then
    reply u Texts.adminOnly
    return true
  match parseCupArgs arg with
  | none =>
    reply u Texts.cupUsage
    return true
  | some cup =>
    let _ ← BotM.onStore (Store.addCup cfg.file u.chat.id cup)
    BotM.record .info "cup added"
      [("t", .str "group"), ("step", .str "cup_added"), ("chat_id", .num u.chat.id), ("by", .num sender.id)]
    replyHtml u (renderCupAdded cup.title)
    return true

/-- A group text from a user who is no bot earns the message reward. -/
def rewardText (cfg : BotConfig) (u : Update) : BotM Bool := do
  let some text := u.text? | return false
  let some sender := u.sender | return true
  if sender.isBot || text.startsWith "/" then return true
  let reward := cfg.settings.xpMessageReward
  if Binary64.le reward 0 then return true
  let score ← BotM.onStore (Store.addXp cfg.file u.chat.id sender.id reward)
  if isXpMilestone score reward then
    replyHtml u (renderXpMilestone (displayName sender.person) score)
  return true

end GuildRegistry.Bot
