import GuildRegistry.Bot.Review

/-! Commands for admins, and the private conversation with applicants.

The owner promotes and demotes admins, and cannot be demoted. In a private chat, `/start` offers the
application button; the button starts the questionnaire unless the user is an admin, has an
application queued or under review, or was approved. Each text then answers the current question;
the last answer submits the application, which is posted in the review chat when there is one.
-/

set_option autoImplicit false

namespace GuildRegistry.Bot

/-- `/admins`: the admin list. -/
def adminsCommand (u : Update) : BotM Bool := do
  let some _ := u.command? "admins" | return false
  replyHtml u (renderAdmins (← BotM.registry).ledger.adminDetails)
  return true

/-- `/promote <id>`, for the owner. -/
def promoteCommand (cfg : BotConfig) (u : Update) : BotM Bool := do
  let some arg := u.command? "promote" | return false
  let some sender := u.sender | return true
  if !Binary64.eq sender.id cfg.settings.ownerId then
    reply u Texts.ownerOnly
    return true
  match parseUserId arg with
  | none =>
    reply u Texts.userIdRequired
    return true
  | some user =>
    let added ← BotM.onStore (Store.addAdmin cfg.file user ⟨none, none⟩)
    BotM.record .info "promote"
      [("t", .str "admin"), ("step", .str "promote"), ("user", .num user), ("changed", .bool added)]
    reply u ("User " ++ user.format ++ (if added then " is now an admin." else " is already an admin."))
    return true

/-- `/demote <id>`, for the owner, who stays an admin. -/
def demoteCommand (cfg : BotConfig) (u : Update) : BotM Bool := do
  let some arg := u.command? "demote" | return false
  let some sender := u.sender | return true
  if !Binary64.eq sender.id cfg.settings.ownerId then
    reply u Texts.ownerOnly
    return true
  match parseUserId arg with
  | none =>
    reply u Texts.userIdRequired
    return true
  | some user =>
    if Binary64.eq user cfg.settings.ownerId then
      reply u Texts.ownerStays
      return true
    let removed ← BotM.onStore (Store.removeAdmin cfg.file user)
    BotM.record .info "demote"
      [("t", .str "admin"), ("step", .str "demote"), ("user", .num user), ("changed", .bool removed)]
    reply u ("User " ++ user.format ++ (if removed then " is no longer an admin." else " is not an admin."))
    return true

/-- `/start`: the welcome with the application button. -/
def startCommand (u : Update) : BotM Bool := do
  let some _ := u.command? "start" | return false
  sendMessage u.chat.id Texts.welcome true (some welcomeKeyboard)
  return true

/-- `/cancel`: drops the questionnaire in progress. -/
def cancelCommand (u : Update) : BotM Bool := do
  let some _ := u.command? "cancel" | return false
  let some sender := u.sender | return true
  let (had, c) := (← BotM.conversations).cancelIntake sender.id
  BotM.setConversations c
  reply u (if had then Texts.intakeCancelled else Texts.nothingToCancel)
  return true

/-- `/status`: where the user's application stands. -/
def statusCommand (u : Update) : BotM Bool := do
  let some _ := u.command? "status" | return false
  let some sender := u.sender | return true
  match (← BotM.registry).ledger.history.get? sender.id with
  | none => reply u Texts.noStatus
  | some e => replyHtml u (renderStatus e)
  return true

/-- `/withdraw`: drops the questionnaire and withdraws the queued application. -/
def withdrawCommand (cfg : BotConfig) (u : Update) : BotM Bool := do
  let some _ := u.command? "withdraw" | return false
  let some sender := u.sender | return true
  BotM.setConversations ((← BotM.conversations).cancelIntake sender.id).2
  let outcome ← BotM.onStore (Store.withdraw cfg.file sender.id)
  reply u (if outcome.isSome then Texts.withdrawn else Texts.nothingToWithdraw)
  return true

/-- Submits a completed questionnaire, and posts it for review. -/
def submitResponses (cfg : BotConfig) (u : Update) (user : Sender) (session : IntakeSession)
    (responses : List Response) : BotM Unit := do
  let outcome ← BotM.onStore (Store.submit cfg.file
    ⟨user.id, displayName user.person, user.person.username, session.languageCode, .structured responses⟩)
  BotM.setConversations ((← BotM.conversations).cancelIntake user.id).2
  match outcome with
  | .error r =>
    BotM.record .warn "submission refused"
      [("t", .str "intake"), ("step", .str "rejected"), ("user", .num user.id), ("reason", .str r.reason)]
    reply u (if r == .alreadyApproved then Texts.alreadyMember else Texts.duplicate)
  | .ok (a, _) =>
    BotM.record .info "application submitted" [("t", .str "intake"), ("step", .str "submitted"), ("user", .num user.id)]
    reply u Texts.received
    match cfg.settings.reviewChatId with
    | some chat => postForReview chat a
    | none => pure ()

/-- A private text: the answer to the current question, or a hint when there is none.
Texts starting with `/`, and texts without a sender, end here unanswered. -/
def intakeText (cfg : BotConfig) (u : Update) : BotM Bool := do
  let some text := u.text? | return false
  let some sender := u.sender | return true
  if text.startsWith "/" then return true
  match (← BotM.conversations).intakeFor sender.id with
  | none => reply u Texts.dmHint
  | some session =>
    match answerIntake defaultQuestions session text with
    | .invalid long q => reply u ((if long then Texts.tooLong else Texts.tooShort) ++ "\n\n" ++ q.prompt)
    | .next s q =>
      BotM.setConversations ((← BotM.conversations).setIntake sender.id s)
      reply u q.prompt
    | .complete responses => submitResponses cfg u sender session responses
  return true

/-- The application button: starts the questionnaire when the user may apply. -/
def applyPress (u : Update) : BotM Bool := do
  let some data := u.data? | return false
  if data != Callback.apply then return false
  acknowledge u
  let sender ← requireSender u
  let user := sender.id
  let r ← BotM.registry
  if r.ledger.isAdmin user then
    editText u Texts.adminsCannotApply
    return true
  if r.ledger.applications.contains user || r.isUnderReview user then
    editText u Texts.duplicate
    return true
  if (r.ledger.history.get? user).map (·.status) == some .approved then
    editText u Texts.alreadyMember
    return true
  match startIntake sender.languageCode defaultQuestions with
  | .error _ => return true
  | .ok (session, q) =>
    BotM.setConversations ((← BotM.conversations).setIntake user session)
    BotM.record .info "intake started" [("t", .str "intake"), ("step", .str "started"), ("user", .num user)]
    editText u Texts.intakeStarted
    reply u q.prompt
    return true

end GuildRegistry.Bot
