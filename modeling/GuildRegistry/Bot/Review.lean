import GuildRegistry.Bot.Api

/-! Reviewing applications.

A review has two phases. Pressing approve or deny takes the application off the queue and asks the
admin for a note; the decision then waits, one per admin, until the admin replies with a note in the
same chat or presses "No note". Only then is the decision recorded and told to the applicant. If
recording fails, the decision goes back to waiting, so that the admin can try again.
-/

set_option autoImplicit false

namespace GuildRegistry.Bot

/-- The number of applications one `/pending` shows. -/
def pendingPageSize : Nat := 5

def isAdmin (user : Binary64) : BotM Bool := do pure ((← BotM.registry).ledger.isAdmin user)

/-- Posts an application in the review chat; a failure is only logged, since the
application is stored either way and admins still see it under `/pending`. -/
def postForReview (chat : Binary64) (a : Application) : BotM Unit := do
  match ← BotM.attempt (sendMessage chat (renderApplication a) true (some (reviewKeyboard a.userId))) with
  | .ok () => pure ()
  | .error _ =>
    BotM.record .error "review post failed"
      [("t", .str "review"), ("step", .str "post"), ("chat_id", .num chat), ("applicant", .num a.userId)]

/-- Records a waiting decision with its note, then tells the admin and the applicant. -/
def finalize (cfg : BotConfig) (u : Update) (admin : Binary64) (d : PendingDecision)
    (note : Option String) : BotM Unit := do
  let recorded ← BotM.attempt
    (BotM.onStore (Store.recordDecision cfg.file d.applicantId d.status ⟨note, d.languageCode⟩))
  match recorded with
  | .error e =>
    BotM.setConversations ((← BotM.conversations).awaitNote admin d)
    throw e
  | .ok entry =>
    let approved := d.status == .approved
    BotM.record .info "decision recorded"
      [("t", .str "review"), ("step", .str "decided"), ("admin", .num admin),
        ("applicant", .num d.applicantId), ("status", .str d.status.text)]
    replyHtml u (renderDecisionForAdmin approved d.applicantName entry.note)
    match ← BotM.attempt
        (sendMessage d.applicantId (renderDecisionForApplicant approved entry.note) false none) with
    | .ok () => pure ()
    | .error _ =>
      BotM.record .warn "applicant not notified"
        [("t", .str "review"), ("step", .str "notify"), ("applicant", .num d.applicantId)]

/-- `/pending`: the oldest applications, each with review buttons. -/
def pendingCommand (u : Update) : BotM Bool := do
  let some _ := u.command? "pending" | return false
  let some sender := u.sender | return true
  if !(← isAdmin sender.id) then
    reply u Texts.adminOnly
    return true
  let pending := (← BotM.registry).ledger.pending
  if pending.isEmpty then
    reply u Texts.noPending
    return true
  for a in pending.take pendingPageSize do
    sendMessage u.chat.id (renderApplication a) true (some (reviewKeyboard a.userId))
  return true

/-- "Skip": removes the review buttons. -/
def reviewSkipPress (u : Update) : BotM Bool := do
  let some data := u.data? | return false
  if data != Callback.reviewSkip then return false
  if !(← isAdmin (← requireSender u).id) then
    answerCallbackQuery u (some Texts.adminOnly) true
    return true
  acknowledge u
  editMessageReplyMarkup u
  return true

/-- Approve or deny: takes the application off the queue and asks for a note. -/
def reviewPress (cfg : BotConfig) (u : Update) : BotM Bool := do
  let some data := u.data? | return false
  let some action := matchReview data | return false
  let admin := (← requireSender u).id
  if !(← isAdmin admin) then
    answerCallbackQuery u (some Texts.adminOnly) true
    return true
  if (← BotM.conversations).hasNotePrompt admin then
    answerCallbackQuery u (some Texts.finishOpenDecision) true
    return true
  let applicant := Binary64.ofNumeral action.applicant
  let status : Status := if action.approve then .approved else .denied
  acknowledge u
  match ← BotM.onStore (Store.pop cfg.file applicant) with
  | none =>
    editText u Texts.noLongerPending
    return true
  | some a =>
    BotM.setConversations ((← BotM.conversations).awaitNote admin
      ⟨applicant, a.fullName, status, a.languageCode, u.chat.id⟩)
    BotM.record .info "awaiting note"
      [("t", .str "review"), ("step", .str "popped"), ("admin", .num admin), ("applicant", .num applicant),
        ("status", .str status.text)]
    editMessageText u (renderApplication a ++ "\n\n" ++ renderNotePrompt action.approve a.fullName) true
      (some (noteKeyboard applicant))
    return true

/-- "No note": records the waiting decision for that applicant without a note. -/
def noteSkipPress (cfg : BotConfig) (u : Update) : BotM Bool := do
  let some data := u.data? | return false
  let some id := matchNoteSkip data | return false
  let admin := (← requireSender u).id
  let (decision, c) := (← BotM.conversations).takeNotePrompt admin (some (Binary64.ofNumeral id)) none
  BotM.setConversations c
  match decision with
  | none =>
    answerCallbackQuery u (some Texts.noLongerPending) false
    return true
  | some d =>
    acknowledge u
    editMessageReplyMarkup u
    finalize cfg u admin d none
    return true

/-- A text from an admin with a decision waiting in this chat is the decision's note;
any other text goes on to the other handlers. -/
def noteReply (cfg : BotConfig) (u : Update) : BotM Bool := do
  let some text := u.text? | return false
  let some sender := u.sender | return false
  if text.startsWith "/" then return false
  let admin := sender.id
  let (decision, c) := (← BotM.conversations).takeNotePrompt admin none (some u.chat.id)
  BotM.setConversations c
  match decision with
  | none => return false
  | some d =>
    finalize cfg u admin d (some text)
    return true

end GuildRegistry.Bot
