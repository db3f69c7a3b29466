import GuildRegistry.Proofs.Bot.NotePrompts

/-! Every open review can be finished.

A review opens when an admin presses approve or deny: the application leaves the queue and the
decision waits for the admin's note. It closes when the note comes, or "No note" is pressed, and the
decision is recorded.
-/

set_option autoImplicit false

namespace GuildRegistry.Bot

open Binary64 KeyMap

variable {α : Type}

/-- The reviews the store has open match the decisions waiting for a note, and the prepared
replies accept answering button presses and removing buttons. -/
structure ReviewsHeld (s : BotState) : Prop where
  matched : ReviewsMatch s.store.registry s.conversations.notePrompts
  accepts : AcceptsButtons s.replies

/-- An admin's decision held out of memory while it is recorded: the admin has no decision
waiting, and the reviews match the waiting decisions with this one put back. -/
structure Withheld (admin : Binary64) (d : PendingDecision) (s : BotState) : Prop where
  free : s.conversations.notePrompts.contains admin = false
  matched : ReviewsMatch s.store.registry (s.conversations.notePrompts.set admin d)
  accepts : AcceptsButtons s.replies

theorem ReviewsHeld.of_same {s s' : BotState} (held : ReviewsHeld s) (registry : s'.store.registry = s.store.registry)
    (prompts : s'.conversations.notePrompts = s.conversations.notePrompts) (replies : s'.replies = s.replies) :
    ReviewsHeld s' := by
  obtain ⟨matched, accepts⟩ := held
  rw [← registry, ← prompts] at matched
  rw [← replies] at accepts
  exact ⟨matched, accepts⟩

theorem framed_reviewsHeld : Framed ReviewsHeld := fun _ _ store conversations replies held =>
  held.of_same (by rw [store]) (by rw [conversations]) replies

theorem framed_withheld (admin : Binary64) (d : PendingDecision) : Framed (Withheld admin d) := by
  intro s s' store conversations replies held
  obtain ⟨free, matched, accepts⟩ := held
  rw [← conversations] at free
  rw [← store, ← conversations] at matched
  rw [← replies] at accepts
  exact ⟨free, matched, accepts⟩

theorem Framed.read {P : BotState → Prop} (h : Framed P) (c : BotConversations) :
    Framed fun s => P s ∧ c = s.conversations := by
  intro s s' store conversations replies pre
  exact ⟨h s s' store conversations replies pre.1, pre.2.trans conversations.symm⟩

theorem Quiet.keepsReviews {op : BotM α} (h : Quiet op) : Keeps ReviewsHeld op := h.keeps framed_reviewsHeld

theorem Keeps.weaken {op : BotM α} {P : BotState → Prop} (h : Keeps ReviewsHeld op) (pre : ∀ s, P s → ReviewsHeld s) :
    Runs ReviewsHeld P op fun _ => ReviewsHeld :=
  h.imp pre fun _ _ kept => kept

/-! ### Moving the memory and the store -/

section Moves

variable {I : BotState → Prop}

theorem runs_setConversations {c c' : BotConversations} (same : c'.notePrompts = c.notePrompts) :
    Runs I (fun s => ReviewsHeld s ∧ c = s.conversations) (BotM.setConversations c') fun _ => ReviewsHeld := by
  intro s pre
  obtain ⟨held, rfl⟩ := pre
  have matched := held.matched
  rw [← same] at matched
  exact ReviewsHeld.mk matched held.accepts

theorem runs_take {c : BotConversations} {admin : Binary64} {d : PendingDecision}
    (found : c.notePrompts.get? admin = some d) :
    Runs I (fun s => ReviewsHeld s ∧ c = s.conversations)
      (BotM.setConversations { c with notePrompts := c.notePrompts.erase admin }) fun _ => Withheld admin d := by
  intro s pre
  obtain ⟨held, rfl⟩ := pre
  obtain ⟨gone, matched⟩ := held.matched.take found
  exact Withheld.mk gone matched held.accepts

theorem runs_awaitNote {c : BotConversations} {admin : Binary64} {d : PendingDecision} :
    Runs I (fun s => Withheld admin d s ∧ c = s.conversations) (BotM.setConversations (c.awaitNote admin d))
      fun _ => ReviewsHeld := by
  intro s pre
  obtain ⟨held, rfl⟩ := pre
  exact ReviewsHeld.mk held.matched held.accepts

theorem keeps_onStore {op : StoreM α}
    (h : ∀ st m, ReviewsMatch st.registry m → ReviewsMatch (stateAfter (op st)).registry m) :
    Keeps ReviewsHeld (BotM.onStore op) := by
  intro s held
  have kept := h s.store _ held.matched
  unfold BotM.onStore
  revert kept
  cases op s.store with
  | ok a st => exact fun kept => ReviewsHeld.mk kept held.accepts
  | error e st => exact fun kept => ReviewsHeld.mk kept held.accepts

theorem keeps_onStore_call {f : SnapshotFile} {req : Request} {op : StoreM α}
    (moves : Store.Moves (Request.Leaves f req) op) (held : req.IdsHeld) (keeps : req.keepsReviews = true) :
    Keeps ReviewsHeld (BotM.onStore op) :=
  keeps_onStore fun st _ matched => matched.leaves held keeps (moves st)

theorem runs_onStore_pop {f : SnapshotFile} {admin u : Binary64} (hu : u.Representable) :
    Runs ReviewsHeld (fun s => ReviewsHeld s ∧ s.conversations.notePrompts.contains admin = false)
      (BotM.onStore (Store.pop f u))
      fun answer s => (answer = none → ReviewsHeld s) ∧
        ∀ a, answer = some a → ∀ d : PendingDecision, d.applicantId = u → Withheld admin d s := by
  intro s pre
  obtain ⟨held, free⟩ := pre
  have moved := Store.pop_cases (f := f) u s.store
  unfold BotM.onStore
  revert moved
  cases Store.pop f u s.store with
  | ok answer st =>
    cases answer with
    | none =>
      intro same
      have matched := held.matched
      rw [← same] at matched
      exact ⟨fun _ => ReviewsHeld.mk matched held.accepts, fun a popped => by cases popped⟩
    | some a =>
      intro moved
      obtain ⟨found, after⟩ := moved
      refine ⟨(fun popped => by cases popped), fun a' _ d applicant => ?_⟩
      have matched := held.matched.wait free found hu applicant
      rw [← after] at matched
      exact Withheld.mk free matched held.accepts
  | error e st =>
    intro reread
    have matched := held.matched.reload
    rw [← reread] at matched
    exact ReviewsHeld.mk matched held.accepts

theorem runs_onStore_recordDecision {f : SnapshotFile} {admin : Binary64} {d : PendingDecision}
    (details : DecisionDetails) :
    Runs (Withheld admin d) (Withheld admin d) (BotM.onStore (Store.recordDecision f d.applicantId d.status details))
      fun _ => ReviewsHeld := by
  intro s held
  have moved := Store.recordDecision_cases (f := f) d.applicantId d.status details s.store
  unfold BotM.onStore
  revert moved
  cases Store.recordDecision f d.applicantId d.status details s.store with
  | ok e st =>
    intro moved
    obtain ⟨c, ok, after⟩ := moved
    have matched := held.matched.close held.free ok
    rw [← after] at matched
    exact ReviewsHeld.mk matched held.accepts
  | error e st =>
    intro reread
    have matched := held.matched.reload
    rw [← reread] at matched
    exact Withheld.mk held.free matched held.accepts

end Moves

theorem takeNotePrompt_cases (c : BotConversations) (admin : Binary64) (applicant chat : Option Binary64) :
    c.takeNotePrompt admin applicant chat = (none, c) ∨
      ∃ d, c.notePrompts.get? admin = some d ∧
        c.takeNotePrompt admin applicant chat = (some d, { c with notePrompts := c.notePrompts.erase admin }) := by
  unfold Conversations.takeNotePrompt Conversations.takeNotePromptIf
  split
  · exact .inl rfl
  · rename_i d found
    dsimp only
    split
    · exact .inr ⟨d, found, rfl⟩
    · exact .inl rfl

theorem representable_of_parseUserId {raw : String} {user : Binary64} (parsed : parseUserId raw = some user) :
    user.Representable := by
  unfold parseUserId at parsed
  -- the id is the numeral of the first word; checking that word unfolds nothing
  generalize Text.firstWord (Text.trim raw) = word at parsed
  dsimp only at parsed
  split at parsed
  · cases parsed
  · split at parsed
    · rw [← Option.some.inj parsed]
      exact representable_ofNumeral word
    · cases parsed

/-! ### Handlers that only read, log and call the Bot API -/

section Quiet

theorem quiet_commandLog (u : Update) : Quiet (commandLog u) := by
  unfold commandLog
  split
  · split
    · exact quiet_record _ _ _
    · exact quiet_pure ()
  · exact quiet_pure ()

theorem quiet_pendingCommand (u : Update) : Quiet (pendingCommand u) := by
  unfold pendingCommand
  split
  · split
    · refine (quiet_isAdmin _).bind fun admin => ?_
      split
      · exact (quiet_reply _ _).bind fun _ => quiet_pure true
      · refine quiet_registry.bind fun r => ?_
        dsimp only
        split
        · exact (quiet_reply _ _).bind fun _ => quiet_pure true
        · refine (Quiet.forIn (fun a _ => ?_) _).bind fun _ => quiet_pure true
          exact (quiet_sendMessage _ _ _ _).bind fun _ => quiet_pure _
    · exact quiet_pure true
  · exact quiet_pure false

theorem quiet_reviewSkipPress (u : Update) : Quiet (reviewSkipPress u) := by
  unfold reviewSkipPress
  split
  · split
    · exact quiet_pure false
    · refine (quiet_requireSender u).bind fun sender => (quiet_isAdmin _).bind fun admin => ?_
      split
      · exact (quiet_answerCallbackQuery _ _ _).bind fun _ => quiet_pure true
      · exact (quiet_acknowledge u).bind fun _ => (quiet_editMessageReplyMarkup u).bind fun _ => quiet_pure true
  · exact quiet_pure false

theorem quiet_adminsCommand (u : Update) : Quiet (adminsCommand u) := by
  unfold adminsCommand
  split
  · exact quiet_registry.bind fun _ => (quiet_replyHtml _ _).bind fun _ => quiet_pure true
  · exact quiet_pure false

theorem quiet_startCommand (u : Update) : Quiet (startCommand u) := by
  unfold startCommand
  split
  · exact (quiet_sendMessage _ _ _ _).bind fun _ => quiet_pure true
  · exact quiet_pure false

theorem quiet_statusCommand (u : Update) : Quiet (statusCommand u) := by
  unfold statusCommand
  split
  · split
    · refine quiet_registry.bind fun r => ?_
      dsimp only
      split
      · exact (quiet_reply _ _).bind fun _ => quiet_pure true
      · exact (quiet_replyHtml _ _).bind fun _ => quiet_pure true
    · exact quiet_pure true
  · exact quiet_pure false

theorem quiet_xpCommand (cfg : BotConfig) (u : Update) : Quiet (xpCommand cfg u) := by
  unfold xpCommand
  split
  · refine quiet_registry.bind fun r => ?_
    dsimp only
    refine (Quiet.mapM fun s => quiet_memberName _ _).bind fun names => ?_
    split
    · exact (quiet_replyHtml _ _).bind fun _ => quiet_pure true
    · exact quiet_throw _
  · exact quiet_pure false

theorem quiet_cupsCommand (cfg : BotConfig) (u : Update) : Quiet (cupsCommand cfg u) := by
  unfold cupsCommand
  split
  · exact quiet_registry.bind fun _ => (quiet_replyHtml _ _).bind fun _ => quiet_pure true
  · exact quiet_pure false

end Quiet

/-! ### Handlers that change the store or the questionnaires -/

/-- The ids an update carries are values binary64 holds, as every number read from JSON is. -/
def Update.IdsHeld (u : Update) : Prop :=
  u.chat.id.Representable ∧ ∀ sender, u.sender = some sender → sender.id.Representable

section Changing

variable (cfg : BotConfig) (u : Update)

theorem keeps_promoteCommand : Keeps ReviewsHeld (promoteCommand cfg u) := by
  unfold promoteCommand
  split
  · split
    · split
      · exact ((quiet_reply _ _).bind fun _ => quiet_pure true).keepsReviews
      · split
        · exact ((quiet_reply _ _).bind fun _ => quiet_pure true).keepsReviews
        · rename_i user parsed
          refine (keeps_onStore_call (Store.moves_addAdmin _ _) (representable_of_parseUserId parsed) rfl).bind
            fun added => ?_
          exact ((quiet_record _ _ _).bind fun _ => (quiet_reply _ _).bind fun _ => quiet_pure true).keepsReviews
    · exact keeps_pure true
  · exact keeps_pure false

theorem keeps_demoteCommand : Keeps ReviewsHeld (demoteCommand cfg u) := by
  unfold demoteCommand
  split
  · split
    · split
      · exact ((quiet_reply _ _).bind fun _ => quiet_pure true).keepsReviews
      · split
        · exact ((quiet_reply _ _).bind fun _ => quiet_pure true).keepsReviews
        · split
          · exact ((quiet_reply _ _).bind fun _ => quiet_pure true).keepsReviews
          · refine (keeps_onStore_call (Store.moves_removeAdmin _) trivial rfl).bind fun removed => ?_
            exact ((quiet_record _ _ _).bind fun _ => (quiet_reply _ _).bind fun _ => quiet_pure true).keepsReviews
    · exact keeps_pure true
  · exact keeps_pure false

theorem keeps_cancelCommand : Keeps ReviewsHeld (cancelCommand u) := by
  unfold cancelCommand
  split
  · split
    · refine runs_conversations.bind fun c => ?_
      dsimp only [Conversations.cancelIntake]
      refine (runs_setConversations (by rfl)).bind fun _ => ?_
      exact ((quiet_reply _ _).bind fun _ => quiet_pure true).keepsReviews
    · exact keeps_pure true
  · exact keeps_pure false

theorem keeps_withdrawCommand : Keeps ReviewsHeld (withdrawCommand cfg u) := by
  unfold withdrawCommand
  split
  · split
    · refine runs_conversations.bind fun c => (runs_setConversations (by rfl)).bind fun _ => ?_
      refine (keeps_onStore_call (Store.moves_withdraw _) trivial rfl).bind fun outcome => ?_
      exact ((quiet_reply _ _).bind fun _ => quiet_pure true).keepsReviews
    · exact keeps_pure true
  · exact keeps_pure false

theorem keeps_submitResponses (user : Sender) (hu : user.id.Representable) (session : IntakeSession)
    (responses : List Response) : Keeps ReviewsHeld (submitResponses cfg u user session responses) := by
  unfold submitResponses
  refine (keeps_onStore_call (Store.moves_submit _) (by exact hu) rfl).bind fun outcome => ?_
  refine runs_conversations.bind fun c => (runs_setConversations (by rfl)).bind fun _ => ?_
  split
  · exact ((quiet_record _ _ _).bind fun _ => quiet_reply _ _).keepsReviews
  · refine ((quiet_record _ _ _).bind fun _ => (quiet_reply _ _).bind fun _ => ?_).keepsReviews
    split
    · exact quiet_postForReview _ _
    · exact quiet_pure ()

theorem keeps_intakeText (ids : u.IdsHeld) : Keeps ReviewsHeld (intakeText cfg u) := by
  unfold intakeText
  split
  · split
    · rename_i sender hsender
      split
      · exact keeps_pure true
      · refine runs_conversations.bind fun c => ?_
        dsimp only
        split
        · exact (((quiet_reply _ _).bind fun _ => quiet_pure true).keepsReviews).weaken fun _ held => held.1
        · split
          · exact (((quiet_reply _ _).bind fun _ => quiet_pure true).keepsReviews).weaken fun _ held => held.1
          · refine (runs_conversations.imp (fun _ held => held.1) fun _ _ kept => kept).bind fun c' => ?_
            refine (runs_setConversations (by rfl)).bind fun _ => ?_
            exact ((quiet_reply _ _).bind fun _ => quiet_pure true).keepsReviews
          · refine ((keeps_submitResponses cfg u sender (ids.2 sender hsender) _ _).weaken fun _ held => held.1).bind
              fun _ => ?_
            exact keeps_pure true
    · exact keeps_pure true
  · exact keeps_pure false

theorem keeps_applyPress : Keeps ReviewsHeld (applyPress u) := by
  unfold applyPress
  split
  · split
    · exact keeps_pure false
    · refine (quiet_acknowledge u).keepsReviews.bind fun _ => (quiet_requireSender u).keepsReviews.bind fun sender => ?_
      dsimp only
      refine quiet_registry.keepsReviews.bind fun r => ?_
      split
      · exact ((quiet_editText _ _).bind fun _ => quiet_pure true).keepsReviews
      · split
        · exact ((quiet_editText _ _).bind fun _ => quiet_pure true).keepsReviews
        · split
          · exact ((quiet_editText _ _).bind fun _ => quiet_pure true).keepsReviews
          · split
            · exact keeps_pure true
            · refine runs_conversations.bind fun c => (runs_setConversations (by rfl)).bind fun _ => ?_
              exact ((quiet_record _ _ _).bind fun _ => (quiet_editText _ _).bind fun _ =>
                (quiet_reply _ _).bind fun _ => quiet_pure true).keepsReviews
  · exact keeps_pure false

theorem keeps_addCupCommand (ids : u.IdsHeld) : Keeps ReviewsHeld (addCupCommand cfg u) := by
  unfold addCupCommand
  split
  · split
    · refine (quiet_canManageCups _ _).keepsReviews.bind fun allowed => ?_
      split
      · exact ((quiet_reply _ _).bind fun _ => quiet_pure true).keepsReviews
      · split
        · exact ((quiet_reply _ _).bind fun _ => quiet_pure true).keepsReviews
        · refine (keeps_onStore_call (Store.moves_addCup _ _) ids.1 rfl).bind fun _ => ?_
          exact ((quiet_record _ _ _).bind fun _ => (quiet_replyHtml _ _).bind fun _ => quiet_pure true).keepsReviews
    · exact keeps_pure true
  · exact keeps_pure false

theorem keeps_rewardText (ids : u.IdsHeld) : Keeps ReviewsHeld (rewardText cfg u) := by
  unfold rewardText
  split
  · split
    · rename_i sender hsender
      split
      · exact keeps_pure true
      · dsimp only
        split
        · exact keeps_pure true
        · refine (keeps_onStore_call (Store.moves_addXp _ _ _) ⟨ids.1, ids.2 sender hsender⟩ rfl).bind fun score => ?_
          split
          · exact ((quiet_replyHtml _ _).bind fun _ => quiet_pure true).keepsReviews
          · exact keeps_pure true
    · exact keeps_pure true
  · exact keeps_pure false

theorem keeps_rateLimit : Keeps ReviewsHeld (rateLimit u) := by
  unfold rateLimit
  split
  · split
    · exact keeps_pure false
    · refine runs_get.bind fun s₀ => ?_
      dsimp only
      -- the state set back is the one read, with the limiter and the count of updates moved on
      refine (runs_set (Q := fun _ => ReviewsHeld) fun s pre => ?_).bind fun _ => ?_
      · obtain ⟨held, rfl⟩ := pre
        exact framed_reviewsHeld s₀ _ rfl rfl rfl held
      · split
        · exact keeps_pure false
        · refine (quiet_record _ _ _).keepsReviews.bind fun _ => ?_
          split
          · exact ((quiet_answerCallbackQuery _ _ _).bind fun _ => quiet_pure true).keepsReviews
          · exact ((quiet_reply _ _).bind fun _ => quiet_pure true).keepsReviews
  · exact keeps_pure false

end Changing

/-! ### Reviewing -/

section Reviewing

variable (cfg : BotConfig) (u : Update)

theorem runs_finalize (admin : Binary64) (d : PendingDecision) (note : Option String) :
    Runs ReviewsHeld (Withheld admin d) (finalize cfg u admin d note) fun _ => ReviewsHeld := by
  unfold finalize
  refine (runs_onStore_recordDecision _).attempt.bind fun recorded => ?_
  cases recorded with
  | error e =>
    refine ((runs_conversations (P := Withheld admin d)).imp (fun _ held => held.2 e rfl) fun _ _ kept => kept).bind
      fun c => ?_
    exact runs_awaitNote.bind fun _ => runs_throw e fun _ held => held
  | ok entry =>
    dsimp only
    refine ((Quiet.keepsReviews ?_).weaken fun _ held => held.1 entry rfl)
    refine (quiet_record _ _ _).bind fun _ => (quiet_replyHtml _ _).bind fun _ => ?_
    refine (quiet_sendMessage _ _ _ _).attempt.bind fun sent => ?_
    split
    · exact quiet_pure ()
    · exact quiet_record _ _ _

theorem keeps_reviewPress : Keeps ReviewsHeld (reviewPress cfg u) := by
  unfold reviewPress
  split
  · split
    · rename_i action _
      refine (quiet_requireSender u).keepsReviews.bind fun sender => ?_
      dsimp only
      refine (quiet_isAdmin _).keepsReviews.bind fun allowed => ?_
      split
      · exact ((quiet_answerCallbackQuery _ _ _).bind fun _ => quiet_pure true).keepsReviews
      · refine runs_conversations.bind fun c => ?_
        split
        · exact (((quiet_answerCallbackQuery _ _ _).bind fun _ => quiet_pure true).keepsReviews).weaken
            fun _ held => held.1
        · rename_i waiting
          -- the admin has no decision waiting, and answering the press changes nothing
          have free : ∀ s, ReviewsHeld s ∧ c = s.conversations →
              ReviewsHeld s ∧ s.conversations.notePrompts.contains sender.id = false := by
            intro s pre
            obtain ⟨held, rfl⟩ := pre
            exact ⟨held, by simpa [Conversations.hasNotePrompt] using waiting⟩
          refine ((quiet_acknowledge u).runs (framed_reviewsHeld.read c) fun _ pre => pre.1).bind fun _ => ?_
          refine ((runs_onStore_pop (representable_ofNumeral action.applicant)).imp free fun _ _ kept => kept).bind
            fun popped => ?_
          cases popped with
          | none =>
            exact (((quiet_editText _ _).bind fun _ => quiet_pure true).keepsReviews).weaken fun _ held => held.1 rfl
          | some a =>
            -- the application's review is open, and its decision starts waiting
            refine ((runs_conversations (P := fun s => ∀ d : PendingDecision,
              d.applicantId = ofNumeral action.applicant → Withheld sender.id d s)).imp
                (fun _ held => held.2 a rfl) fun _ _ kept => kept).bind fun c' => ?_
            refine (runs_awaitNote.imp (fun _ pre => ⟨pre.1 _ rfl, pre.2⟩) fun _ _ kept => kept).bind fun _ => ?_
            exact ((quiet_record _ _ _).bind fun _ => (quiet_editMessageText _ _ _ _).bind fun _ =>
              quiet_pure true).keepsReviews
    · exact keeps_pure false
  · exact keeps_pure false

/-- "No note" takes the admin's waiting decision out of memory, answers the press, removes the
buttons and records the decision; with replies that accept both calls, the decision reaches
the recording. -/
theorem keeps_noteSkipPress : Keeps ReviewsHeld (noteSkipPress cfg u) := by
  unfold noteSkipPress
  split
  · split
    · refine (quiet_requireSender u).keepsReviews.bind fun sender => ?_
      dsimp only
      refine runs_conversations.bind fun c => ?_
      rcases takeNotePrompt_cases c sender.id (some (ofNumeral _)) none with taken | ⟨d, found, taken⟩
      · rw [taken]
        refine (runs_setConversations (by rfl)).bind fun _ => ?_
        exact ((quiet_answerCallbackQuery _ _ _).bind fun _ => quiet_pure true).keepsReviews
      · rw [taken]
        refine (runs_take found).bind fun _ => ?_
        refine (runs_acknowledge u (framed_withheld _ _) fun _ held => held.accepts).bind fun _ => ?_
        refine (runs_editMessageReplyMarkup u (framed_withheld _ _) fun _ held => held.accepts).bind fun _ => ?_
        exact (runs_finalize cfg u _ d none).bind fun _ => keeps_pure true
    · exact keeps_pure false
  · exact keeps_pure false

theorem keeps_noteReply : Keeps ReviewsHeld (noteReply cfg u) := by
  unfold noteReply
  split
  · split
    · split
      · exact keeps_pure false
      · dsimp only
        refine runs_conversations.bind fun c => ?_
        rcases takeNotePrompt_cases c _ none (some u.chat.id) with taken | ⟨d, found, taken⟩
        · rw [taken]
          exact (runs_setConversations (by rfl)).bind fun _ => keeps_pure false
        · rw [taken]
          refine (runs_take found).bind fun _ => ?_
          exact (runs_finalize cfg u _ d _).bind fun _ => keeps_pure true
    · exact keeps_pure false
  · exact keeps_pure false

end Reviewing

/-! ### Every update -/

theorem keeps_handlers (cfg : BotConfig) (u : Update) (ids : u.IdsHeld) :
    ∀ handler ∈ handlers cfg, Keeps ReviewsHeld (handler u) := by
  intro handler mem
  simp only [handlers, List.mem_cons, List.mem_nil_iff, or_false] at mem
  rcases mem with rfl | rfl | rfl | rfl | rfl | rfl | rfl | rfl | rfl | rfl | rfl
  · exact (quiet_pendingCommand u).keepsReviews
  · exact (quiet_reviewSkipPress u).keepsReviews
  · exact keeps_reviewPress cfg u
  · exact keeps_noteSkipPress cfg u
  · exact keeps_noteReply cfg u
  · exact (quiet_adminsCommand u).keepsReviews
  · exact keeps_promoteCommand cfg u
  · exact keeps_demoteCommand cfg u
  · -- private chats
    dsimp only
    split
    · refine keeps_firstTaking fun handler mem => ?_
      simp only [List.mem_cons, List.mem_nil_iff, or_false] at mem
      rcases mem with rfl | rfl | rfl | rfl | rfl
      · exact (quiet_startCommand u).keepsReviews
      · exact keeps_cancelCommand u
      · exact (quiet_statusCommand u).keepsReviews
      · exact keeps_withdrawCommand cfg u
      · exact keeps_intakeText cfg u ids
    · exact keeps_pure false
  · exact keeps_applyPress u
  · -- groups
    dsimp only
    split
    · refine keeps_firstTaking fun handler mem => ?_
      simp only [List.mem_cons, List.mem_nil_iff, or_false] at mem
      rcases mem with rfl | rfl | rfl | rfl
      · exact (quiet_xpCommand cfg u).keepsReviews
      · exact (quiet_cupsCommand cfg u).keepsReviews
      · exact keeps_addCupCommand cfg u ids
      · exact keeps_rewardText cfg u ids
    · exact keeps_pure false

theorem keeps_handleUpdate (cfg : BotConfig) (u : Update) (ids : u.IdsHeld) : Keeps ReviewsHeld (handleUpdate cfg u) := by
  unfold handleUpdate
  refine (Keeps.attempt ?_).bind fun handled => ?_
  · refine (quiet_commandLog u).keepsReviews.bind fun _ => (keeps_rateLimit u).bind fun limited => ?_
    split
    · exact keeps_pure ()
    · exact (keeps_firstTaking (keeps_handlers cfg u ids)).bind fun _ => keeps_pure ()
  · split
    · exact keeps_pure ()
    · refine ((quiet_record _ _ _).bind fun _ => (quiet_reply _ _).attempt.bind fun apologized => ?_).keepsReviews
      split
      · exact quiet_pure ()
      · exact quiet_record _ _ _

/-! ### Sessions -/

/-- A session step that leaves the open reviews to the bot: an update whose ids binary64
holds, a store action that leaves the reviews alone, the clock moving on, or prepared replies
that accept answering button presses and removing buttons. -/
def BotStep.KeepsReviews : BotStep → Prop
  | .update chat sender _ => chat.id.Representable ∧ ∀ s, sender = some s → s.id.Representable
  | .store a => a.KeepsReviews
  | .advance _ => True
  | .respond replies => AcceptsButtons replies

theorem acceptsButtons_foldl {base : List (String × ApiReply)} (accepts : AcceptsButtons base)
    {replies : List (String × ApiReply)} (fresh : AcceptsButtons replies) :
    AcceptsButtons (replies.foldl (fun acc p => PropertyOrder.set acc p.1 p.2) base) := by
  induction replies generalizing base with
  | nil => exact accepts
  | cons p rest ih =>
    have first : AcceptsButtons [p] := fun q mem => fresh q (List.mem_cons.mpr (.inl (List.mem_singleton.mp mem)))
    exact ih (acceptsButtons_set accepts first) fun q mem => fresh q (List.mem_cons_of_mem p mem)

namespace BotSession

/-- The session after the steps, each run on the session the one before it left. -/
def runSteps (cfg : BotConfig) (sess : BotSession) (steps : List BotStep) : BotSession :=
  steps.foldl (fun s st => (step cfg s st).2) sess

/-- A session whose bot holds its open reviews, over prepared replies of its own that accept
button calls. -/
structure ReviewsKept (sess : BotSession) : Prop where
  held : ReviewsHeld sess.state
  base : AcceptsButtons sess.baseReplies

variable {cfg : BotConfig}

theorem reviewsKept_start (cfg : BotConfig) (clock : Binary64) {replies : List (String × ApiReply)}
    (accepts : AcceptsButtons replies) : (start cfg clock replies).ReviewsKept := by
  refine ⟨⟨?_, accepts⟩, accepts⟩
  have loaded := Store.moves_load (f := cfg.file) (Session.start cfg.file clock none none)
  change ReviewsMatch (Session.settle (Store.load cfg.file) (Session.start cfg.file clock none none)).2.registry _
  rw [Session.settle_snd]
  rcases loaded with kept | ⟨doc, w, -, read⟩
  · rw [kept]
    exact ReviewsMatch.of_noReviews Ledger.consistent_empty rfl
  · rw [read]
    cases doc with
    | some d => exact ReviewsMatch.of_noReviews (Ledger.consistent_ofDocument d) rfl
    | none => exact ReviewsMatch.of_noReviews Ledger.consistent_empty rfl

theorem ReviewsKept.step {sess : BotSession} (kept : sess.ReviewsKept) {st : BotStep} (allowed : st.KeepsReviews) :
    (step cfg sess st).2.ReviewsKept := by
  cases st with
  | update chat sender event =>
    have cleared : ReviewsHeld { sess.state with calls := [], log := [] } :=
      framed_reviewsHeld sess.state _ rfl rfl rfl kept.held
    have handled := keeps_handleUpdate cfg ⟨sess.nextUpdate, chat, sender, event⟩ allowed _ cleared
    refine ⟨?_, kept.base⟩
    unfold BotSession.step
    dsimp only
    revert handled
    cases handleUpdate cfg ⟨sess.nextUpdate, chat, sender, event⟩ { sess.state with calls := [], log := [] } with
    | ok a s => exact id
    | error e s => exact id
  | store a =>
    refine ⟨⟨?_, kept.held.accepts⟩, kept.base⟩
    unfold BotSession.step
    dsimp only
    rw [Session.settle_snd]
    exact kept.held.matched.action allowed
  | advance ms => exact ⟨kept.held.of_same rfl rfl rfl, kept.base⟩
  | respond replies =>
    refine ⟨⟨kept.held.matched, ?_⟩, kept.base⟩
    exact acceptsButtons_foldl kept.base allowed

theorem ReviewsKept.runSteps {sess : BotSession} (kept : sess.ReviewsKept) {steps : List BotStep}
    (allowed : ∀ st ∈ steps, st.KeepsReviews) : (runSteps cfg sess steps).ReviewsKept := by
  induction steps generalizing sess with
  | nil => exact kept
  | cons st rest ih =>
    exact ih (kept.step (allowed st List.mem_cons_self)) fun st' mem => allowed st' (List.mem_cons_of_mem st mem)

/-- Every open review can be finished: in a session started on an empty store, with prepared
replies that never refuse answering a button press or removing a message's buttons, after
every run of steps that leave the reviews to the bot, a user is under review exactly when an
admin's decision waits for a note on them, and no two waiting decisions are for one
applicant. -/
theorem underReview_iff_decisionWaiting (cfg : BotConfig) (clock : Binary64) (replies : List (String × ApiReply))
    (accepts : AcceptsButtons replies) (steps : List BotStep) (allowed : ∀ st ∈ steps, st.KeepsReviews) :
    (∀ u, (runSteps cfg (start cfg clock replies) steps).state.store.registry.isUnderReview u = true ↔
        ∃ p ∈ (runSteps cfg (start cfg clock replies) steps).state.conversations.notePrompts.entries,
          sameValueZero p.2.applicantId u = true) ∧
      (runSteps cfg (start cfg clock replies) steps).state.conversations.notePrompts.entries.Pairwise
        fun p q => sameValueZero p.2.applicantId q.2.applicantId = false := by
  have kept : (runSteps cfg (start cfg clock replies) steps).ReviewsKept :=
    (reviewsKept_start cfg clock accepts).runSteps allowed
  exact ⟨kept.held.matched.held, kept.held.matched.applicantsApart⟩

-- Checking that the literal ids are on the grid unfolds `2 ^ 1074` one step at a time.
set_option maxRecDepth 20000 in
/-- The owner makes user 2 an admin, user 10 applies and answers the questionnaire, and the
admin approves and presses "No note": with replies that refuse nothing, after every one of
these updates the users under review are the applicants of the waiting decisions. -/
theorem underReview_iff_decisionWaiting_review :
    let cfg : BotConfig := ⟨default, ⟨"data/storage.enc", ⟨[], []⟩⟩⟩
    let owner : Sender := ⟨⟨1, some "Own", none, none⟩, false, none⟩
    let ann : Sender := ⟨⟨10, some "Ann", some "Lee", some "ann"⟩, false, some "en"⟩
    let ada : Sender := ⟨⟨2, some "Ada", some "Min", none⟩, false, none⟩
    let steps : List BotStep := [.update ⟨1, "private"⟩ (some owner) (.text "/promote 2"),
      .update ⟨10, "private"⟩ (some ann) (.press "apply"),
      .update ⟨10, "private"⟩ (some ann) (.text "I raid every weekend."),
      .update ⟨10, "private"⟩ (some ann) (.text "Dungeons"),
      .update ⟨10, "private"⟩ (some ann) (.text "Looking for a steady group."),
      .update ⟨200, "supergroup"⟩ (some ada) (.press "review:10:approve"),
      .update ⟨200, "supergroup"⟩ (some ada) (.press "note:10:skip")]
    AcceptsButtons [] ∧ (∀ st ∈ steps, st.KeepsReviews) ∧
      (∀ u, (runSteps cfg (start cfg 1714555800000 []) steps).state.store.registry.isUnderReview u = true ↔
          ∃ p ∈ (runSteps cfg (start cfg 1714555800000 []) steps).state.conversations.notePrompts.entries,
            sameValueZero p.2.applicantId u = true) ∧
        (runSteps cfg (start cfg 1714555800000 []) steps).state.conversations.notePrompts.entries.Pairwise
          fun p q => sameValueZero p.2.applicantId q.2.applicantId = false := by
  intro cfg owner ann ada steps
  have accepts : AcceptsButtons [] := fun _ mem => by cases mem
  have update : ∀ (chat : Chat) (sender : Sender) (event : Event), chat.id.Representable →
      sender.id.Representable → (BotStep.update chat (some sender) event).KeepsReviews :=
    fun _ _ _ held sent => ⟨held, fun _ same => by cases same; exact sent⟩
  have allowed : ∀ st ∈ steps, st.KeepsReviews := by
    intro st mem
    simp only [steps, List.mem_cons, List.mem_nil_iff, or_false] at mem
    rcases mem with rfl | rfl | rfl | rfl | rfl | rfl | rfl
    · exact update _ _ _ (representable_ofNat 1) (representable_ofNat 1)
    · exact update _ _ _ (representable_ofNat 10) (representable_ofNat 10)
    · exact update _ _ _ (representable_ofNat 10) (representable_ofNat 10)
    · exact update _ _ _ (representable_ofNat 10) (representable_ofNat 10)
    · exact update _ _ _ (representable_ofNat 10) (representable_ofNat 10)
    · exact update _ _ _ (representable_ofNat 200) (representable_ofNat 2)
    · exact update _ _ _ (representable_ofNat 200) (representable_ofNat 2)
  exact ⟨accepts, allowed, underReview_iff_decisionWaiting cfg 1714555800000 [] accepts steps allowed⟩

end BotSession

set_option maxRecDepth 20000 in
/-- Without the condition on the replies the reviews come apart: admin 2 waits on a decision
for user 10, and with answering a press refused, "No note" takes the decision out of memory
and fails before recording it. User 10 stays under review with no decision waiting. -/
theorem noteSkip_refused_strands_review :
    let cfg : BotConfig := ⟨default, ⟨"data/storage.enc", ⟨[], []⟩⟩⟩
    let d : PendingDecision := ⟨10, "Ann Lee", .approved, some "en", 200⟩
    let s : BotState := { (default : BotState) with
      store := ⟨⟨Ledger.empty, [10]⟩, ⟨Disk.empty, []⟩, 0⟩
      conversations := ⟨KeyMap.empty, KeyMap.empty.set 2 d⟩
      replies := [("answerCallbackQuery", .refusal 400 "Bad Request: query is too old")] }
    let u : Update := ⟨7, ⟨200, "supergroup"⟩, some ⟨⟨2, some "Ada", some "Min", none⟩, false, none⟩,
      .press "note:10:skip"⟩
    ReviewsMatch s.store.registry s.conversations.notePrompts ∧
      ¬ ReviewsMatch (stateAfter (noteSkipPress cfg u s)).store.registry
        (stateAfter (noteSkipPress cfg u s)).conversations.notePrompts := by
  intro cfg d s u
  have entries : (KeyMap.empty.set 2 d).entries = [(2, d)] := by decide +kernel
  -- before the press: user 10 is under review, and admin 2's decision for 10 waits
  have before : ReviewsMatch s.store.registry s.conversations.notePrompts := by
    refine ⟨Ledger.consistent_empty, fun _ _ => rfl, ?_, ?_, ?_, fun v => ?_⟩
    · rw [entries]
      exact List.pairwise_singleton _ _
    · rw [entries]
      exact List.pairwise_singleton _ _
    · intro p mem
      rw [entries, List.mem_singleton] at mem
      rw [mem]
      exact representable_ofNat 10
    · change [(10 : Binary64)].any (sameValueZero · v) = true ↔ _
      rw [entries]
      simp [d]
  -- after it: the press failed with user 10 still under review and nothing waiting
  have after : (stateAfter (noteSkipPress cfg u s)).store.registry.isUnderReview 10 = true ∧
      (stateAfter (noteSkipPress cfg u s)).conversations.notePrompts.entries = [] := by
    decide +kernel
  refine ⟨before, fun matched => ?_⟩
  obtain ⟨p, mem, -⟩ := (matched.held 10).mp after.1
  rw [after.2] at mem
  cases mem

end GuildRegistry.Bot
