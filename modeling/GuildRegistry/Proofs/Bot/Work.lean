import GuildRegistry.Bot.Session
import GuildRegistry.Proofs.Store.Atomic
import Mathlib

/-! The bot's work on an update, step by step.

Work on an update either returns an answer or fails, keeping what it did before the failure. `Runs I
P op Q` says that, started where `P` holds, the work returns only where `Q` holds of its answer, and
fails only where `I` holds; `Keeps I op` says that it keeps `I` either way. Both are built up the
way the work is: by `bind`, `pure`, `throw`, catching a failure, loops and trying handlers in order.
-/

set_option autoImplicit false

namespace GuildRegistry.Bot

variable {α β γ : Type}

/-- Started where `P` holds, the work returns only where `Q` holds of its answer, and fails
only where `I` holds. -/
def Runs (I P : BotState → Prop) (op : BotM α) (Q : α → BotState → Prop) : Prop :=
  ∀ s, P s → match op s with
    | .ok a s' => Q a s'
    | .error _ s' => I s'

/-- Work that keeps `I`, whether it returns or fails. -/
def Keeps (I : BotState → Prop) (op : BotM α) : Prop := Runs I I op fun _ => I

section Runs

variable {I P P' : BotState → Prop} {Q Q' : α → BotState → Prop}

theorem Runs.bind {x : BotM α} {k : α → BotM β} {R : α → BotState → Prop} {Q : β → BotState → Prop}
    (hx : Runs I P x R) (hk : ∀ a, Runs I (R a) (k a) Q) : Runs I P (x >>= k) Q := by
  intro s hs
  have first := hx s hs
  cases ran : x s with
  | ok a s₁ =>
    rw [ran] at first
    rw [bind_run_ok ran]
    exact hk a s₁ first
  | error e s₁ =>
    rw [ran] at first
    rw [bind_run_error ran]
    exact first

theorem runs_pure (a : α) (h : ∀ s, P s → Q a s) : Runs I P (pure a) Q := h

theorem runs_get : Runs I P (get : BotM BotState) fun a s => P s ∧ a = s := fun _ hs => ⟨hs, rfl⟩

theorem runs_set {v : BotState} {Q : PUnit → BotState → Prop} (h : ∀ s, P s → Q ⟨⟩ v) : Runs I P (set v) Q := h

theorem runs_throw (e : BotError) (h : ∀ s, P s → I s) : Runs I P (throw e : BotM α) Q := h

theorem Runs.imp {op : BotM α} (h : Runs I P op Q) (pre : ∀ s, P' s → P s) (post : ∀ a s, Q a s → Q' a s) :
    Runs I P' op Q' := by
  intro s hs
  have ran := h s (pre s hs)
  revert ran
  cases op s with
  | ok a s' => exact post a s'
  | error e s' => exact id

theorem Runs.of_state {op : BotM α} (h : ∀ s₀, Runs I (fun s => P s ∧ s = s₀) op Q) : Runs I P op Q :=
  fun s hs => h s s ⟨hs, rfl⟩

theorem Runs.attempt {J : BotState → Prop} {op : BotM α} (h : Runs J P op Q) :
    Runs I P (BotM.attempt op) fun r s => (∀ a, r = .ok a → Q a s) ∧ (∀ e, r = .error e → J s) := by
  intro s hs
  have ran := h s hs
  unfold BotM.attempt
  revert ran
  cases op s with
  | ok a s' => exact fun done => ⟨(fun b same => by cases same; exact done), (fun e same => by cases same)⟩
  | error e s' => exact fun failed => ⟨(fun b same => by cases same), (fun e' _ => failed)⟩

theorem Keeps.bind {x : BotM α} {k : α → BotM β} (hx : Keeps I x) (hk : ∀ a, Keeps I (k a)) : Keeps I (x >>= k) :=
  Runs.bind hx hk

theorem keeps_pure (a : α) : Keeps I (pure a) := runs_pure a fun _ held => held

theorem keeps_throw (e : BotError) : Keeps I (throw e : BotM α) := runs_throw e fun _ held => held

theorem Keeps.attempt {op : BotM α} (h : Keeps I op) : Keeps I (BotM.attempt op) := by
  refine (Runs.attempt h).imp (fun _ held => held) fun r s answered => ?_
  cases r with
  | ok a => exact answered.1 a rfl
  | error e => exact answered.2 e rfl

theorem Keeps.forIn {xs : List β} {f : β → γ → BotM (ForInStep γ)} (hf : ∀ x c, Keeps I (f x c)) (c : γ) :
    Keeps I (forIn xs c f) := by
  induction xs generalizing c with
  | nil => exact keeps_pure c
  | cons x xs ih =>
    rw [List.forIn_cons]
    refine (hf x c).bind fun step => ?_
    cases step with
    | done c' => exact keeps_pure c'
    | yield c' => exact ih c'

theorem keeps_firstTaking {hs : List (Update → BotM Bool)} {u : Update} (h : ∀ handler ∈ hs, Keeps I (handler u)) :
    Keeps I (firstTaking hs u) := by
  induction hs with
  | nil => exact keeps_pure false
  | cons handler rest ih =>
    unfold firstTaking
    refine (h handler List.mem_cons_self).bind fun taken => ?_
    split
    · exact keeps_pure true
    · exact ih fun other mem => h other (List.mem_cons_of_mem handler mem)

end Runs

/-! ### Work that leaves the store, the bot's memory and the prepared replies as they were -/

/-- Work that leaves the store, what the bot remembers and the prepared replies as they were,
whether it returns or fails. -/
def Quiet (op : BotM α) : Prop :=
  ∀ s, (stateAfter (op s)).store = s.store ∧ (stateAfter (op s)).conversations = s.conversations ∧
    (stateAfter (op s)).replies = s.replies

/-- A property of the store, what the bot remembers and the prepared replies only. -/
def Framed (P : BotState → Prop) : Prop :=
  ∀ s s', s'.store = s.store → s'.conversations = s.conversations → s'.replies = s.replies → P s → P s'

/-- The prepared reply to a call: the one for its method and chat, else the one for its method. -/
def replyFor (replies : List (String × ApiReply)) (method : String) (payload : List (String × Json)) :
    Option ApiReply :=
  match PropertyOrder.get? replies (method ++ ":" ++ BotM.chatKey payload) with
  | some r => some r
  | none => PropertyOrder.get? replies method

theorem call_run (method : String) (payload : List (String × Json)) (s : BotState) :
    BotM.call method payload s =
      match replyFor s.replies method payload with
      | some (.success r) => .ok r { s with calls := s.calls ++ [⟨method, payload⟩] }
      | some (.refusal code description) =>
        .error (.api method code description) { s with calls := s.calls ++ [⟨method, payload⟩] }
      | none => .ok (BotM.defaultResult method payload) { s with calls := s.calls ++ [⟨method, payload⟩] } := by
  unfold BotM.call replyFor
  simp only [bind, EStateM.bind, modify, modifyGet, MonadStateOf.modifyGet, EStateM.modifyGet, get,
    getThe, MonadStateOf.get, EStateM.get]
  cases PropertyOrder.get? s.replies (method ++ ":" ++ BotM.chatKey payload) with
  | some r => cases r <;> rfl
  | none =>
    cases PropertyOrder.get? s.replies method with
    | none => rfl
    | some r => cases r <;> rfl

section Quiet

theorem quiet_pure (a : α) : Quiet (pure a : BotM α) := fun _ => ⟨rfl, rfl, rfl⟩

theorem quiet_throw (e : BotError) : Quiet (throw e : BotM α) := fun _ => ⟨rfl, rfl, rfl⟩

theorem quiet_get : Quiet (get : BotM BotState) := fun _ => ⟨rfl, rfl, rfl⟩

theorem Quiet.bind {x : BotM α} {k : α → BotM β} (hx : Quiet x) (hk : ∀ a, Quiet (k a)) : Quiet (x >>= k) := by
  intro s
  have first := hx s
  cases ran : x s with
  | ok a s₁ =>
    rw [ran] at first
    rw [bind_run_ok ran]
    obtain ⟨store, conversations, replies⟩ := hk a s₁
    exact ⟨store.trans first.1, conversations.trans first.2.1, replies.trans first.2.2⟩
  | error e s₁ =>
    rw [ran] at first
    rw [bind_run_error ran]
    exact first

theorem Quiet.attempt {op : BotM α} (h : Quiet op) : Quiet (BotM.attempt op) := by
  intro s
  have kept := h s
  unfold BotM.attempt
  revert kept
  cases op s <;> exact id

theorem Quiet.runs {I P : BotState → Prop} {op : BotM α} (h : Quiet op) (framed : Framed P) (held : ∀ s, P s → I s) :
    Runs I P op fun _ => P := by
  intro s hs
  obtain ⟨store, conversations, replies⟩ := h s
  have kept := framed s _ store conversations replies hs
  revert kept
  cases op s with
  | ok a s' => exact id
  | error e s' => exact held s'

theorem Quiet.keeps {I : BotState → Prop} {op : BotM α} (h : Quiet op) (framed : Framed I) : Keeps I op :=
  h.runs framed fun _ held => held

theorem Quiet.forIn {xs : List β} {f : β → γ → BotM (ForInStep γ)} (hf : ∀ x c, Quiet (f x c)) (c : γ) :
    Quiet (forIn xs c f) := by
  induction xs generalizing c with
  | nil => exact quiet_pure c
  | cons x xs ih =>
    rw [List.forIn_cons]
    refine (hf x c).bind fun step => ?_
    cases step with
    | done c' => exact quiet_pure c'
    | yield c' => exact ih c'

theorem Quiet.mapM {xs : List β} {f : β → BotM γ} (hf : ∀ x, Quiet (f x)) : Quiet (xs.mapM f) := by
  induction xs with
  | nil => exact quiet_pure []
  | cons x xs ih =>
    rw [List.mapM_cons]
    exact (hf x).bind fun b => ih.bind fun bs => quiet_pure _

theorem quiet_record (level : LogLevel) (message : String) (fields : List (String × Json)) :
    Quiet (BotM.record level message fields) := fun _ => ⟨rfl, rfl, rfl⟩

theorem quiet_call (method : String) (payload : List (String × Json)) : Quiet (BotM.call method payload) := by
  intro s
  rw [call_run]
  split <;> exact ⟨rfl, rfl, rfl⟩

theorem quiet_registry : Quiet BotM.registry := fun _ => ⟨rfl, rfl, rfl⟩

theorem quiet_conversations : Quiet BotM.conversations := fun _ => ⟨rfl, rfl, rfl⟩

theorem quiet_isAdmin (user : Binary64) : Quiet (isAdmin user) := fun _ => ⟨rfl, rfl, rfl⟩

theorem quiet_requireSender (u : Update) : Quiet (requireSender u) := by
  unfold requireSender
  split
  · exact quiet_pure _
  · exact quiet_throw _

theorem quiet_sendMessage (chat : Binary64) (text : String) (html : Bool) (keyboard : Option Keyboard) :
    Quiet (sendMessage chat text html keyboard) :=
  (quiet_call _ _).bind fun _ => quiet_pure _

theorem quiet_reply (u : Update) (text : String) : Quiet (reply u text) := quiet_sendMessage _ _ _ _

theorem quiet_replyHtml (u : Update) (text : String) : Quiet (replyHtml u text) := quiet_sendMessage _ _ _ _

theorem quiet_editMessageText (u : Update) (text : String) (html : Bool) (keyboard : Option Keyboard) :
    Quiet (editMessageText u text html keyboard) :=
  (quiet_call _ _).bind fun _ => quiet_pure _

theorem quiet_editText (u : Update) (text : String) : Quiet (editText u text) := quiet_editMessageText _ _ _ _

theorem quiet_editMessageReplyMarkup (u : Update) : Quiet (editMessageReplyMarkup u) :=
  (quiet_call _ _).bind fun _ => quiet_pure _

theorem quiet_answerCallbackQuery (u : Update) (notice : Option String) (alert : Bool) :
    Quiet (answerCallbackQuery u notice alert) :=
  (quiet_call _ _).bind fun _ => quiet_pure _

theorem quiet_acknowledge (u : Update) : Quiet (acknowledge u) := quiet_answerCallbackQuery _ _ _

theorem quiet_getChatMember (chat user : Binary64) : Quiet (getChatMember chat user) := quiet_call _ _

theorem quiet_postForReview (chat : Binary64) (a : Application) : Quiet (postForReview chat a) := by
  refine (quiet_sendMessage _ _ _ _).attempt.bind fun posted => ?_
  cases posted with
  | ok u => exact quiet_pure _
  | error e => exact quiet_record _ _ _

theorem quiet_memberName (chat user : Binary64) : Quiet (memberName chat user) := by
  have unavailable := (quiet_record .debug "member name unavailable"
    [("t", .str "group"), ("chat_id", .num chat), ("user", .num user)]).bind fun _ =>
      quiet_pure (Json.str ("User " ++ user.format))
  refine (quiet_getChatMember chat user).attempt.bind fun found => ?_
  split
  · split
    · exact quiet_pure _
    · exact unavailable
  · exact unavailable

theorem quiet_canManageCups (chat user : Binary64) : Quiet (canManageCups chat user) := by
  refine (quiet_isAdmin user).bind fun admin => ?_
  split
  · exact quiet_pure true
  · refine (quiet_getChatMember chat user).attempt.bind fun found => ?_
    split
    · exact quiet_pure _
    · exact (quiet_record _ _ _).bind fun _ => quiet_pure false
    · exact quiet_pure false
    · exact (quiet_record _ _ _).bind fun _ => quiet_pure false

end Quiet

theorem runs_conversations {I P : BotState → Prop} :
    Runs I P BotM.conversations fun c s => P s ∧ c = s.conversations :=
  fun _ hs => ⟨hs, rfl⟩

/-! ### Bot API calls that the prepared replies accept -/

/-- The calls that answer a button press and remove a message's buttons. -/
def buttonMethods : List String := ["answerCallbackQuery", "editMessageReplyMarkup"]

/-- Prepared replies that never refuse answering a button press or removing a message's
buttons, whatever the chat. -/
def AcceptsButtons (replies : List (String × ApiReply)) : Prop :=
  ∀ p ∈ replies, ∀ method ∈ buttonMethods, (p.1 = method ∨ ∃ chat, p.1 = method ++ ":" ++ chat) →
    ∀ code description, p.2 ≠ .refusal code description

theorem mem_of_get? {replies : List (String × ApiReply)} {key : String} {r : ApiReply}
    (found : PropertyOrder.get? replies key = some r) : (key, r) ∈ replies := by
  unfold PropertyOrder.get? at found
  obtain ⟨p, located, rfl⟩ := Option.map_eq_some_iff.mp found
  have same : p.1 = key := by simpa using List.find?_some located
  have mem := List.mem_of_find?_eq_some located
  rw [← same]
  exact mem

theorem call_of_acceptsButtons {method : String} (button : method ∈ buttonMethods)
    (payload : List (String × Json)) {s : BotState} (accepts : AcceptsButtons s.replies) :
    ∃ r, BotM.call method payload s = .ok r { s with calls := s.calls ++ [⟨method, payload⟩] } := by
  have notRefused : ∀ key, (key = method ∨ ∃ chat, key = method ++ ":" ++ chat) →
      ∀ code description, PropertyOrder.get? s.replies key ≠ some (.refusal code description) :=
    fun key named code description found => accepts _ (mem_of_get? found) method button named code description rfl
  rw [call_run]
  cases found : replyFor s.replies method payload with
  | none => exact ⟨_, rfl⟩
  | some r =>
    cases r with
    | success j => exact ⟨j, rfl⟩
    | refusal code description =>
      -- the reply for the chat comes first, then the reply for the method
      exfalso
      unfold replyFor at found
      split at found
      · rename_i r byChat
        cases found
        exact notRefused _ (.inr ⟨_, rfl⟩) code description byChat
      · exact notRefused _ (.inl rfl) code description found

theorem runs_call_of_acceptsButtons {I P : BotState → Prop} {method : String} (button : method ∈ buttonMethods)
    (payload : List (String × Json)) (framed : Framed P) (accepts : ∀ s, P s → AcceptsButtons s.replies) :
    Runs I P (BotM.call method payload) fun _ => P := by
  intro s hs
  obtain ⟨r, called⟩ := call_of_acceptsButtons button payload (accepts s hs)
  rw [called]
  exact framed s _ rfl rfl rfl hs

theorem runs_acknowledge {I P : BotState → Prop} (u : Update) (framed : Framed P)
    (accepts : ∀ s, P s → AcceptsButtons s.replies) : Runs I P (acknowledge u) fun _ => P :=
  (runs_call_of_acceptsButtons (by simp [buttonMethods]) _ framed accepts).bind fun _ =>
    runs_pure _ fun _ held => held

theorem runs_editMessageReplyMarkup {I P : BotState → Prop} (u : Update) (framed : Framed P)
    (accepts : ∀ s, P s → AcceptsButtons s.replies) : Runs I P (editMessageReplyMarkup u) fun _ => P :=
  (runs_call_of_acceptsButtons (by simp [buttonMethods]) _ framed accepts).bind fun _ =>
    runs_pure _ fun _ held => held

theorem acceptsButtons_set {replies : List (String × ApiReply)} (accepts : AcceptsButtons replies)
    {key : String} {r : ApiReply} (fresh : AcceptsButtons [(key, r)]) :
    AcceptsButtons (PropertyOrder.set replies key r) := by
  intro p mem
  unfold PropertyOrder.set at mem
  split at mem
  · obtain ⟨q, held, rfl⟩ := List.mem_map.mp mem
    split
    · rename_i same
      have keyed : q.1 = key := by simpa using same
      rw [keyed]
      exact fresh _ List.mem_cons_self
    · exact accepts q held
  · split at mem
    · rcases PropertyOrder.mem_insertIndexed.mp mem with rfl | held
      · exact fresh _ List.mem_cons_self
      · exact accepts p held
    · rcases List.mem_append.mp mem with held | added
      · exact accepts p held
      · rw [List.mem_singleton.mp added]
        exact fresh _ List.mem_cons_self

end GuildRegistry.Bot
