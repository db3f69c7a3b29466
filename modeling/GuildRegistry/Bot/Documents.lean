import GuildRegistry.Bot.Conversation
import GuildRegistry.Json.Access

/-! The questionnaire and the waiting decisions, kept as documents handed in from outside.

A session document is read as the questionnaire reads its session: its `step` names the current
question among the questions (see `Json.keyText`), and its `responses` are the answers so far.
-/

set_option autoImplicit false

namespace GuildRegistry.Bot

/-- A question as a document. -/
def Question.toJson (q : Question) : Json :=
  .obj [("id", .str q.id), ("prompt", .str q.prompt), ("minLength", .num q.minLength),
    ("maxLength", .num q.maxLength)]

/-- A session as a document. -/
def IntakeSession.toJson (s : IntakeSession) : Json :=
  .obj [("step", Json.ofNat s.step), ("responses", .arr (s.responses.map Response.toJson)),
    ("languageCode", Json.ofOption s.languageCode)]

/-- The built-in questions as a document. -/
def defaultQuestionsDocument : Json := .arr (defaultQuestions.map Question.toJson)

/-- Why a questionnaire given as documents cannot go on. -/
inductive IntakeFailure where
  /-- A value is read in a way its kind does not allow. -/
  | typeError (message : String)
  /-- A questionnaire is started without a first question. -/
  | noQuestion
  deriving DecidableEq, Repr

/-- The kind of a failure. -/
def IntakeFailure.name : IntakeFailure → String
  | .typeError _ => "TypeError"
  | .noQuestion => "Error"

/-- The message of a failure. -/
def IntakeFailure.message : IntakeFailure → String
  | .typeError m => m
  | .noQuestion => "intake needs at least one question"

/-- What an answer to a questionnaire given as documents leads to. -/
inductive DocumentStep where
  /-- The answer is refused, as too long or too short, and the question stands. -/
  | invalid (tooLong : Bool) (question : Json)
  /-- The answer is taken; the session goes on to the next question. -/
  | next (session question : Json)
  /-- The questionnaire is complete with these responses, if the session has any. -/
  | complete (responses : Option Json)
  deriving Repr

/-- A step as a document. -/
def DocumentStep.toJson : DocumentStep → Json
  | .invalid long q =>
    .obj [("kind", .str "invalid"), ("reason", .str (if long then "too_long" else "too_short")),
      ("question", q)]
  | .next s q => .obj [("kind", .str "next"), ("session", s), ("question", q)]
  | .complete rs => Json.objectOf [("kind", some (.str "complete")), ("responses", rs)]

namespace IntakeDocument

/-- Reads a member, failing as a type error. -/
def read (v : Option Json) (key : String) : Except IntakeFailure (Option Json) :=
  match Json.member v key with
  | .ok r => .ok r
  | .error m => .error (.typeError m)

/-- Converts a value as reading it as a number or as a key does, failing as a type error. -/
def convertible (v : Option Json) : Except IntakeFailure Unit :=
  match Json.convert v with
  | .ok () => .ok ()
  | .error m => .error (.typeError m)

/-- Starts a questionnaire: its first question must count as true. -/
def start (languageCode : Json) (questions : Json) : Except IntakeFailure (Json × Json) := do
  let first ← read (some questions) "0"
  match first with
  | some q =>
    if Json.truthy first then
      pure (.obj [("step", Json.ofNat 0), ("responses", .arr []), ("languageCode", languageCode)], q)
    else throw .noQuestion
  | none => throw .noQuestion

/-- The question the session is at, if any; `null` counts as none. -/
def current (questions : Json) (session : Option Json) : Except IntakeFailure (Option Json) := do
  let step ← read session "step"
  convertible step
  match ← read (some questions) (Json.keyText step) with
  | some .null => pure none
  | q => pure q

/-- The text of an answer. -/
def answerText : Option Json → Except IntakeFailure String
  | some (.str s) => .ok s
  | none => .error (.typeError (Json.unreadable "undefined" "trim"))
  | some .null => .error (.typeError (Json.unreadable "null" "trim"))
  | some _ => .error (.typeError "text.trim is not a function")

/-- Applies one answer to a session. -/
def answer (questions : Json) (session : Option Json) (text : Option Json) :
    Except IntakeFailure DocumentStep := do
  let question ← current questions session
  let some q := question | return .complete (← read session "responses")
  if !Json.truthy question then return .complete (← read session "responses")
  let answer := Text.trim (← answerText text)
  let length := Binary64.ofNat (Text.units16 answer)
  let minLength ← read question "minLength"
  convertible minLength
  if Binary64.lt length (Json.toNumber minLength) then return .invalid false q
  let maxLength ← read question "maxLength"
  convertible maxLength
  if Binary64.lt (Json.toNumber maxLength) length then return .invalid true q
  let earlier ← match Json.items (← read session "responses") "session.responses" with
    | .ok xs => pure xs
    | .error m => throw (.typeError m)
  let response := Json.objectOf
    [("question_id", ← read question "id"), ("question", ← read question "prompt"),
      ("answer", some (.str answer))]
  let responses := Json.arr (earlier ++ [response])
  let step := Json.plusOne (← read session "step")
  let next ← read (some questions) (Json.keyText (some step))
  match next with
  | some n =>
    if Json.truthy next then
      return .next (.obj (Json.Members.ofList (Json.spread session ++
        [("step", step), ("responses", responses)]))) n
    else return .complete (some responses)
  | none => return .complete (some responses)

end IntakeDocument

/-- Whether a waiting decision document is taken for the given applicant and chat. -/
def decisionFits (applicant chat : Option Json) (decision : Option Json) : Bool :=
  let fitsGiven (given : Option Json) (key : String) : Bool :=
    given.isNone || Json.strictEq ((Json.member decision key).toOption.join) given
  Json.truthy decision && fitsGiven applicant "applicantId" && fitsGiven chat "chatId"

end GuildRegistry.Bot
