import GuildRegistry.Guild.Records
import GuildRegistry.Text.Blank
import GuildRegistry.Text.Units

/-! The application questionnaire.

A session remembers which question is next, the answers so far and the applicant's language. An
answer is trimmed and must be within the question's length bounds, counted in UTF-16 units; a
rejected answer leaves the session as it was. The last accepted answer completes the questionnaire
with all responses.
-/

set_option autoImplicit false

namespace GuildRegistry.Bot

/-- A question with the length bounds of its answer. -/
structure Question where
  id : String
  prompt : String
  minLength : Binary64
  maxLength : Binary64
  deriving DecidableEq, Repr, Inhabited

/-- The built-in questions. -/
def defaultQuestions : List Question :=
  [⟨"about", "Tell us a little about yourself.", 10, 600⟩,
    ⟨"experience", "Which games or communities have you been part of before?", 3, 600⟩,
    ⟨"motivation", "Why do you want to join the guild?", 10, 800⟩]

/-- How far an applicant got. -/
structure IntakeSession where
  step : Nat
  responses : List Response
  languageCode : Option String
  deriving DecidableEq, Repr, Inhabited

/-- What an answer leads to. -/
inductive IntakeStep where
  /-- The answer is refused, as too long or too short, and the question stands. -/
  | invalid (tooLong : Bool) (question : Question)
  /-- The answer is taken and the next question follows. -/
  | next (session : IntakeSession) (question : Question)
  /-- The questionnaire is complete with these responses. -/
  | complete (responses : List Response)
  deriving Repr

/-- Starts a questionnaire, which needs a first question. -/
def startIntake (languageCode : Option String) (questions : List Question) :
    Except String (IntakeSession × Question) :=
  match questions with
  | q :: _ => .ok (⟨0, [], languageCode⟩, q)
  | [] => .error "intake needs at least one question"

/-- The question the session is at, if any is left. -/
def currentQuestion (questions : List Question) (s : IntakeSession) : Option Question :=
  questions[s.step]?

/-- Applies one answer. -/
def answerIntake (questions : List Question) (s : IntakeSession) (text : String) : IntakeStep :=
  match currentQuestion questions s with
  | none => .complete s.responses
  | some q =>
    let answer := Text.trim text
    let length := Binary64.ofNat (Text.units16 answer)
    if Binary64.lt length q.minLength then .invalid false q
    else if Binary64.lt q.maxLength length then .invalid true q
    else
      let responses := s.responses ++ [⟨q.id, q.prompt, answer⟩]
      match questions[s.step + 1]? with
      | none => .complete responses
      | some next => .next { s with step := s.step + 1, responses } next

end GuildRegistry.Bot
