import GuildRegistry.Store.Registry

/-! Reading command arguments.

A user identifier is the first word of the arguments when it is an optional minus sign and ASCII
digits naming a safe integer. Cup arguments are three parts separated by `|`: a title that must not
be empty, a description, and a podium of names separated by commas (Latin or Arabic), blank names
dropped.
-/

set_option autoImplicit false

namespace GuildRegistry.Bot

/-- Whether a word is an optional minus sign followed by ASCII digits. -/
def isIntegerWord (s : String) : Bool :=
  let digits := match s.toList with
    | '-' :: rest => rest
    | cs => cs
  !digits.isEmpty && digits.all Char.isDigit

/-- The user identifier at the start of a command's arguments. -/
def parseUserId (raw : String) : Option Binary64 :=
  let word := Text.firstWord (Text.trim raw)
  if !isIntegerWord word then none
  else
    let id := Binary64.ofNumeral word
    if id.isSafeInteger then some id else none

/-- Splits a character list at every character that satisfies a test. -/
def splitWhere (p : Char → Bool) : List Char → List (List Char)
  | [] => [[]]
  | c :: cs =>
    let rest := splitWhere p cs
    if p c then [] :: rest
    else match rest with
      | part :: parts => (c :: part) :: parts
      | [] => [[c]]

/-- The cup named by `title | description | first, second, third`. -/
def parseCupArgs (raw : String) : Option NewCup :=
  match (splitWhere (· == '|') raw.toList).map (Text.trim ∘ String.ofList) with
  | [title, description, podium] =>
    if title.isEmpty then none
    else
      let names := (splitWhere (fun c => c == ',' || c == '،') podium.toList).map
        (Text.trim ∘ String.ofList)
      some ⟨title, description, names.filter (!·.isEmpty)⟩
  | _ => none

/-- A score is a milestone at every fifth message reward. -/
def isXpMilestone (score reward : Binary64) : Bool :=
  Binary64.lt 0 reward && Binary64.lt 0 score && Binary64.eq (score % (reward * 5)) 0

end GuildRegistry.Bot
