import GuildRegistry.Unicode.LabelClasses

/-! The rules a label of an internationalized domain name must keep.

A label may not start with a mark. The first zero-width joiner or non-joiner in it settles the label
on its own: after a virama either one is allowed; otherwise a joiner is not, and a non-joiner needs
a letter joining forward somewhere before it and one joining backward somewhere after it (not at
either end).
-/

set_option autoImplicit false

namespace GuildRegistry.Domain

open Unicode

/-- The zero-width non-joiner. -/
def nonJoiner : Nat := 0x200C

/-- The zero-width joiner. -/
def joiner : Nat := 0x200D

/-- Whether the first joiner or non-joiner of a label, at the head of `after` with
`before` (reversed) in front of it, is allowed; none when `after` has neither. -/
def joinerVerdict : List Nat → List Nat → Option Bool
  | _, [] => none
  | before, c :: after =>
    if c == nonJoiner || c == joiner then
      if before.head?.any isVirama then some true
      else if c == joiner then some false
      else if before.isEmpty || after.isEmpty then some false
      else some (before.any joinsForward && after.any joinsBackward)
    else joinerVerdict (c :: before) after

/-- Whether a bidi class may stand in a left-to-right label that holds right-to-left text. -/
def leftToRightAllows : BidiClass → Bool
  | .leftToRight | .europeanNumber | .neutral | .nonspacingMark => true
  | _ => false

/-- Whether a bidi class may stand in a right-to-left label. -/
def rightToLeftAllows : BidiClass → Bool
  | .rightToLeft | .arabicNumber | .europeanNumber | .neutral | .nonspacingMark => true
  | _ => false

/-- Whether a bidi class may end a right-to-left label. -/
def rightToLeftEnds : BidiClass → Bool
  | .rightToLeft | .arabicNumber | .europeanNumber => true
  | _ => false

/-- Whether a label keeps the bidi rule, given the classes of its characters. -/
def bidiValid (classes : List BidiClass) : Bool :=
  let last := classes.length - 1 - (classes.reverse.takeWhile (· == .nonspacingMark)).length
  if classes.all (· == .nonspacingMark) then false
  else if classes.any (fun b => b == .rightToLeft || b == .arabicNumber) then
    if classes.head? == some .leftToRight then (classes.take last).all leftToRightAllows
    else
      let body := classes.take (last + 1)
      body.all rightToLeftAllows &&
        !(body.contains .europeanNumber && body.contains .arabicNumber) &&
        (body.getLast?.any rightToLeftEnds)
  else true

/-- Whether a label keeps the mark, joiner and bidi rules. The empty label does. -/
def labelValid (label : List Nat) : Bool :=
  match label with
  | [] => true
  | first :: _ =>
    if isMark first then false
    else match joinerVerdict [] label with
      | some verdict => verdict
      | none => bidiValid (label.map BidiClass.of)

end GuildRegistry.Domain
