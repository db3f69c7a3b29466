import GuildRegistry.Unicode.RangeTable
import GuildRegistry.Unicode.LabelClassesData

/-! The character classes that the label rules of internationalized domain names consult:
marks, bidi classes, joining types and viramas, as tabulated in `LabelClassesData`.
-/

set_option autoImplicit false

namespace GuildRegistry.Unicode

/-- The bidi classes as the label rules tell them apart. -/
inductive BidiClass where
  /-- L. -/
  | leftToRight
  /-- R and AL. -/
  | rightToLeft
  /-- AN. -/
  | arabicNumber
  /-- EN. -/
  | europeanNumber
  /-- ES, CS, ET, ON and BN, which both directions allow. -/
  | neutral
  /-- NSM. -/
  | nonspacingMark
  /-- Any other class, or none. -/
  | other
  deriving DecidableEq, Repr, Inhabited

/-- The class an entry of the bidi table gives. -/
def readBidiClass (tag : Char) (_ : List Char) : Option BidiClass :=
  match tag with
  | 'l' => some .leftToRight
  | 'r' => some .rightToLeft
  | 'n' => some .arabicNumber
  | 'g' => some .europeanNumber
  | 'w' => some .neutral
  | 's' => some .nonspacingMark
  | 'o' => some .other
  | _ => none

/-- The bidi classes. -/
def bidiTable : RangeTable BidiClass := RangeTable.ofText .other readBidiClass bidiClassText

/-- The bidi class of a code point. -/
def BidiClass.of (cp : Nat) : BidiClass := bidiTable.find cp

/-- The marks. -/
def markTable : RangeTable Bool := RangeTable.ofFlags markText

/-- Whether a code point is a mark. -/
def isMark (cp : Nat) : Bool := markTable.find cp

/-- The letters that join forward. -/
def joinsForwardTable : RangeTable Bool := RangeTable.ofFlags joinsForwardText

/-- Whether a letter joins to the letter after it (joining type L or D). -/
def joinsForward (cp : Nat) : Bool := joinsForwardTable.find cp

/-- The letters that join backward. -/
def joinsBackwardTable : RangeTable Bool := RangeTable.ofFlags joinsBackwardText

/-- Whether a letter joins to the letter before it (joining type R or D). -/
def joinsBackward (cp : Nat) : Bool := joinsBackwardTable.find cp

/-- The viramas. -/
def viramaTable : RangeTable Bool := RangeTable.ofFlags viramaText

/-- Whether a code point is a virama. -/
def isVirama (cp : Nat) : Bool := viramaTable.find cp

end GuildRegistry.Unicode
