/-! Blank characters and trimming.

A character is blank when it is a Unicode space separator, one of the ASCII layout controls (tab,
line feed, vertical tab, form feed, carriage return), the line or paragraph separator, or the byte
order mark. Trimming strips blanks at both ends; splitting on blanks cuts at every maximal run of
them. U+0085 (next line) is not blank.
-/

set_option autoImplicit false

namespace GuildRegistry.Text

/-- The blank characters: space separators, layout controls, line and paragraph
separators, and the byte order mark. -/
def isBlank (c : Char) : Bool :=
  match c.toNat with
  | 0x09 | 0x0A | 0x0B | 0x0C | 0x0D | 0x20 | 0xA0 | 0x1680 => true
  | 0x2028 | 0x2029 | 0x202F | 0x205F | 0x3000 | 0xFEFF => true
  | n => 0x2000 ≤ n && n ≤ 0x200A

theorem isBlank_of_isWhitespace {c : Char} (h : c.isWhitespace = true) : isBlank c = true := by
  unfold Char.isWhitespace at h
  simp only [Bool.or_eq_true, decide_eq_true_eq] at h
  rcases h with ((rfl | rfl) | rfl) | rfl <;> rfl

/-- Drops blanks at the front. -/
def dropBlanks (cs : List Char) : List Char := cs.dropWhile isBlank

/-- Drops blanks at both ends. -/
def trimChars (cs : List Char) : List Char :=
  (dropBlanks (dropBlanks cs).reverse).reverse

/-- The text without blanks at either end. -/
def trim (s : String) : String := String.ofList (trimChars s.toList)

/-- The text without blanks at the front. -/
def trimStart (s : String) : String := String.ofList (dropBlanks s.toList)

/-- Cuts a character list at each maximal run of blanks, keeping the empty pieces at
the ends: `" a  b"` gives `["", "a", "b"]`. -/
def splitBlanksChars : List Char → List (List Char)
  | [] => [[]]
  | c :: rest =>
    if isBlank c then [] :: splitBlanksChars (dropBlanks rest)
    else match splitBlanksChars rest with
      | [] => [[c]]
      | first :: others => (c :: first) :: others
termination_by cs => cs.length
decreasing_by
  all_goals simp only [List.length_cons, dropBlanks]
  all_goals have := (List.dropWhile_suffix isBlank (l := rest)).length_le
  all_goals omega

/-- Cuts a text at each maximal run of blanks. -/
def splitBlanks (s : String) : List String :=
  (splitBlanksChars s.toList).map String.ofList

/-- The text up to its first blank. -/
def firstWord (s : String) : String :=
  String.ofList (s.toList.takeWhile (fun c => !isBlank c))

/-- Whether a text is empty once trimmed. -/
def isBlankText (s : String) : Bool := s.toList.all isBlank

/-- A missing text stays missing; a given one is trimmed, and is missing when that leaves
it empty. -/
def clean (s : Option String) : Option String :=
  match s with
  | some t => if isBlankText t then none else some (trim t)
  | none => none

end GuildRegistry.Text
