import GuildRegistry.Calendar.Fields
import GuildRegistry.Text.Blank

/-! The pieces a date text is read in.

A run of ASCII digits is a number: its value is that of its first nine significant digits, and its
length counts every digit, leading zeros included. The characters `:`, `-`, `+`, `.` and `)` are
marks.
-/

set_option autoImplicit false

namespace GuildRegistry.DateText

/-- What a word of a date text means. -/
inductive DateWord where
  /-- A month name, with its number `1 … 12`. -/
  | month (m : Nat)
  /-- A named zone, with its offset in hours east of UTC. -/
  | zone (hours : Int)
  /-- The letter between the date and the time. -/
  | timeMark
  /-- `am` or `pm`, with the hours added to a twelve-hour clock. -/
  | meridiem (hours : Nat)
  /-- Any other word. -/
  | unknown
  deriving DecidableEq, Repr

/-- A piece of a date text. -/
inductive DateToken where
  | number (value length : Nat)
  | mark (c : Char)
  | word (w : DateWord) (length : Nat)
  | blank
  | ignored
  deriving DecidableEq, Repr

/-- The three-letter month names, January first. -/
def monthNames : List String :=
  ["jan", "feb", "mar", "apr", "may", "jun", "jul", "aug", "sep", "oct", "nov", "dec"]

/-- The meaning of a word, from its first three characters in lower case and its length. -/
def DateWord.ofChars (w : List Char) : DateWord :=
  let key := String.ofList ((w.take 3).map Char.toLower)
  match monthNames.idxOf? key with
  | some i => .month (i + 1)
  | none =>
    if w.length > 3 then .unknown
    else match key with
      | "am" => .meridiem 0
      | "pm" => .meridiem 12
      | "ut" | "utc" | "z" | "gmt" => .zone 0
      | "cdt" => .zone (-5)
      | "cst" => .zone (-6)
      | "edt" => .zone (-4)
      | "est" => .zone (-5)
      | "mdt" => .zone (-6)
      | "mst" => .zone (-7)
      | "pdt" => .zone (-7)
      | "pst" => .zone (-8)
      | "t" => .timeMark
      | _ => .unknown

/-- A character that belongs to a word: one from `A` upwards that is not a space. The
line and paragraph separators are no spaces here, so they stay inside a word. -/
def isWordChar (c : Char) : Bool :=
  'A'.toNat ≤ c.toNat && (!Text.isBlank c || c = '\u2028' || c = '\u2029')

/-- The value of a digit run as read: leading zeros dropped, then at most nine digits. -/
def numeralValue (ds : List Char) : Nat :=
  DateTimeFields.digitsValue ((ds.dropWhile (· = '0')).take 9)

/-- The text after a parenthesised comment whose opening parenthesis is already read,
at the given depth; a NUL character or the end of the text closes every parenthesis. -/
def afterComment : Nat → List Char → List Char
  | 0, cs => cs
  | _, [] => []
  | depth + 1, c :: rest =>
    if c = '\x00' then c :: rest
    else if c = ')' then afterComment depth rest
    else if c = '(' then afterComment (depth + 2) rest
    else afterComment (depth + 1) rest

theorem afterComment_length_le (depth : Nat) (cs : List Char) :
    (afterComment depth cs).length ≤ cs.length := by
  induction cs generalizing depth with
  | nil => cases depth <;> simp [afterComment]
  | cons c rest ih =>
    cases depth with
    | zero => simp [afterComment]
    | succ d =>
      simp only [afterComment]
      split
      · simp
      · split
        · have := ih d; simp; omega
        · split
          · have := ih (d + 2); simp; omega
          · have := ih (d + 1); simp; omega

/-- Cuts a text into its pieces. -/
def scan : List Char → List DateToken
  | [] => []
  | c :: rest =>
    if c = '\x00' then []
    else if c.isDigit then
      let ds := (c :: rest).takeWhile Char.isDigit
      .number (numeralValue ds) ds.length :: scan (rest.dropWhile Char.isDigit)
    else if c = ':' ∨ c = '-' ∨ c = '+' ∨ c = '.' ∨ c = ')' then .mark c :: scan rest
    else if isWordChar c then
      let w := (c :: rest).takeWhile isWordChar
      .word (DateWord.ofChars w) w.length :: scan (rest.dropWhile isWordChar)
    else if Text.isBlank c then .blank :: scan rest
    else if c = '(' then .ignored :: scan (afterComment 1 rest)
    else .ignored :: scan rest
termination_by cs => cs.length
decreasing_by
  all_goals simp only [List.length_cons]
  · have := (List.dropWhile_suffix Char.isDigit (l := rest)).length_le; omega
  · omega
  · have := (List.dropWhile_suffix isWordChar (l := rest)).length_le; omega
  · omega
  · have := afterComment_length_le 1 rest; omega
  · omega

end GuildRegistry.DateText
