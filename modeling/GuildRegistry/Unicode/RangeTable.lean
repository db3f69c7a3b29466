/-! Tables over code points.

A range table gives every code point a value: its ranges are listed by their first code points in
increasing order, each range reaching up to the next one, and a code point before the first range
takes the default. A lookup finds the last range that starts at or below the code point by halving
the search interval.
-/

set_option autoImplicit false

namespace GuildRegistry.Unicode

/-- Values over code points, constant on ranges. -/
structure RangeTable (α : Type) where
  /-- The first code points of the ranges, increasing. -/
  starts : Array Nat
  /-- The value of each range. -/
  values : Array α
  /-- The value of the code points before the first range. -/
  default : α

/-- The index of the last start at or below `cp`, searching the interval from `lo` (a
start at or below `cp`) up to `hi` (exclusive). -/
def lastStartAtOrBelow (starts : Array Nat) (cp lo hi : Nat) : Nat :=
  if h : lo + 1 < hi then
    let mid := (lo + hi) / 2
    if starts.getD mid 0 ≤ cp then lastStartAtOrBelow starts cp mid hi
    else lastStartAtOrBelow starts cp lo mid
  else lo
termination_by hi - lo
decreasing_by all_goals omega

/-- The value of a code point. -/
def RangeTable.find {α : Type} (t : RangeTable α) (cp : Nat) : α :=
  if t.starts.getD 0 0 ≤ cp && 0 < t.starts.size then
    t.values.getD (lastStartAtOrBelow t.starts cp 0 t.starts.size) t.default
  else t.default

/-- The value of an upper-case hexadecimal digit. -/
def hexDigit? (c : Char) : Option Nat :=
  if '0' ≤ c ∧ c ≤ '9' then some (c.toNat - '0'.toNat)
  else if 'A' ≤ c ∧ c ≤ 'F' then some (c.toNat - 'A'.toNat + 10)
  else none

/-- The number that a run of upper-case hexadecimal digits spells, when the run is not
empty and holds nothing else. -/
def hexNumber? (cs : List Char) : Option Nat :=
  if cs.isEmpty then none
  else cs.foldl (fun acc c => acc.bind fun v => (hexDigit? c).map (v * 16 + ·)) (some 0)

/-- Code points in hexadecimal separated by dots. -/
def hexList? (cs : List Char) : Option (List Nat) :=
  (cs.splitOn '.').mapM hexNumber?

/-- One entry: its code point, its letter and the rest of the word. -/
def entry? (word : List Char) : Option (Nat × Char × List Char) :=
  let digits := word.takeWhile fun c => (hexDigit? c).isSome
  match word.drop digits.length with
  | tag :: rest => (hexNumber? digits).map fun cp => (cp, tag, rest)
  | [] => none

/-- The entries of a text, in order. -/
def entries (text : String) : List (Nat × Char × List Char) :=
  ((text.toList.splitOn ' ').flatMap (·.splitOn '\n')).filterMap entry?

/-- A range table read from a text, with a reader for each entry's letter and payload. -/
def RangeTable.ofText {α : Type} (default : α) (read : Char → List Char → Option α)
    (text : String) : RangeTable α :=
  let ranges := (entries text).filterMap fun (cp, tag, rest) => (read tag rest).map (cp, ·)
  ⟨(ranges.map (·.1)).toArray, (ranges.map (·.2)).toArray, default⟩

/-- A table of yes-or-no values written with the letters `y` and `n`. -/
def RangeTable.ofFlags (text : String) : RangeTable Bool :=
  RangeTable.ofText false (fun tag _ => if tag == 'y' then some true
    else if tag == 'n' then some false else none) text

end GuildRegistry.Unicode
