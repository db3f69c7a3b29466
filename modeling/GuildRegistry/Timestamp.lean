import GuildRegistry.Calendar.Fields
import GuildRegistry.Text.Blank

/-! Stored timestamps.

Timestamps are stored as text. A text is recognised when, after line breaks are turned into spaces
and blanks trimmed, it or its first word has the shape
-/

set_option autoImplicit false

namespace GuildRegistry.Timestamp

open Text

/-- Turns every run of line feeds and carriage returns into one space. -/
def joinLines : List Char → List Char
  | [] => []
  | c :: rest =>
    if c = '\n' ∨ c = '\r' then ' ' :: joinLines (rest.dropWhile (fun d => d = '\n' ∨ d = '\r'))
    else c :: joinLines rest
termination_by cs => cs.length
decreasing_by
  all_goals simp only [List.length_cons]
  all_goals have := (List.dropWhile_suffix (fun d => d = '\n' ∨ d = '\r') (l := rest)).length_le
  all_goals omega

/-- The cleaned text: line breaks joined into spaces, blanks trimmed at both ends. -/
def clean (raw : String) : String := String.ofList (trimChars (joinLines raw.toList))

/-- Exactly `n` ASCII digits at the front. -/
def takeDigits (n : Nat) (cs : List Char) : Option (Nat × List Char) :=
  let ds := cs.take n
  if ds.length = n ∧ ds.all Char.isDigit then some (DateTimeFields.digitsValue ds, cs.drop n) else none

/-- The zone suffix, as minutes east of UTC, up to the end of the text; `none` when the
rest is not a zone. -/
def readZoneSuffix (cs : List Char) : Option (Option (Bool × Nat × Nat)) :=
  match cs.map Char.toUpper with
  | [] => some none
  | ['Z'] | ['U', 'T', 'C'] | ['G', 'M', 'T'] => some (some (false, 0, 0))
  | s :: _ =>
    if s = '+' ∨ s = '-' then
      let neg := s = '-'
      match takeDigits 2 (cs.drop 1) with
      | some (h, []) => some (some (neg, h, 0))
      | some (h, ':' :: rest) =>
        match takeDigits 2 rest with
        | some (m, []) => some (some (neg, h, m))
        | _ => none
      | some (h, rest) =>
        match takeDigits 2 rest with
        | some (m, []) => some (some (neg, h, m))
        | _ => none
      | none => none
    else none

/-- The time of day after the separator: `HH:mm`, then `:ss`, then a fraction. -/
def readClock (cs : List Char) : Option ((Nat × Nat × Nat × Nat) × List Char) := do
  let (h, rest) ← takeDigits 2 cs
  let rest ← match rest with
    | ':' :: r => some r
    | _ => none
  let (m, rest) ← takeDigits 2 rest
  let (s, rest) := match rest with
    | ':' :: r =>
      match takeDigits 2 r with
      | some (s, r') => (s, r')
      | none => (0, rest)
    | _ => (0, rest)
  let (ms, rest) := match rest with
    | c :: r =>
      if c = '.' ∨ c = ',' then
        let ds := r.takeWhile Char.isDigit
        if ds.isEmpty then (0, rest) else (DateTimeFields.fractionMillis ds, r.dropWhile Char.isDigit)
      else (0, rest)
    | [] => (0, rest)
  some ((h, m, s, ms), rest)

/-- The calendar fields of one candidate text, when it has the recognised shape. -/
def readFields (cs : List Char) : Option DateTimeFields := do
  let (y, rest) ← takeDigits 4 cs
  let rest ← match rest with
    | '-' :: r => some r
    | _ => none
  let (mon, rest) ← takeDigits 2 rest
  let rest ← match rest with
    | '-' :: r => some r
    | _ => none
  let (d, rest) ← takeDigits 2 rest
  let (clock, rest) := match rest with
    | c :: r =>
      if c = 'T' ∨ c = 't' ∨ c = ' ' then
        match readClock r with
        | some (clock, r') => (clock, r')
        | none => ((0, 0, 0, 0), rest)
      else ((0, 0, 0, 0), rest)
    | [] => ((0, 0, 0, 0), rest)
  let zone ← readZoneSuffix (rest.dropWhile isBlank)
  let (h, mi, s, ms) := clock
  let offset ← match zone with
    | none => some 0
    | some (neg, zh, zm) => DateTimeFields.zoneOffset? neg zh zm
  some { year := y, month := mon, day := d, hour := h, minute := mi, second := s,
         millis := ms, offsetMinutes := offset }

/-- The instant of one candidate text. -/
def readCandidate (cs : List Char) : Option Instant :=
  (readFields cs).bind DateTimeFields.toInstant?

/-- The instant a stored text names: the cleaned text, else its first word. -/
def parse? (raw : String) : Option Instant :=
  let s := trimChars (joinLines raw.toList)
  if s.isEmpty then none
  else
    let first := s.takeWhile (fun c => !isBlank c)
    match readCandidate s with
    | some t => some t
    | none => if !first.isEmpty ∧ first ≠ s then readCandidate first else none

/-- The canonical text of a recognised timestamp, else the cleaned text. -/
def normalize (raw : String) : String :=
  match parse? raw with
  | some t => t.toIso
  | none => clean raw

/-- Orders two stored timestamps newest first: `-1` when `a` is newer, `1` when older,
`0` when they name the same instant. Unrecognised texts are older than every instant
and equal to each other. -/
def compareNewest (a b : String) : Int :=
  match parse? a, parse? b with
  | none, none => 0
  | some _, none => -1
  | none, some _ => 1
  | some ta, some tb => if ta.ms = tb.ms then 0 else if ta.ms > tb.ms then -1 else 1

/-- Sorts stored timestamps newest first, keeping the order of equal ones. -/
def sortNewest (xs : List String) : List String :=
  xs.mergeSort (fun a b => compareNewest a b ≤ 0)

/-- A timestamp for people: `YYYY-MM-DD HH:mm:ss UTC` cut from the canonical text, the
cleaned text when unrecognised, and `Unknown` when absent or empty. -/
def display (raw : Option String) : String :=
  match raw with
  | none => "Unknown"
  | some r =>
    if r.isEmpty then "Unknown"
    else match parse? r with
      | some t =>
        let iso := t.toIso.toList
        String.ofList (iso.take 10) ++ " " ++ String.ofList ((iso.drop 11).take 8) ++ " UTC"
      | none =>
        let c := clean r
        if c.isEmpty then "Unknown" else c

end GuildRegistry.Timestamp
