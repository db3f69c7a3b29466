import GuildRegistry.Number.Binary64

/-! Instants on the proleptic Gregorian calendar.

An instant is a count of milliseconds since 1970-01-01T00:00:00Z, at most `8.64e15` away from it
(about 273,790 years either way). Civil dates convert to and from day numbers with the era
arithmetic of 400-year cycles. The canonical text of an instant is `YYYY-MM-DDTHH:mm:ss.sssZ`, with
a signed six-digit year outside 0000 … 9999.
-/

set_option autoImplicit false

namespace GuildRegistry

/-- Milliseconds since the epoch, within the representable range. -/
structure Instant where
  ms : Int
  deriving DecidableEq, Repr, Inhabited

namespace Instant

def msPerDay : Int := 86400000

/-- The farthest an instant may lie from the epoch: `8.64e15` ms. -/
def maxMs : Int := 8640000000000000

/-- An instant, when the count is in range. -/
def ofMs? (ms : Int) : Option Instant :=
  if -maxMs ≤ ms ∧ ms ≤ maxMs then some ⟨ms⟩ else none

/-- The day number (days since 1970-01-01) of a civil date with month `1 … 12`; days past
the end of the month run on into the next one. -/
def daysFromCivil (y : Int) (m : Nat) (d : Nat) : Int :=
  let y' : Int := if m ≤ 2 then y - 1 else y
  let era := y' / 400
  let yoe := y' - era * 400
  let mp : Int := if m > 2 then (m : Int) - 3 else (m : Int) + 9
  let doy := (153 * mp + 2) / 5 + (d : Int) - 1
  let doe := yoe * 365 + yoe / 4 - yoe / 100 + doy
  era * 146097 + doe - 719468

/-- The civil date (year, month `1 … 12`, day) of a day number. -/
def civilFromDays (z : Int) : Int × Nat × Nat :=
  let z' := z + 719468
  let era := z' / 146097
  let doe := z' - era * 146097
  let yoe := (doe - doe / 1460 + doe / 36524 - doe / 146096) / 365
  let y := yoe + era * 400
  let doy := doe - (365 * yoe + yoe / 4 - yoe / 100)
  let mp := (5 * doy + 2) / 153
  let d := doy - (153 * mp + 2) / 5 + 1
  let m := if mp < 10 then mp + 3 else mp - 9
  (if m ≤ 2 then y + 1 else y, m.toNat, d.toNat)

/-- The instant of a civil date and time of day at a zone offset in minutes east of
UTC, when in range. Days, hours and the rest may run over into the next unit. -/
def ofCivil? (y : Int) (mon day h mi s ms : Nat) (offsetMinutes : Int) : Option Instant :=
  let t := daysFromCivil y mon day * msPerDay
    + (h : Int) * 3600000 + (mi : Int) * 60000 + (s : Int) * 1000 + (ms : Int)
    - offsetMinutes * 60000
  ofMs? t

/-- The time value of an instant: its milliseconds as a number. -/
def timeValue (t : Instant) : Binary64 := Binary64.ofInt t.ms

/-- The instant a time value stands for: its whole part, rounded toward zero, when the
value is finite and in range. -/
def ofTimeValue? (x : Binary64) : Option Instant := x.truncate?.bind ofMs?

/-- The time value of an instant that may be missing: NaN when it is. -/
def timeValueOf : Option Instant → Binary64
  | some t => t.timeValue
  | none => .nan

/-- Left-pads a number with zeros to a width. -/
def pad (width : Nat) (n : Nat) : String :=
  let s := toString n
  String.ofList (List.replicate (width - s.length) '0') ++ s

/-- The canonical text `YYYY-MM-DDTHH:mm:ss.sssZ`; years outside 0 … 9999 are written
with a sign and six digits. -/
def toIso (t : Instant) : String :=
  let days := t.ms / msPerDay
  let msOfDay := (t.ms % msPerDay).toNat
  let (y, m, d) := civilFromDays days
  let year :=
    if 0 ≤ y ∧ y ≤ 9999 then pad 4 y.toNat
    else (if y < 0 then "-" else "+") ++ pad 6 y.natAbs
  year ++ "-" ++ pad 2 m ++ "-" ++ pad 2 d ++ "T" ++ pad 2 (msOfDay / 3600000) ++ ":"
    ++ pad 2 (msOfDay / 60000 % 60) ++ ":" ++ pad 2 (msOfDay / 1000 % 60) ++ "."
    ++ pad 3 (msOfDay % 1000) ++ "Z"

end Instant

end GuildRegistry
