import GuildRegistry.Calendar.Instant

/-! Date and time fields and the rules that make them an instant.

A month is `1 … 12` and a day `1 … 31` whatever the month, a day past the month's end running on
into the next month (February 30 is March 1 or 2). An hour is `0 … 24`, where 24 is allowed only as
`24:00:00.000`, the next midnight; minutes and seconds are `0 … 59`. A zone offset has hours `0 …
23` and minutes `0 … 59`. The instant must lie within the representable range.
-/

set_option autoImplicit false

namespace GuildRegistry

/-- Calendar fields as written, with a zone offset of `offsetMinutes` east of UTC. -/
structure DateTimeFields where
  year : Int
  month : Nat
  day : Nat
  hour : Nat := 0
  minute : Nat := 0
  second : Nat := 0
  millis : Nat := 0
  offsetMinutes : Int := 0
  deriving DecidableEq, Repr

namespace DateTimeFields

/-- The time of day is `0 … 23:59:59.999` or exactly `24:00:00.000`. -/
def timeValid (f : DateTimeFields) : Bool :=
  (f.hour < 24 || (f.hour == 24 && f.minute == 0 && f.second == 0 && f.millis == 0))
    && f.minute < 60 && f.second < 60 && f.millis < 1000

def dateValid (f : DateTimeFields) : Bool :=
  1 ≤ f.month && f.month ≤ 12 && 1 ≤ f.day && f.day ≤ 31

/-- The instant the fields name, when they are valid and in range. -/
def toInstant? (f : DateTimeFields) : Option Instant :=
  if f.dateValid && f.timeValid then
    Instant.ofCivil? f.year f.month f.day f.hour f.minute f.second f.millis f.offsetMinutes
  else none

/-- The value of a run of decimal digits. -/
def digitsValue (ds : List Char) : Nat :=
  ds.foldl (fun acc c => acc * 10 + (c.toNat - '0'.toNat)) 0

/-- The first three digits of a fraction of a second, as milliseconds. -/
def fractionMillis (ds : List Char) : Nat :=
  digitsValue ((ds ++ ['0', '0', '0']).take 3)

/-- A zone offset of `hours:minutes`, signed, when hours are `0 … 23` and minutes `0 … 59`. -/
def zoneOffset? (neg : Bool) (hours minutes : Nat) : Option Int :=
  if hours < 24 ∧ minutes < 60 then
    let m : Int := (hours * 60 + minutes : Nat)
    some (if neg then -m else m)
  else none

end DateTimeFields

end GuildRegistry
