import GuildRegistry.Calendar.DateToken

/-! Reading a date text as an instant.

A text is first read in the date-time format: `YYYY`, `YYYY-MM` or `YYYY-MM-DD` (or a signed six-
digit year, never `-000000`), optionally followed by `THH:mm`, `:ss`, `.s…` and a zone `Z`, `±HHmm`
or `±HH:mm`. A text that breaks the format inside its time part names no instant.
-/

set_option autoImplicit false

namespace GuildRegistry.DateText

-- powers of naturals are computed by `Nat.pow`, whatever other instances are in scope
attribute [local instance (high)] instPowNat

/-- Whether a number can be a month. -/
def isMonth (n : Int) : Bool := 1 ≤ n && n ≤ 12

/-- Whether a number can be a day of the month. -/
def isDay (n : Int) : Bool := 1 ≤ n && n ≤ 31

/-- The milliseconds a fraction of a second stands for, from its value as read (at most
nine significant digits) and its length: the value is scaled to three digits, the length
counted as at most nine. -/
def millisOf (value length : Nat) : Nat :=
  if length = 1 then value * 100
  else if length = 2 then value * 10
  else value / 10 ^ (min length 9 - 3)

/-- The date numbers read so far (at most three), a month given by name, and whether the
numbers came in the date-time format, which fixes their order as year, month, day. -/
structure DayParts where
  numbers : List Int := []
  namedMonth : Option Nat := none
  iso : Bool := false
  deriving DecidableEq, Repr

namespace DayParts

/-- Adds a date number, when fewer than three are read. -/
def add (d : DayParts) (n : Int) : Option DayParts :=
  if d.numbers.length < 3 then some { d with numbers := d.numbers ++ [n] } else none

/-- The free-form reading of a two-digit year. -/
def fullYear (y : Int) : Int :=
  if 0 ≤ y ∧ y ≤ 49 then y + 2000 else if 50 ≤ y ∧ y ≤ 99 then y + 1900 else y

/-- The year, month and day the parts name, when they name a valid month and day. -/
def resolve (d : DayParts) : Option (Int × Nat × Nat) :=
  match d.numbers ++ List.replicate (3 - d.numbers.length) 1 with
  | [a, b, c] =>
    if d.numbers.isEmpty then none
    else
      let (year, month, day) : Int × Int × Int := match d.namedMonth with
        | none => if d.iso || !isDay a then (a, b, c) else (c, a, b)
        | some m => if !isDay a then (a, m, b) else (b, m, a)
      let year := if d.iso then year else fullYear year
      if isMonth month && isDay day then some (year, month.toNat, day.toNat) else none
  | _ => none

end DayParts

/-- The time fields read so far (hour, minute, second, millisecond, at most four) and the
hours a twelve-hour clock is moved by (`am` or `pm`). -/
structure ClockParts where
  values : List Nat := []
  meridiem : Option Nat := none
  deriving DecidableEq, Repr

namespace ClockParts

def isEmpty (t : ClockParts) : Bool := t.values.isEmpty

/-- Adds a time field, when fewer than four are read. -/
def add (t : ClockParts) (n : Nat) : Option ClockParts :=
  if t.values.length < 4 then some { t with values := t.values ++ [n] } else none

/-- Adds the last time field and sets the missing ones to zero; a full clock is kept. -/
def addFinal (t : ClockParts) (n : Nat) : ClockParts :=
  match t.add n with
  | some t' => { t' with values := t'.values ++ List.replicate (4 - t'.values.length) 0 }
  | none => t

/-- Whether a number fits as the next time field after the hour. -/
def expects (t : ClockParts) (n : Nat) : Bool :=
  (t.values.length = 1 && n ≤ 59) || (t.values.length = 2 && n ≤ 59) ||
    (t.values.length = 3 && n ≤ 999)

/-- Hour, minute, second and millisecond, missing ones zero, when they form a time of day
(`24:00:00.000` included); `am` and `pm` need an hour up to 12. -/
def resolve (t : ClockParts) : Option (Nat × Nat × Nat × Nat) :=
  match t.values ++ List.replicate (4 - t.values.length) 0 with
  | [h, m, s, ms] =>
    let h? := match t.meridiem with
      | some off => if h ≤ 12 then some (h % 12 + off) else none
      | none => some h
    h?.bind fun h =>
      if (h ≤ 23 && m ≤ 59 && s ≤ 59 && ms ≤ 999) || (h == 24 && m == 0 && s == 0 && ms == 0)
      then some (h, m, s, ms) else none
  | _ => none

end ClockParts

/-- A zone offset as read: its sign, hours and minutes. -/
structure ZoneParts where
  sign : Option Int := none
  hours : Option Nat := none
  minutes : Option Nat := none
  deriving DecidableEq, Repr

namespace ZoneParts

/-- A zone given in whole hours east of UTC. -/
def ofHours (h : Int) : ZoneParts :=
  ⟨some (if h < 0 then -1 else 1), some h.natAbs, some 0⟩

def isUtc (z : ZoneParts) : Bool := z.hours == some 0 && z.minutes == some 0

/-- Whether the minutes of an offset are due and the number fits them. -/
def expects (z : ZoneParts) (n : Nat) : Bool := z.hours.isSome && z.minutes.isNone && n ≤ 59

/-- The offset in seconds east of UTC: `some none` for no zone, `none` when the offset
does not fit in 31 bits (its hours and minutes are counted in 32-bit words). -/
def offsetSeconds? (z : ZoneParts) : Option (Option Int) :=
  match z.sign with
  | none => some none
  | some s =>
    let total : Nat := ((z.hours.getD 0) * 3600 + (z.minutes.getD 0) * 60) % 2 ^ (32 : Nat)
    if total > 2 ^ (31 : Nat) - 1 then none else some (some (s * (total : Int)))

end ZoneParts

/-- How far the date-time format carries a text. -/
inductive IsoReading where
  /-- The text breaks the format inside its time part. -/
  | broken
  /-- The whole text is in the format. -/
  | whole (day : DayParts) (clock : ClockParts) (zone : ZoneParts)
  /-- The format stops at the given pieces, which are read on in the free form. -/
  | stops (day : DayParts) (rest : List DateToken)
  deriving Repr

/-- The zone after the time, up to the end of the text. -/
def readIsoZone (day : DayParts) (clock : ClockParts) : List DateToken → IsoReading
  | [] => .whole day clock {}
  | [.word (.zone 0) 1] => .whole day clock (ZoneParts.ofHours 0)
  | [.mark s, .number hm 4] =>
    if (s = '+' ∨ s = '-') ∧ hm / 100 ≤ 23 ∧ hm % 100 ≤ 59 then
      .whole day clock ⟨some (if s = '+' then 1 else -1), some (hm / 100), some (hm % 100)⟩
    else .broken
  | [.mark s, .number h 2, .mark ':', .number m 2] =>
    if (s = '+' ∨ s = '-') ∧ h ≤ 23 ∧ m ≤ 59 then
      .whole day clock ⟨some (if s = '+' then 1 else -1), some h, some m⟩
    else .broken
  | _ => .broken

/-- The time after the time mark: `HH:mm`, then `:ss`, then a fraction, then a zone. An
hour of 24 allows only zeros after it. -/
def readIsoClock (day : DayParts) : List DateToken → IsoReading
  | .number h 2 :: .mark ':' :: .number m 2 :: rest =>
    if h > 24 ∨ m > 59 ∨ (h = 24 ∧ m > 0) then .broken
    else match rest with
      | .mark ':' :: .number s 2 :: rest =>
        if s > 59 ∨ (h = 24 ∧ s > 0) then .broken
        else match rest with
          | .mark '.' :: .number f len :: rest =>
            if h = 24 ∧ f > 0 then .broken
            else readIsoZone day ⟨[h, m, s, millisOf f len], none⟩ rest
          | .mark '.' :: _ => .broken
          | rest => readIsoZone day ⟨[h, m, s], none⟩ rest
      | .mark ':' :: _ => .broken
      | rest => readIsoZone day ⟨[h, m], none⟩ rest
  | _ => .broken

/-- What follows the date: the end, the time mark and a time, or anything else, where
the format stops. -/
def readIsoTail (day : DayParts) : List DateToken → IsoReading
  | [] => .whole day {} (ZoneParts.ofHours 0)
  | .word .timeMark _ :: rest => readIsoClock day rest
  | rest => .stops day rest

/-- Reads a text in the date-time format as far as it goes. -/
def readIso : List DateToken → IsoReading
  | .mark s :: .number y 6 :: rest =>
    if s = '+' ∨ s = '-' then
      if s = '-' ∧ y = 0 then .stops {} (.mark s :: rest)
      else readIsoMonth ⟨[if s = '+' then (y : Int) else -(y : Int)], none, false⟩ rest
    else .stops {} (.mark s :: .number y 6 :: rest)
  | .number y 4 :: rest => readIsoMonth ⟨[(y : Int)], none, false⟩ rest
  | rest => .stops {} rest
where
  /-- The month and day after the year, each after a `-`. -/
  readIsoMonth (day : DayParts) : List DateToken → IsoReading
    | .mark '-' :: .number m 2 :: rest =>
      if isMonth m then
        let day := { day with numbers := day.numbers ++ [(m : Int)] }
        match rest with
        | .mark '-' :: .number d 2 :: rest' =>
          if isDay d then readIsoTail { day with numbers := day.numbers ++ [(d : Int)] } rest'
          else .stops day (.number d 2 :: rest')
        | .mark '-' :: rest' => .stops day rest'
        | rest => readIsoTail day rest
      else .stops day (.number m 2 :: rest)
    | .mark '-' :: rest => .stops day rest
    | rest => readIsoTail day rest

/-- What the free form has read so far. -/
structure FreeForm where
  day : DayParts
  clock : ClockParts := {}
  zone : ZoneParts := {}
  seenNumber : Bool
  deriving Repr

/-- Drops one `-` at the front. -/
def skipDash : List DateToken → List DateToken
  | .mark '-' :: rest => rest
  | rest => rest

theorem skipDash_length_le (ts : List DateToken) : (skipDash ts).length ≤ ts.length := by
  unfold skipDash; split <;> simp

/-- Whether a time that just ended stands before the end, a blank, `Z` or a sign. -/
def endsTime : List DateToken → Bool
  | [] | .blank :: _ | .word (.zone 0) 1 :: _ | .mark '+' :: _ | .mark '-' :: _ => true
  | _ => false

/-- A number that is no time field: zone minutes, the last time field, or a date number
(a following `-` skipped). Answers the new state and whether a `-` is to be skipped. -/
def placeNumber (st : FreeForm) (n : Nat) (rest : List DateToken) : Option (FreeForm × Bool) :=
  if st.zone.expects n then some ({ st with zone := { st.zone with minutes := some n } }, false)
  else if st.clock.expects n then
    if endsTime rest then some ({ st with clock := st.clock.addFinal n }, false) else none
  else (st.day.add n).map fun d => ({ st with day := d }, true)

/-- A word: a month name, `am`/`pm` after a time, a zone name after a number, or a word
that is allowed only before the first number and not right before one. Answers the new
state and whether a `-` is to be skipped. -/
def placeWord (st : FreeForm) (w : DateWord) (rest : List DateToken) : Option (FreeForm × Bool) :=
  let other : Option (FreeForm × Bool) :=
    if st.seenNumber then none
    else match rest with
      | .number .. :: _ => none
      | _ => some (st, false)
  match w with
  | .meridiem h => if st.clock.isEmpty then other else some ({ st with clock := { st.clock with meridiem := some h } }, false)
  | .month m => some ({ st with day := { st.day with namedMonth := some m } }, true)
  | .zone h => if st.seenNumber then some ({ st with zone := ZoneParts.ofHours h }, false) else other
  | _ => other

/-- An offset after a sign: the number that follows (if any) and what comes after it. -/
def placeOffset (st : FreeForm) (sign : Int) (n len : Nat) (after : List DateToken) : Option FreeForm :=
  let st := { st with seenNumber := true, zone := { st.zone with sign := some sign } }
  match after with
  | .mark ':' :: _ => some { st with zone := { st.zone with hours := some n, minutes := none } }
  | _ =>
    if len = 1 ∨ len = 2 then some { st with zone := { st.zone with hours := some n, minutes := some 0 } }
    else if len = 3 ∨ len = 4 then
      some { st with zone := { st.zone with hours := some (n / 100), minutes := some (n % 100) } }
    else none

/-- Reads the pieces in the free form. -/
def readFree (st : FreeForm) : List DateToken → Option FreeForm
  | [] => some st
  | .number n _ :: .mark ':' :: .mark ':' :: rest =>
    if st.clock.isEmpty then readFree { st with seenNumber := true, clock := ⟨[n, 0], st.clock.meridiem⟩ } rest
    else none
  | .number n _ :: .mark ':' :: rest =>
    match st.clock.add n with
    | some c =>
      let st := { st with seenNumber := true, clock := c }
      match rest with
      | .mark '.' :: rest' => readFree st rest'
      | rest' => readFree st rest'
    | none => none
  | .number n _ :: .mark '.' :: rest =>
    let st := { st with seenNumber := true }
    if st.clock.expects n then
      match rest with
      | .number f len :: rest' =>
        let c := (st.clock.add n).getD st.clock
        readFree { st with clock := c.addFinal (millisOf f len) } rest'
      | _ => none
    else
      match placeNumber st n rest with
      | some (st', true) => readFree st' (skipDash rest)
      | some (st', false) => readFree st' rest
      | none => none
  | .number n _ :: rest =>
    match placeNumber { st with seenNumber := true } n rest with
    | some (st', true) => readFree st' (skipDash rest)
    | some (st', false) => readFree st' rest
    | none => none
  | .word w _ :: rest =>
    match placeWord st w rest with
    | some (st', true) => readFree st' (skipDash rest)
    | some (st', false) => readFree st' rest
    | none => none
  | .mark s :: rest =>
    if (s = '+' ∨ s = '-') ∧ (st.zone.isUtc || !st.clock.isEmpty) then
      let sign : Int := if s = '+' then 1 else -1
      match rest with
      | .number n len :: rest' =>
        match placeOffset st sign n len rest' with
        | some st' => readFree st' rest'
        | none => none
      | rest' =>
        match placeOffset st sign 0 0 rest' with
        | some st' => readFree st' rest'
        | none => none
    else if (s = '+' ∨ s = '-' ∨ s = ')') ∧ st.seenNumber then none
    else readFree st rest
  | _ :: rest => readFree st rest
termination_by ts => ts.length
decreasing_by
  all_goals simp only [List.length_cons]
  all_goals first
    | omega
    | (apply Nat.lt_of_le_of_lt (skipDash_length_le _); omega)

/-- The instant of read parts; a missing zone is UTC. -/
def assemble (day : DayParts) (clock : ClockParts) (zone : ZoneParts) : Option Instant := do
  let (y, mon, d) ← day.resolve
  let (h, mi, s, ms) ← clock.resolve
  let offset ← zone.offsetSeconds?
  let wall := Instant.daysFromCivil y mon d * Instant.msPerDay
    + (h : Int) * 3600000 + (mi : Int) * 60000 + (s : Int) * 1000 + (ms : Int)
  Instant.ofMs? (wall - offset.getD 0 * 1000)

end GuildRegistry.DateText

namespace GuildRegistry.Instant

open DateText in
/-- The instant a date text names, in the date-time format or the free form. -/
def parse? (s : String) : Option Instant :=
  match readIso (scan s.toList) with
  | .broken => none
  | .whole day clock zone => assemble { day with iso := true } clock zone
  | .stops day rest =>
    (readFree { day, seenNumber := !day.numbers.isEmpty } rest).bind fun st =>
      assemble st.day st.clock st.zone

end GuildRegistry.Instant
