import GuildRegistry.Proofs.Timestamp.Canonical

/-! Timestamps as written with a zone.

A timestamp is written as a date `YYYY-MM-DD`, an optional time of day, optional blanks and a zone:
nothing, `Z`, `UTC` or `GMT` in any letter case, or an offset spelled `±hh:mm`, `±hhmm` or `±hh`.
These written forms are data here (`Written`, `Zone`, `spell`), and the fields read from such a text
are the date and time at the offset the zone names (`readFields_spell`).
-/

set_option autoImplicit false

namespace GuildRegistry.Timestamp

open Text Instant

/-! ### Timestamps as written -/

/-- A fraction of a second as written: `.` or `,` and one or more digits. -/
structure Fraction where
  comma : Bool
  digits : List Char
  nonempty : digits ≠ []
  all_digits : ∀ c ∈ digits, c.isDigit = true

def Fraction.text (f : Fraction) : List Char := (if f.comma then ',' else '.') :: f.digits

/-- A time of day as written after a date: `T`, `t` or a space, `hh:mm`, then optionally `:ss`
and a fraction. -/
structure Clock where
  separator : Char
  separator_mem : separator = 'T' ∨ separator = 't' ∨ separator = ' '
  hour : Fin 100
  minute : Fin 100
  second : Option (Fin 100)
  fraction : Option Fraction

/-- The text of a time after its separator. -/
def Clock.body (c : Clock) : List Char :=
  (pad 2 c.hour.val).toList ++ ':' :: ((pad 2 c.minute.val).toList ++
    ((c.second.map fun s => ':' :: (pad 2 s.val).toList).getD [] ++ (c.fraction.map Fraction.text).getD []))

/-- The hour, minute, second and millisecond a time names: a missing second is zero, and a
fraction counts by its first three digits. -/
def Clock.reading (c : Clock) : Nat × Nat × Nat × Nat :=
  (c.hour.val, c.minute.val, (c.second.map (·.val)).getD 0,
    (c.fraction.map fun f => DateTimeFields.fractionMillis f.digits).getD 0)

/-- A date with an optional time of day: a timestamp as written up to its zone. -/
structure Written where
  year : Fin 10000
  month : Fin 100
  day : Fin 100
  clock : Option Clock

namespace Written

def date (w : Written) : List Char :=
  (pad 4 w.year.val).toList ++ '-' :: ((pad 2 w.month.val).toList ++ '-' :: (pad 2 w.day.val).toList)

def text (w : Written) : List Char :=
  w.date ++ (w.clock.map fun c => c.separator :: c.body).getD []

/-- The fields the date and time name at a zone offset; a missing time is midnight. -/
def fields (w : Written) (offset : Int) : DateTimeFields :=
  let r := (w.clock.map Clock.reading).getD (0, 0, 0, 0)
  { year := (w.year.val : Int), month := w.month.val, day := w.day.val, hour := r.1, minute := r.2.1,
    second := r.2.2.1, millis := r.2.2.2, offsetMinutes := offset }

/-- The instant the date and time name at a zone offset. -/
def instant? (w : Written) (offset : Int) : Option Instant := (w.fields offset).toInstant?

/-- The date alone, at midnight. -/
def dateOnly (w : Written) : Written := { w with clock := none }

/-- Whether a space separates the date from the time. -/
def spaced (w : Written) : Bool := (w.clock.map fun c => decide (c.separator = ' ')).getD false

end Written

/-- A zone as written after a time. -/
inductive Zone where
  /-- No zone: the time is UTC. -/
  | absent
  /-- `Z`, `UTC` or `GMT`, in any letter case. -/
  | named (letters : List Char) (upper : letters.map Char.toUpper ∈ [['Z'], ['U', 'T', 'C'], ['G', 'M', 'T']])
  /-- `±hh:mm` -/
  | colon (neg : Bool) (hours minutes : Fin 100)
  /-- `±hhmm` -/
  | compact (neg : Bool) (hours minutes : Fin 100)
  /-- `±hh` -/
  | hours (neg : Bool) (hours : Fin 100)

def signChar (neg : Bool) : Char := if neg then '-' else '+'

namespace Zone

def text : Zone → List Char
  | absent => []
  | named letters _ => letters
  | colon neg h m => signChar neg :: ((pad 2 h.val).toList ++ ':' :: (pad 2 m.val).toList)
  | compact neg h m => signChar neg :: ((pad 2 h.val).toList ++ (pad 2 m.val).toList)
  | hours neg h => signChar neg :: (pad 2 h.val).toList

/-- The offset a zone names, in minutes east of UTC; none past `23:59`. -/
def offset? : Zone → Option Int
  | absent | named _ _ => some 0
  | colon neg h m | compact neg h m => DateTimeFields.zoneOffset? neg h.val m.val
  | hours neg h => DateTimeFields.zoneOffset? neg h.val 0

end Zone

/-- A timestamp written with blanks and a zone after its date and time. -/
def spell (w : Written) (blanks : List Char) (z : Zone) : String := String.ofList (w.text ++ blanks ++ z.text)

/-! ### Characters -/

/-- Printable ASCII: no blank and no line break. -/
def Printable (cs : List Char) : Prop := ∀ c ∈ cs, 33 ≤ c.toNat ∧ c.toNat < 127

theorem printable_of_isDigit {c : Char} (digit : c.isDigit = true) : 33 ≤ c.toNat ∧ c.toNat < 127 := by
  have range := toNat_of_isDigit digit
  omega

theorem printable_pad (w n : Nat) : Printable (pad w n).toList :=
  fun _ mem => printable_of_isDigit (isDigit_of_mem_pad mem)

theorem not_field_of_isBlank {c : Char} (blank : isBlank c = true) :
    c.isDigit = false ∧ c ≠ ':' ∧ c ≠ '.' ∧ c ≠ ',' ∧ c ≠ 'T' ∧ c ≠ 't' := by
  have outside : ¬ (33 ≤ c.toNat ∧ c.toNat < 127) := fun range => by
    rw [Binary64.isBlank_of_printable range.1 range.2] at blank
    cases blank
  refine ⟨?_, ?_, ?_, ?_, ?_, ?_⟩
  · cases digit : c.isDigit
    · rfl
    · exact absurd (printable_of_isDigit digit) outside
  all_goals
    rintro rfl
    exact outside (by decide)

theorem toNat_toUpper (c : Char) :
    c.toUpper.toNat = if 97 ≤ c.toNat ∧ c.toNat ≤ 122 then c.toNat - 32 else c.toNat := by
  unfold Char.toUpper
  split
  · rename_i lower
    have bounds : 97 ≤ c.toNat ∧ c.toNat ≤ 122 := by
      simpa [UInt32.le_iff_toNat_le] using lower
    rw [if_pos bounds]
    show (c.val + ('A'.val - 'a'.val)).toNat = c.toNat - 32
    rw [UInt32.toNat_add]
    have : ('A'.val - 'a'.val).toNat = 4294967264 := by decide
    rw [this]
    show (c.toNat + 4294967264) % 4294967296 = c.toNat - 32
    omega
  · rename_i upper
    have bounds : ¬ (97 ≤ c.toNat ∧ c.toNat ≤ 122) := by
      simpa [UInt32.le_iff_toNat_le] using upper
    rw [if_neg bounds]

/-- A character that a time never reads into: no digit and none of `:`, `.` and `,`. -/
def Apart (c : Char) : Prop := c.isDigit = false ∧ c ≠ ':' ∧ c ≠ '.' ∧ c ≠ ','

theorem apart_of_toNat {c : Char} (h : c.toNat < 44 ∨ c.toNat = 45 ∨ c.toNat = 47 ∨ 58 < c.toNat) :
    Apart c := by
  refine ⟨?_, ?_, ?_, ?_⟩
  · cases digit : c.isDigit
    · rfl
    · have := toNat_of_isDigit digit
      omega
  all_goals
    rintro rfl
    revert h
    decide

theorem toNat_of_isBlank {c : Char} (blank : isBlank c = true) : c.toNat < 33 ∨ 127 ≤ c.toNat := by
  by_contra inside
  rw [Binary64.isBlank_of_printable (by omega) (by omega)] at blank
  cases blank

theorem Zone.head_toNat (z : Zone) {c : Char} {rest : List Char} (head : z.text = c :: rest) :
    (c.toNat = 43 ∨ c.toNat = 45 ∨ (65 ≤ c.toNat ∧ c.toNat ≤ 122)) ∧ c.toNat ≠ 84 ∧ c.toNat ≠ 116 := by
  cases z with
  | absent => cases head
  | named letters upper =>
    simp only [text] at head
    subst head
    -- the first letter's capital is `Z`, `U` or `G`
    have capital : c.toUpper.toNat = 90 ∨ c.toUpper.toNat = 85 ∨ c.toUpper.toNat = 71 := by
      simp only [List.map_cons, List.mem_cons, List.cons.injEq, List.mem_nil_iff, or_false] at upper
      rcases upper with ⟨first, -⟩ | ⟨first, -⟩ | ⟨first, -⟩ <;> rw [first] <;> decide
    rw [toNat_toUpper] at capital
    split at capital <;> omega
  | colon neg h m | compact neg h m | hours neg h =>
    simp only [text, List.cons.injEq] at head
    rw [← head.1]
    cases neg <;> decide

/-- Text that a written time does not read into: it starts apart, and when it starts with a
separator of a time, no digit follows. -/
structure Detached (tail : List Char) : Prop where
  head : ∀ c rest, tail = c :: rest → Apart c
  after : ∀ c rest, tail = c :: rest → (c = 'T' ∨ c = 't' ∨ c = ' ') →
    ∀ d more, rest = d :: more → d.isDigit = false

theorem detached_spell {blanks : List Char} (hb : ∀ c ∈ blanks, isBlank c = true) (z : Zone) :
    Detached (blanks ++ z.text) := by
  -- a zone starts with no separator and no digit; a blank is neither
  have zoneHead : ∀ c rest, z.text = c :: rest → Apart c ∧ ¬ (c = 'T' ∨ c = 't' ∨ c = ' ') := by
    intro c rest head
    have range := z.head_toNat head
    refine ⟨apart_of_toNat (by omega), ?_⟩
    rintro (rfl | rfl | rfl) <;> revert range <;> decide
  have blankHead : ∀ c ∈ blanks, Apart c := fun c mem => apart_of_toNat (by have := toNat_of_isBlank (hb c mem); omega)
  cases blanks with
  | nil =>
    exact ⟨fun c rest head => (zoneHead c rest head).1, fun c rest head opens => absurd opens (zoneHead c rest head).2⟩
  | cons b bs =>
    refine ⟨fun c rest head => ?_, fun c rest head _ d more next => ?_⟩
    · simp only [List.cons_append, List.cons.injEq] at head
      rw [← head.1]
      exact blankHead b List.mem_cons_self
    · simp only [List.cons_append, List.cons.injEq] at head
      rw [← head.2] at next
      cases bs with
      | nil => exact (zoneHead d more next).1.1
      | cons b' bs' =>
        simp only [List.cons_append, List.cons.injEq] at next
        rw [← next.1]
        exact (blankHead b' (List.mem_cons_of_mem _ List.mem_cons_self)).1

/-! ### Reading the zone -/

theorem takeDigits_pad_two (n : Fin 100) (rest : List Char) :
    takeDigits 2 ((pad 2 n.val).toList ++ rest) = some (n.val, rest) :=
  takeDigits_pad (by decide) (show n.val < 10 ^ 2 from n.isLt) rest

theorem takeDigits_pad_two_end (n : Fin 100) : takeDigits 2 (pad 2 n.val).toList = some (n.val, []) := by
  simpa using takeDigits_pad_two n []

theorem pad_two_eq (n : Fin 100) : ∃ a b, (pad 2 n.val).toList = [a, b] ∧ a.isDigit = true ∧ b.isDigit = true := by
  have length := length_pad (w := 2) (by decide) (show n.val < 10 ^ 2 from n.isLt)
  match digits : (pad 2 n.val).toList, length with
  | [a, b], _ =>
    exact ⟨a, b, rfl, isDigit_of_mem_pad (digits ▸ List.mem_cons_self),
      isDigit_of_mem_pad (digits ▸ List.mem_cons_of_mem _ List.mem_cons_self)⟩

theorem readZoneSuffix_named (letters : List Char)
    (upper : letters.map Char.toUpper ∈ [['Z'], ['U', 'T', 'C'], ['G', 'M', 'T']]) :
    readZoneSuffix (Zone.named letters upper).text = some (some (false, 0, 0)) := by
  simp only [List.mem_cons, List.not_mem_nil, or_false] at upper
  rcases upper with name | name | name <;> simp [Zone.text, readZoneSuffix, name]

theorem readZoneSuffix_colon (neg : Bool) (h m : Fin 100) :
    readZoneSuffix (Zone.colon neg h m).text = some (some (neg, h.val, m.val)) := by
  cases neg <;> simp [Zone.text, readZoneSuffix, signChar, takeDigits_pad_two, takeDigits_pad_two_end]

theorem readZoneSuffix_compact (neg : Bool) (h m : Fin 100) :
    readZoneSuffix (Zone.compact neg h m).text = some (some (neg, h.val, m.val)) := by
  -- the minutes follow the hours without a colon
  obtain ⟨a, b, digits, digit, -⟩ := pad_two_eq m
  have notColon : a ≠ ':' := by rintro rfl; cases digit
  have minutes := takeDigits_pad_two_end m
  rw [digits] at minutes
  cases neg <;> simp [Zone.text, readZoneSuffix, signChar, takeDigits_pad_two, digits, notColon, minutes]

theorem readZoneSuffix_hours (neg : Bool) (h : Fin 100) :
    readZoneSuffix (Zone.hours neg h).text = some (some (neg, h.val, 0)) := by
  cases neg <;> simp [Zone.text, readZoneSuffix, signChar, takeDigits_pad_two_end]

theorem dropWhile_zone (z : Zone) : z.text.dropWhile isBlank = z.text := by
  cases text : z.text with
  | nil => rfl
  | cons c rest =>
    have range := z.head_toNat text
    exact List.dropWhile_cons_of_neg (by simp [Binary64.isBlank_of_printable (c := c) (by omega) (by omega)])

/-! ### Reading the written fields -/

section Reading

variable {tail : List Char}

theorem takeWhile_isDigit_of_detached (detached : Detached tail) : tail.takeWhile Char.isDigit = [] := by
  cases tail with
  | nil => rfl
  | cons c rest => exact List.takeWhile_cons_of_neg (by simp [(detached.head c rest rfl).1])

theorem dropWhile_isDigit_of_detached (detached : Detached tail) : tail.dropWhile Char.isDigit = tail := by
  cases tail with
  | nil => rfl
  | cons c rest => exact List.dropWhile_cons_of_neg (by simp [(detached.head c rest rfl).1])

theorem readClock_of_not_digit {cs : List Char} (notDigit : ∀ d more, cs = d :: more → d.isDigit = false) :
    readClock cs = none := by
  cases cs with
  | nil => rfl
  | cons d more => simp [readClock, takeDigits, notDigit d more rfl]

theorem Fraction.read (f : Fraction) (detached : Detached tail) :
    (f.digits ++ tail).takeWhile Char.isDigit = f.digits ∧ (f.digits ++ tail).dropWhile Char.isDigit = tail := by
  refine ⟨?_, ?_⟩
  · rw [List.takeWhile_append_of_pos f.all_digits, takeWhile_isDigit_of_detached detached, List.append_nil]
  · rw [List.dropWhile_append_of_pos f.all_digits, dropWhile_isDigit_of_detached detached]

theorem readClock_body (c : Clock) (detached : Detached tail) :
    readClock (c.body ++ tail) = some (c.reading, tail) := by
  obtain ⟨sep, mem, h, m, second, fraction⟩ := c
  -- past the minutes come the seconds, then the fraction, each only when written; a written
  -- fraction is read up to the detached text, and otherwise that text is left alone
  cases fraction with
  | some f =>
    obtain ⟨take, drop⟩ := f.read detached
    cases second <;> cases comma : f.comma <;>
    simp [Clock.body, Clock.reading, Fraction.text, comma, readClock, takeDigits_pad_two, take, drop, f.nonempty,
      -List.takeWhile_eq_nil_iff]
  | none =>
    cases tail with
    | nil => cases second <;> simp [Clock.body, Clock.reading, readClock, takeDigits_pad_two, takeDigits_pad_two_end]
    | cons t rest =>
      have apart := detached.head t rest rfl
      cases second <;>
      simp [Clock.body, Clock.reading, readClock, takeDigits_pad_two, apart.2.1, apart.2.2.1, apart.2.2.2]

/-- The offset a read zone suffix names: no suffix is UTC. -/
def suffixOffset? : Option (Bool × Nat × Nat) → Option Int
  | none => some 0
  | some (neg, h, m) => DateTimeFields.zoneOffset? neg h m

theorem bind_suffixOffset {o : Option (Option (Bool × Nat × Nat))} {g : Option (Bool × Nat × Nat) → Option DateTimeFields}
    {fields : Int → DateTimeFields} (utc : g none = some (fields 0))
    (offset : ∀ neg h m, g (some (neg, h, m)) = (DateTimeFields.zoneOffset? neg h m).map fields) :
    o.bind g = o.bind (Option.map fields ∘ suffixOffset?) := by
  congr 1
  funext suffix
  rcases suffix with _ | ⟨neg, h, m⟩
  · exact utc
  · exact offset neg h m

theorem readFields_written (w : Written) {tail : List Char} (detached : Detached tail) :
    readFields (w.text ++ tail) = ((readZoneSuffix (tail.dropWhile isBlank)).bind suffixOffset?).map w.fields := by
  have year := takeDigits_pad (w := 4) (by decide) (show w.year.val < 10 ^ 4 from w.year.isLt)
  rw [Option.map_bind]
  obtain ⟨y, mo, d, clock⟩ := w
  cases clock with
  | some c =>
    simp only [Written.text, Written.date, Option.map_some, Option.getD_some, List.append_assoc, List.cons_append,
      readFields, year, takeDigits_pad_two, Option.bind_eq_bind, Option.bind_some, readClock_body c detached,
      if_pos c.separator_mem]
    exact bind_suffixOffset rfl fun _ _ _ => Option.map_eq_bind.symm
  | none =>
    cases tail with
    | nil =>
      simp only [Written.text, Written.date, Option.map_none, Option.getD_none, List.append_nil, readFields, year,
        takeDigits_pad_two, takeDigits_pad_two_end, Option.bind_eq_bind, Option.bind_some]
      exact bind_suffixOffset rfl fun _ _ _ => Option.map_eq_bind.symm
    | cons t rest =>
      simp only [Written.text, Written.date, Option.map_none, Option.getD_none, List.append_nil, List.append_assoc,
        List.cons_append, readFields, year, takeDigits_pad_two, Option.bind_eq_bind, Option.bind_some]
      -- a separator here opens no time, for no digit follows it
      by_cases opens : t = 'T' ∨ t = 't' ∨ t = ' '
      · simp only [if_pos opens, readClock_of_not_digit (detached.after t rest rfl opens)]
        exact bind_suffixOffset rfl fun _ _ _ => Option.map_eq_bind.symm
      · simp only [if_neg opens]
        exact bind_suffixOffset rfl fun _ _ _ => Option.map_eq_bind.symm

end Reading

theorem suffixOffset?_text (z : Zone) : (readZoneSuffix z.text).bind suffixOffset? = z.offset? := by
  cases z with
  | absent => rfl
  | named letters upper => rw [readZoneSuffix_named]; rfl
  | colon neg h m => rw [readZoneSuffix_colon]; rfl
  | compact neg h m => rw [readZoneSuffix_compact]; rfl
  | hours neg h => rw [readZoneSuffix_hours]; rfl

section Spelled

variable (w : Written) {blanks : List Char} (hb : ∀ c ∈ blanks, isBlank c = true) (z : Zone)
include hb

theorem readFields_spell : readFields (w.text ++ blanks ++ z.text) = z.offset?.map w.fields := by
  rw [List.append_assoc, readFields_written w (detached_spell hb z), List.dropWhile_append_of_pos hb, dropWhile_zone,
    suffixOffset?_text]

theorem readCandidate_spell : readCandidate (w.text ++ blanks ++ z.text) = z.offset?.bind w.instant? := by
  rw [readCandidate, readFields_spell w hb z, Option.bind_map]
  rfl

end Spelled

end GuildRegistry.Timestamp
