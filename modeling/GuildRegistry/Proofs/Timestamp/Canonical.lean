import Mathlib.Data.List.DropRight
import GuildRegistry.Timestamp
import GuildRegistry.Proofs.Calendar.Civil
import GuildRegistry.Proofs.Text.Ascii

/-! Canonical timestamps.

Normalising a timestamp cleans it when it is not recognised and writes its instant canonically when
it is. Cleaning twice is cleaning once, and a cleaned text is recognised as the text was
(`parse?_clean`). A canonical text with a four-digit year reads back as its instant
(`parse?_toIso`); one with a signed six-digit year is not recognised at all.
-/

set_option autoImplicit false

namespace GuildRegistry.Timestamp

open Text Instant

/-! ### Cleaning -/

/-- A list of characters without line breaks. -/
def BreakFree (cs : List Char) : Prop := ∀ c ∈ cs, c ≠ '\n' ∧ c ≠ '\r'

theorem joinLines_of_breakFree {cs : List Char} (free : BreakFree cs) : joinLines cs = cs := by
  induction cs with
  | nil => rw [joinLines]
  | cons c rest ih =>
    have head := free c List.mem_cons_self
    rw [joinLines, if_neg (by simpa using head), ih fun d mem => free d (List.mem_cons_of_mem c mem)]

theorem breakFree_joinLines (cs : List Char) : BreakFree (joinLines cs) := by
  fun_induction joinLines cs with
  | case1 => intro c mem; cases mem
  | case2 c rest breaks ih =>
    intro d mem
    rcases List.mem_cons.mp mem with rfl | mem
    · exact ⟨by decide, by decide⟩
    · exact ih d mem
  | case3 c rest keeps ih =>
    intro d mem
    rcases List.mem_cons.mp mem with rfl | mem
    · simpa using keeps
    · exact ih d mem

theorem mem_joinLines {cs : List Char} {c : Char} (mem : c ∈ joinLines cs) : c = ' ' ∨ c ∈ cs := by
  fun_induction joinLines cs with
  | case1 => cases mem
  | case2 d rest breaks ih =>
    rcases List.mem_cons.mp mem with rfl | mem
    · exact Or.inl rfl
    · exact (ih mem).imp_right fun inRest => List.mem_cons_of_mem d ((List.dropWhile_sublist _).subset inRest)
  | case3 d rest keeps ih =>
    rcases List.mem_cons.mp mem with rfl | mem
    · exact Or.inr List.mem_cons_self
    · exact (ih mem).imp_right (List.mem_cons_of_mem d)

theorem trimChars_eq (cs : List Char) : trimChars cs = (cs.dropWhile isBlank).rdropWhile isBlank := rfl

theorem trimChars_sublist (cs : List Char) : (trimChars cs).Sublist cs := by
  rw [trimChars_eq]
  exact (List.rdropWhile_prefix isBlank _).sublist.trans (List.dropWhile_sublist _)

theorem trimChars_trimChars (cs : List Char) : trimChars (trimChars cs) = trimChars cs := by
  rw [trimChars_eq (trimChars cs), trimChars_eq cs]
  -- the front of the trimmed list is the front of the list with its leading blanks dropped
  have front : ((cs.dropWhile isBlank).rdropWhile isBlank).dropWhile isBlank =
      (cs.dropWhile isBlank).rdropWhile isBlank := by
    obtain ⟨tail, split⟩ := List.rdropWhile_prefix isBlank (cs.dropWhile isBlank)
    have headKept := List.head?_dropWhile_not isBlank cs
    cases kept : (cs.dropWhile isBlank).rdropWhile isBlank with
    | nil => rfl
    | cons c rest =>
      rw [kept] at split
      rw [← split] at headKept
      simp only [List.cons_append, List.head?_cons] at headKept
      rw [List.dropWhile_cons_of_neg (by simpa using headKept)]
  rw [front, List.rdropWhile_idempotent]

theorem toList_clean (raw : String) : (clean raw).toList = trimChars (joinLines raw.toList) := by
  simp [clean]

theorem mem_clean {raw : String} {c : Char} (mem : c ∈ (clean raw).toList) : c = ' ' ∨ c ∈ raw.toList := by
  rw [toList_clean] at mem
  exact mem_joinLines ((trimChars_sublist _).subset mem)

theorem breakFree_clean (raw : String) : BreakFree (clean raw).toList := by
  rw [toList_clean]
  exact fun c mem => breakFree_joinLines raw.toList c ((trimChars_sublist _).subset mem)

theorem clean_clean (raw : String) : clean (clean raw) = clean raw := by
  apply String.toList_injective
  rw [toList_clean, joinLines_of_breakFree (breakFree_clean raw), toList_clean, trimChars_trimChars]

theorem parse?_clean (raw : String) : parse? (clean raw) = parse? raw := by
  unfold parse?
  rw [joinLines_of_breakFree (breakFree_clean raw), toList_clean, trimChars_trimChars]

/-! ### Reading a canonical text -/

/-- The instants whose canonical text has a four-digit year: 0000-01-01 to 9999-12-31. -/
def FourDigitYear (t : Instant) : Prop := 0 ≤ t.date.1 ∧ t.date.1 ≤ 9999

instance : DecidablePred FourDigitYear := fun t => inferInstanceAs (Decidable (0 ≤ t.date.1 ∧ t.date.1 ≤ 9999))

theorem takeDigits_pad {w n : Nat} (wide : 0 < w) (fits : n < 10 ^ w) (rest : List Char) :
    takeDigits w ((pad w n).toList ++ rest) = some (n, rest) := by
  have length := length_pad wide fits
  unfold takeDigits
  rw [List.take_left' length, List.drop_left' length, if_pos ⟨length,
    List.all_eq_true.mpr fun _ mem => isDigit_of_mem_pad mem⟩, digitsValue_pad]

theorem readClock_pad {h mi s ms : Nat} (hh : h < 100) (hmi : mi < 100) (hs : s < 100) (hms : ms < 1000) :
    readClock ((pad 2 h).toList ++ ':' :: ((pad 2 mi).toList ++ ':' :: ((pad 2 s).toList ++
      '.' :: ((pad 3 ms).toList ++ ['Z'])))) = some ((h, mi, s, ms), ['Z']) := by
  have fraction : ((pad 3 ms).toList ++ ['Z']).takeWhile Char.isDigit = (pad 3 ms).toList :=
    (List.takeWhile_append_of_pos fun _ mem => isDigit_of_mem_pad mem).trans (by simp)
  have afterFraction : ((pad 3 ms).toList ++ ['Z']).dropWhile Char.isDigit = ['Z'] :=
    (List.dropWhile_append_of_pos fun _ mem => isDigit_of_mem_pad mem).trans (by simp)
  have width : (pad 3 ms).toList.length = 3 := length_pad (by decide) hms
  have written : pad 3 ms ≠ "" := fun empty => by simp [empty] at width
  simp only [readClock, takeDigits_pad (w := 2) (by decide) hh,
    takeDigits_pad (w := 2) (by decide) hmi, takeDigits_pad (w := 2) (by decide) hs, Option.bind_eq_bind,
    Option.bind_some, fraction, afterFraction]
  simp [DateTimeFields.fractionMillis, List.take_left' width, digitsValue_pad, written]

/-- The fields a canonical text is written from: the date and time of day in UTC. -/
def isoFields (t : Instant) : DateTimeFields :=
  { year := t.date.1, month := t.date.2.1, day := t.date.2.2, hour := t.msOfDay / 3600000,
    minute := t.msOfDay / 60000 % 60, second := t.msOfDay / 1000 % 60, millis := t.msOfDay % 1000 }

theorem msOfDay_lt (t : Instant) : t.msOfDay < 86400000 := by
  unfold msOfDay msPerDay
  omega

theorem readFields_toIso {t : Instant} (four : FourDigitYear t) : readFields t.toIso.toList = some (isoFields t) := by
  have day := msOfDay_lt t
  have civil := date_spec t
  have zone : readZoneSuffix (['Z'].dropWhile isBlank) = some (some (false, 0, 0)) := by decide
  rw [toIso_toList t four]
  simp only [readFields, List.append_assoc, List.cons_append,
    takeDigits_pad (w := 4) (by decide) (show t.date.1.toNat < 10 ^ 4 by unfold FourDigitYear at four; omega),
    takeDigits_pad (w := 2) (by decide) (show t.date.2.1 < 10 ^ 2 by omega),
    takeDigits_pad (w := 2) (by decide) (show t.date.2.2 < 10 ^ 2 by omega),
    readClock_pad (show t.msOfDay / 3600000 < 100 by omega) (show t.msOfDay / 60000 % 60 < 100 by omega)
      (show t.msOfDay / 1000 % 60 < 100 by omega) (show t.msOfDay % 1000 < 1000 by omega),
    Option.bind_eq_bind, Option.bind_some, true_or, if_true]
  rw [zone]
  simp [isoFields, DateTimeFields.zoneOffset?, Int.toNat_of_nonneg four.1]

theorem msOfDay_eq (t : Instant) : (t.msOfDay : Int) = t.ms % msPerDay :=
  Int.toNat_of_nonneg (Int.emod_nonneg _ (by decide))

theorem toInstant?_isoFields {t : Instant} (four : FourDigitYear t) : (isoFields t).toInstant? = some t := by
  have day := msOfDay_lt t
  have sinceMidnight := msOfDay_eq t
  obtain ⟨month₁, month₁₂, day₁, day₃₁, back⟩ := date_spec t
  have days := daysFromCivil_bounds four.1 four.2 month₁₂ day₃₁
  rw [back] at days
  unfold DateTimeFields.toInstant? ofCivil?
  simp only [isoFields, DateTimeFields.dateValid, DateTimeFields.timeValid, back]
  -- the date is valid by `date_spec`, and a time of day below 24 hours is valid
  rw [if_pos (by
    simp only [month₁, month₁₂, day₁, day₃₁, decide_true, Bool.and_true, Bool.true_and, Bool.and_eq_true,
      Bool.or_eq_true]
    refine ⟨⟨⟨Or.inl ?_, ?_⟩, ?_⟩, ?_⟩ <;> apply decide_eq_true <;> omega)]
  -- the day number and the time of day add back up to the instant, which is in range
  have whole : t.ms / msPerDay * msPerDay + ((t.msOfDay / 3600000 : Nat) : Int) * 3600000 +
      ((t.msOfDay / 60000 % 60 : Nat) : Int) * 60000 + ((t.msOfDay / 1000 % 60 : Nat) : Int) * 1000 +
      ((t.msOfDay % 1000 : Nat) : Int) - 0 * 60000 = t.ms := by
    unfold msPerDay at *
    omega
  rw [whole]
  unfold ofMs? maxMs
  unfold msPerDay at days
  rw [if_pos (by omega)]

theorem printable_of_isoChar {c : Char} (h : isoChar c = true) : 33 ≤ c.toNat ∧ c.toNat < 127 := by
  simp only [isoChar, Bool.or_eq_true, beq_iff_eq] at h
  rcases h with (((((digit | rfl) | rfl) | rfl) | rfl) | rfl) | rfl
  · have := toNat_of_isDigit digit
    omega
  all_goals decide

theorem printable_toIso (t : Instant) : ∀ c ∈ t.toIso.toList, 33 ≤ c.toNat ∧ c.toNat < 127 :=
  fun c mem => printable_of_isoChar (List.all_eq_true.mp (all_isoChar_toIso t) c mem)

theorem readCandidate_of_not_digit {c : Char} (sign : c.isDigit = false) (rest : List Char) :
    readCandidate (c :: rest) = none := by
  simp [readCandidate, readFields, takeDigits, sign]

section Printable

variable {cs : List Char}

theorem trimChars_joinLines_of_printable (printable : ∀ c ∈ cs, 33 ≤ c.toNat ∧ c.toNat < 127) :
    trimChars (joinLines cs) = cs := by
  have free : BreakFree cs := fun c mem => by
    have range := printable c mem
    exact ⟨fun h => by subst h; exact absurd range (by decide), fun h => by subst h; exact absurd range (by decide)⟩
  rw [joinLines_of_breakFree free, trimChars_of_printable printable]

theorem clean_of_printable {raw : String} (printable : ∀ c ∈ raw.toList, 33 ≤ c.toNat ∧ c.toNat < 127) :
    clean raw = raw := by
  apply String.toList_injective
  rw [toList_clean, trimChars_joinLines_of_printable printable]

theorem parse?_of_not_digit {c : Char} {rest : List Char} (printable : ∀ d ∈ c :: rest, 33 ≤ d.toNat ∧ d.toNat < 127)
    (notDigit : c.isDigit = false) : parse? (String.ofList (c :: rest)) = none := by
  have whole : (c :: rest).takeWhile (fun d => !isBlank d) = c :: rest :=
    List.takeWhile_eq_self_iff.mpr fun d mem => by
      have range := printable d mem
      simp [Binary64.isBlank_of_printable range.1 range.2]
  unfold parse?
  simp only [String.toList_ofList, trimChars_joinLines_of_printable printable, whole,
    readCandidate_of_not_digit notDigit]
  simp

end Printable

theorem clean_toIso (t : Instant) : clean t.toIso = t.toIso :=
  clean_of_printable (printable_toIso t)

theorem parse?_toIso {t : Instant} (four : FourDigitYear t) : parse? t.toIso = some t := by
  have written : t.toIso.toList.isEmpty = false := by
    rw [toIso_toList t four]
    simp
  unfold parse?
  simp only [trimChars_joinLines_of_printable (printable_toIso t), written, readCandidate,
    readFields_toIso four, Option.bind_some, toInstant?_isoFields four]
  rfl

theorem toIso_toList_of_wide {t : Instant} (wide : ¬ FourDigitYear t) :
    ∃ sign rest, t.toIso.toList = sign :: rest ∧ sign.isDigit = false := by
  unfold toIso
  unfold FourDigitYear date at wide
  rcases hc : civilFromDays (t.ms / msPerDay) with ⟨y, m, d⟩
  rw [hc] at wide
  simp only [hc, if_neg wide]
  split <;> simp

theorem parse?_toIso_of_wide {t : Instant} (wide : ¬ FourDigitYear t) : parse? t.toIso = none := by
  obtain ⟨sign, rest, text, notDigit⟩ := toIso_toList_of_wide wide
  have printable := printable_toIso t
  rw [text] at printable
  rw [← String.ofList_toList (s := t.toIso), text, parse?_of_not_digit printable notDigit]

theorem parse?_toIso_eq (t : Instant) : parse? t.toIso = if FourDigitYear t then some t else none := by
  by_cases four : FourDigitYear t
  · rw [if_pos four, parse?_toIso four]
  · rw [if_neg four, parse?_toIso_of_wide four]

/-- The instant -0001-12-31T23:00Z, an hour before the year 0000, is written with a signed
year that reading does not accept. -/
theorem toIso_before_year_zero_unread :
    (⟨-62167222800000⟩ : Instant).toIso = "-000001-12-31T23:00:00.000Z" ∧
      parse? "-000001-12-31T23:00:00.000Z" = none := by
  have text : (⟨-62167222800000⟩ : Instant).toIso = "-000001-12-31T23:00:00.000Z" := by decide
  exact ⟨text, text ▸ parse?_toIso_of_wide (by decide)⟩

/-! ### Normalising -/

theorem normalize_normalize (raw : String) : normalize (normalize raw) = normalize raw := by
  cases parsed : parse? raw with
  | none =>
    -- an unrecognised text is cleaned, and its cleaned form is unrecognised too
    have stillNone : parse? (clean raw) = none := by rw [parse?_clean, parsed]
    simp only [normalize, parsed, stillNone, clean_clean]
  | some t =>
    -- the canonical text reads back as the instant, or is not recognised and stays as it is
    by_cases four : FourDigitYear t
    · simp only [normalize, parsed, parse?_toIso four]
    · simp only [normalize, parsed, parse?_toIso_of_wide four, clean_toIso]

theorem parse?_normalize (raw : String) :
    parse? (normalize raw) = (parse? raw).filter fun t => decide (FourDigitYear t) := by
  cases parsed : parse? raw with
  | none => simp only [normalize, parsed, parse?_clean, Option.filter_none]
  | some t =>
    simp only [normalize, parsed, parse?_toIso_eq, Option.filter_some, decide_eq_true_eq]

theorem filter_fourDigitYear {p : Option Instant} (four : ∀ t, p = some t → FourDigitYear t) :
    p.filter (fun t => decide (FourDigitYear t)) = p := by
  cases p with
  | none => rfl
  | some t => simp [four t rfl]

theorem compareNewest_normalize {a b : String} (fourA : ∀ t, parse? a = some t → FourDigitYear t)
    (fourB : ∀ t, parse? b = some t → FourDigitYear t) :
    compareNewest (normalize a) (normalize b) = compareNewest a b := by
  unfold compareNewest
  rw [parse?_normalize, parse?_normalize, filter_fourDigitYear fourA, filter_fourDigitYear fourB]

/-- What normalising keeps: it is idempotent; a normalised text names the instant of the
text when that instant has a four-digit year, and no instant otherwise, since a canonical text
reads back exactly when its year has four digits; and among texts whose instants have
four-digit years it keeps the newest-first order. -/
theorem normalize_keeps_four_digit_instants (a b : String) :
    normalize (normalize a) = normalize a ∧
      parse? (normalize a) = (parse? a).filter (fun t => decide (FourDigitYear t)) ∧
      (∀ t : Instant, parse? t.toIso = if FourDigitYear t then some t else none) ∧
      ((∀ t, parse? a = some t → FourDigitYear t) → (∀ t, parse? b = some t → FourDigitYear t) →
        compareNewest (normalize a) (normalize b) = compareNewest a b) :=
  ⟨normalize_normalize a, parse?_normalize a, parse?_toIso_eq, compareNewest_normalize⟩

/-- The epoch's canonical text and the text one day later keep their order. -/
theorem normalize_keeps_order_at_epoch :
    compareNewest (normalize (⟨0⟩ : Instant).toIso) (normalize (⟨86400000⟩ : Instant).toIso) =
      compareNewest (⟨0⟩ : Instant).toIso (⟨86400000⟩ : Instant).toIso := by
  have epoch := parse?_toIso (t := ⟨0⟩) (by decide)
  have nextDay := parse?_toIso (t := ⟨86400000⟩) (by decide)
  refine (normalize_keeps_four_digit_instants _ _).2.2.2 ?_ ?_
  · intro t parsed
    rw [epoch, Option.some_inj] at parsed
    exact parsed ▸ by decide
  · intro t parsed
    rw [nextDay, Option.some_inj] at parsed
    exact parsed ▸ by decide

end GuildRegistry.Timestamp
