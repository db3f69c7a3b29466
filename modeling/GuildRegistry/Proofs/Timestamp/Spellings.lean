import GuildRegistry.Proofs.Timestamp.Zones

/-! Reading spelled timestamps.

A spelled timestamp is cleaned to its date and time, the blanks after them and its zone, and is read
as the instant its fields name at the zone's offset; when that fails, reading falls back to the
text's first word, which is the date alone after a space separator, or the date and time when blanks
stand before the zone (`parse?_spell`).
-/

set_option autoImplicit false

namespace GuildRegistry.Timestamp

open Text Instant

/-! ### Printable text -/

section Printing

variable {a b : List Char}

@[simp] theorem printable_nil : Printable [] := fun _ mem => nomatch mem

@[simp] theorem printable_cons {c : Char} : Printable (c :: a) ↔ (33 ≤ c.toNat ∧ c.toNat < 127) ∧ Printable a :=
  List.forall_mem_cons

@[simp] theorem printable_append : Printable (a ++ b) ↔ Printable a ∧ Printable b :=
  List.forall_mem_append

theorem breakFree_of_printable (printable : Printable a) : BreakFree a := fun c mem => by
  have range := printable c mem
  constructor <;> rintro rfl <;> revert range <;> decide

theorem not_isBlank_of_printable (printable : Printable a) : ∀ c ∈ a, (!isBlank c) = true := fun c mem => by
  have range := printable c mem
  simp [Binary64.isBlank_of_printable range.1 range.2]

theorem dropWhile_isBlank_of_printable (printable : Printable a) (nonempty : a ≠ []) (b : List Char) :
    (a ++ b).dropWhile isBlank = a ++ b := by
  cases a with
  | nil => exact absurd rfl nonempty
  | cons c rest =>
    have range := printable c List.mem_cons_self
    exact List.dropWhile_cons_of_neg (by simp [Binary64.isBlank_of_printable range.1 range.2])

theorem rdropWhile_isBlank_of_printable (printable : Printable b) (nonempty : b ≠ []) (a : List Char) :
    (a ++ b).rdropWhile isBlank = a ++ b := by
  rw [List.rdropWhile_eq_self_iff]
  intro whole
  have range := printable _ (List.getLast_mem nonempty)
  rw [List.getLast_append_of_ne_nil whole nonempty]
  simp [Binary64.isBlank_of_printable range.1 range.2]

theorem rdropWhile_append_of_blank {p : Char → Bool} (blank : ∀ c ∈ b, p c = true) (a : List Char) :
    (a ++ b).rdropWhile p = a.rdropWhile p := by
  simp only [List.rdropWhile, List.reverse_append,
    List.dropWhile_append_of_pos fun c mem => blank c (List.mem_reverse.mp mem)]

end Printing

/-! ### Joining lines -/

section Joining

variable {a b : List Char}

theorem joinLines_append_of_breakFree_left (free : BreakFree a) (b : List Char) :
    joinLines (a ++ b) = a ++ joinLines b := by
  induction a with
  | nil => rfl
  | cons c rest ih =>
    have head := free c List.mem_cons_self
    rw [List.cons_append, joinLines, if_neg (by simpa using head), ih fun d mem => free d (List.mem_cons_of_mem c mem),
      List.cons_append]

theorem joinLines_append_of_breakFree_right (free : BreakFree b) (a : List Char) :
    joinLines (a ++ b) = joinLines a ++ b := by
  have kept : b.dropWhile (fun d => d = '\n' ∨ d = '\r') = b := by
    cases b with
    | nil => rfl
    | cons c rest => exact List.dropWhile_cons_of_neg (by simpa using free c List.mem_cons_self)
  fun_induction joinLines a with
  | case1 => exact joinLines_of_breakFree free
  | case2 c rest breaks ih =>
    -- the run of breaks ends inside the text, or reaches the break-free one
    have dropped : (rest ++ b).dropWhile (fun d => d = '\n' ∨ d = '\r') =
        rest.dropWhile (fun d => d = '\n' ∨ d = '\r') ++ b := by
      rw [List.dropWhile_append]
      split
      · rename_i gone
        rw [List.isEmpty_iff.mp gone, kept, List.nil_append]
      · rfl
    rw [List.cons_append, joinLines, if_pos breaks, dropped, ih, List.cons_append]
  | case3 c rest keeps ih => rw [List.cons_append, joinLines, if_neg keeps, ih, List.cons_append]

theorem isBlank_of_mem_joinLines (blank : ∀ c ∈ a, isBlank c = true) : ∀ c ∈ joinLines a, isBlank c = true := by
  intro c mem
  rcases mem_joinLines mem with rfl | mem
  · rfl
  · exact blank c mem

theorem joinLines_eq_nil : joinLines a = [] ↔ a = [] := by
  cases a with
  | nil => simp [joinLines]
  | cons c rest => rw [joinLines]; split <;> simp

end Joining

/-! ### The written forms -/

theorem Fraction.printable_text (f : Fraction) : Printable f.text := by
  have digits : Printable f.digits := fun c mem => printable_of_isDigit (f.all_digits c mem)
  cases comma : f.comma <;> simp [Fraction.text, comma, digits]

theorem pad_two_ne_nil (n : Fin 100) : (pad 2 n.val).toList ≠ [] := by
  obtain ⟨a, b, digits, -⟩ := pad_two_eq n
  simp [digits]

theorem Clock.printable_minutes (c : Clock) : Printable ((pad 2 c.minute.val).toList ++
    ((c.second.map fun s => ':' :: (pad 2 s.val).toList).getD [] ++ (c.fraction.map Fraction.text).getD [])) := by
  cases c.second <;> cases c.fraction <;> simp [printable_pad, Fraction.printable_text]

theorem Clock.printable_body (c : Clock) : Printable c.body := by
  simp [Clock.body, printable_pad, c.printable_minutes]


theorem Zone.printable_text (z : Zone) : Printable z.text := by
  cases z with
  | absent => exact printable_nil
  | named letters upper =>
    intro c mem
    simp only [text] at mem
    -- each letter's capital is one of those of `Z`, `UTC` and `GMT`
    have capitals : ∀ word ∈ [['Z'], ['U', 'T', 'C'], ['G', 'M', 'T']], ∀ x ∈ word, 65 ≤ x.toNat ∧ x.toNat ≤ 90 := by
      simp
    have range := capitals _ upper c.toUpper (List.mem_map_of_mem mem)
    rw [toNat_toUpper] at range
    split at range <;> omega
  | colon neg h m | compact neg h m | hours neg h => cases neg <;> simp [text, signChar, printable_pad]

namespace Written

variable (w : Written)

theorem text_of_clock {c : Clock} (clock : w.clock = some c) : w.text = w.date ++ c.separator :: c.body := by
  simp [text, clock]

theorem text_of_no_clock (clock : w.clock = none) : w.text = w.date := by
  simp [text, clock]

theorem printable_date : Printable w.date := by
  simp [date, printable_pad]

theorem date_ne_nil : w.date ≠ [] := by
  simp [date]

theorem text_ne_nil : w.text ≠ [] :=
  List.append_ne_nil_of_left_ne_nil w.date_ne_nil _

theorem text_eq_append_printable : ∃ init last, w.text = init ++ last ∧ Printable last ∧ last ≠ [] := by
  cases clock : w.clock with
  | none =>
    refine ⟨(pad 4 w.year.val).toList ++ '-' :: ((pad 2 w.month.val).toList ++ ['-']), (pad 2 w.day.val).toList,
      ?_, printable_pad _ _, pad_two_ne_nil _⟩
    simp [w.text_of_no_clock clock, date]
  | some c =>
    refine ⟨w.date ++ c.separator :: ((pad 2 c.hour.val).toList ++ [':']), _, ?_, c.printable_minutes, ?_⟩
    · simp [w.text_of_clock clock, Clock.body]
    · exact List.append_ne_nil_of_left_ne_nil (pad_two_ne_nil _) _

theorem breakFree_text : BreakFree w.text := by
  cases clock : w.clock with
  | none => exact w.text_of_no_clock clock ▸ breakFree_of_printable w.printable_date
  | some c =>
    intro d mem
    rw [w.text_of_clock clock, List.mem_append, List.mem_cons] at mem
    rcases mem with date | rfl | body
    · exact breakFree_of_printable w.printable_date d date
    · rcases c.separator_mem with sep | sep | sep <;> rw [sep] <;> decide
    · exact breakFree_of_printable c.printable_body d body

theorem dropWhile_text (rest : List Char) : (w.text ++ rest).dropWhile isBlank = w.text ++ rest := by
  rw [text, List.append_assoc]
  exact dropWhile_isBlank_of_printable w.printable_date w.date_ne_nil _

theorem rdropWhile_text : w.text.rdropWhile isBlank = w.text := by
  obtain ⟨init, last, text, printable, nonempty⟩ := w.text_eq_append_printable
  rw [text]
  exact rdropWhile_isBlank_of_printable printable nonempty init

theorem date_ne_of_spaced (space : w.spaced = true) (rest : List Char) : w.date ≠ w.text ++ rest := by
  cases clock : w.clock with
  | none => simp [spaced, clock] at space
  | some c =>
    intro same
    have length := congrArg List.length same
    simp [w.text_of_clock clock] at length

theorem takeWhile_text (rest : List Char) :
    (w.text ++ rest).takeWhile (fun c => !isBlank c) =
      if w.spaced then w.date else w.text ++ rest.takeWhile (fun c => !isBlank c) := by
  cases clock : w.clock with
  | none =>
    rw [if_neg (by simp [spaced, clock]), List.takeWhile_append_of_pos
      (w.text_of_no_clock clock ▸ not_isBlank_of_printable w.printable_date)]
  | some c =>
    by_cases space : c.separator = ' '
    · rw [if_pos (by simp [spaced, clock, space]), w.text_of_clock clock, List.append_assoc,
        List.takeWhile_append_of_pos (not_isBlank_of_printable w.printable_date), List.cons_append, space,
        List.takeWhile_cons_of_neg (by decide), List.append_nil]
    · have separator : 33 ≤ c.separator.toNat ∧ c.separator.toNat < 127 := by
        rcases c.separator_mem with sep | sep | sep <;> rw [sep] <;> first | decide | exact absurd sep space
      rw [if_neg (by simp [spaced, clock, space]), List.takeWhile_append_of_pos (not_isBlank_of_printable
        (by simpa [w.text_of_clock clock, w.printable_date, c.printable_body] using separator))]

end Written

/-! ### Reading the cleaned text -/

theorem Zone.offset?_of_text_eq_nil {z : Zone} (absent : z.text = []) : z.offset? = some 0 := by
  cases z with
  | absent => rfl
  | named letters upper =>
    simp only [text] at absent
    subst absent
    simp at upper
  | colon | compact | hours => cases absent

theorem parse?_eq_or {raw : String} {s first : List Char} (cleaned : trimChars (joinLines raw.toList) = s)
    (nonempty : s ≠ []) (word : s.takeWhile (fun c => !isBlank c) = first) :
    parse? raw = (readCandidate s).or (if first ≠ [] ∧ first ≠ s then readCandidate first else none) := by
  unfold parse?
  simp only [cleaned, word]
  rw [if_neg (by simpa using nonempty)]
  cases readCandidate s <;> simp

namespace Written

variable (w : Written)

/-- The instant of the first word of a spelled timestamp, when that is a proper part of it: the
date alone after a space separator, the date and time when blanks stand before a zone. -/
def fallback? (blanked : Bool) : Option Instant :=
  if w.spaced then w.dateOnly.instant? 0 else if blanked then w.instant? 0 else none

theorem readCandidate_text : readCandidate w.text = w.instant? 0 := by
  have whole := @readCandidate_spell w [] (fun _ mem => nomatch mem) .absent
  rwa [List.append_nil, Zone.text, List.append_nil] at whole

theorem readCandidate_date : readCandidate w.date = w.dateOnly.instant? 0 := by
  rw [← w.dateOnly.readCandidate_text, w.dateOnly.text_of_no_clock rfl]
  rfl

theorem instant?_offset {off : Int} (small : -1440 < off ∧ off < 1440) :
    w.instant? off = (w.instant? 0).map fun t => ⟨t.ms - off * 60000⟩ := by
  -- validity does not look at the offset
  unfold instant? fields DateTimeFields.toInstant? DateTimeFields.dateValid DateTimeFields.timeValid
  dsimp only
  split_ifs with valid
  · simp only [Bool.and_eq_true, Bool.or_eq_true, decide_eq_true_eq, beq_iff_eq] at valid
    have days := daysFromCivil_bounds (Int.natCast_nonneg w.year.val) (by have := w.year.isLt; omega)
      valid.1.1.1.2 valid.1.2
    unfold Instant.ofCivil? Instant.ofMs? maxMs msPerDay
    rw [if_pos (by omega), if_pos (by omega)]
    simp only [Option.map_some, Option.some.injEq, Instant.mk.injEq]
    omega
  · rfl

theorem or_fallback? {o : Option Instant} (unread : o = none → w.instant? 0 = none) (blanked : Bool) :
    o.or (w.fallback? blanked) = o.or (w.fallback? false) := by
  cases read : o with
  | some t => rfl
  | none =>
    have invalid := unread read
    cases blanked <;> simp [fallback?, invalid]

end Written

/-- What follows the date and time in a cleaned spelled timestamp: the joined blanks and the
zone, or nothing without a zone. -/
def zoneTail (blanks : List Char) (z : Zone) : List Char :=
  if z.text = [] then [] else joinLines blanks ++ z.text

section Spelled

variable (w : Written) {blanks : List Char} (hb : ∀ c ∈ blanks, isBlank c = true) (z : Zone)
include hb

theorem trimChars_joinLines_spell :
    trimChars (joinLines (w.text ++ blanks ++ z.text)) = w.text ++ zoneTail blanks z := by
  rw [List.append_assoc, joinLines_append_of_breakFree_left w.breakFree_text,
    joinLines_append_of_breakFree_right (breakFree_of_printable z.printable_text), trimChars_eq, w.dropWhile_text,
    zoneTail]
  split
  · rename_i absent
    rw [absent, List.append_nil, rdropWhile_append_of_blank (isBlank_of_mem_joinLines hb), w.rdropWhile_text,
      List.append_nil]
  · rename_i present
    rw [← List.append_assoc, rdropWhile_isBlank_of_printable z.printable_text present, List.append_assoc]

theorem readCandidate_zoneTail : readCandidate (w.text ++ zoneTail blanks z) = z.offset?.bind w.instant? := by
  unfold zoneTail
  split
  · rename_i absent
    rw [List.append_nil, w.readCandidate_text, Zone.offset?_of_text_eq_nil absent, Option.bind_some]
  · rw [← List.append_assoc, readCandidate_spell w (isBlank_of_mem_joinLines hb) z]

theorem takeWhile_zoneTail :
    (zoneTail blanks z).takeWhile (fun c => !isBlank c) =
      if blanks ≠ [] ∧ z.text ≠ [] then [] else zoneTail blanks z := by
  unfold zoneTail
  by_cases present : z.text = []
  · simp [present]
  · cases blanks with
    | nil => simp [present, joinLines, List.takeWhile_eq_self_iff.mpr (not_isBlank_of_printable z.printable_text)]
    | cons b bs =>
      obtain ⟨b', bs', joined⟩ := List.exists_cons_of_ne_nil (mt joinLines_eq_nil.mp (List.cons_ne_nil b bs))
      have blank := isBlank_of_mem_joinLines hb b' (joined ▸ List.mem_cons_self)
      rw [if_neg present, if_pos ⟨List.cons_ne_nil b bs, present⟩, joined, List.cons_append,
        List.takeWhile_cons_of_neg (by simp [blank])]

theorem parse?_spell :
    parse? (spell w blanks z) = (z.offset?.bind w.instant?).or (w.fallback? (blanks ≠ [] ∧ z.text ≠ [])) := by
  have cleaned : trimChars (joinLines (spell w blanks z).toList) = w.text ++ zoneTail blanks z := by
    rw [spell, String.toList_ofList, trimChars_joinLines_spell w hb z]
  have word := w.takeWhile_text (zoneTail blanks z)
  rw [takeWhile_zoneTail hb z] at word
  rw [parse?_eq_or cleaned (List.append_ne_nil_of_left_ne_nil w.text_ne_nil _) word, readCandidate_zoneTail w hb z,
    Written.fallback?]
  by_cases space : w.spaced = true
  · -- the first word is the date alone
    simp [space, w.date_ne_nil, w.date_ne_of_spaced space, w.readCandidate_date]
  · by_cases blanked : blanks ≠ [] ∧ z.text ≠ []
    · -- the first word is the date and time
      have tail : zoneTail blanks z ≠ [] := by simp [zoneTail, blanked.2, joinLines_eq_nil, blanked.1]
      simp [space, blanked, w.text_ne_nil, tail, w.readCandidate_text]
    · -- the first word is the whole text
      simp [space, blanked]

end Spelled

theorem parse?_spell_nil (w : Written) (z : Zone) :
    parse? (spell w [] z) = (z.offset?.bind w.instant?).or (w.fallback? false) := by
  rw [@parse?_spell w [] (fun _ mem => nomatch mem)]
  simp

/-! ### Spellings that agree -/

theorem zoneOffset?_of_lt (neg : Bool) {h m : Nat} (hours : h < 24) (minutes : m < 60) :
    DateTimeFields.zoneOffset? neg h m = some ((if neg then -1 else 1) * (60 * h + m : Int)) := by
  rw [DateTimeFields.zoneOffset?, if_pos ⟨hours, minutes⟩]
  cases neg <;> simp <;> omega

/-- How the zone spellings of one written timestamp read, with `blanks` before the zone. -/
structure SpellingsAgree (w : Written) (blanks : List Char) : Prop where
  /-- `±hh:mm` and `±hhmm` read alike. -/
  compact : ∀ neg (h m : Fin 100), parse? (spell w blanks (.colon neg h m)) = parse? (spell w blanks (.compact neg h m))
  /-- `±hh:00` and `±hh` read alike. -/
  hours : ∀ neg (h : Fin 100), parse? (spell w blanks (.colon neg h 0)) = parse? (spell w blanks (.hours neg h))
  /-- `Z`, `UTC` and `GMT` in any letter case read as no zone. -/
  named : ∀ letters upper, parse? (spell w blanks (.named letters upper)) = parse? (spell w [] .absent)
  /-- Below `24:00`, with minutes below `60`, the blanks change nothing, and the offset moves a
  valid date and time by itself. -/
  offset : ∀ neg (h m : Fin 100), h.val < 24 → m.val < 60 →
    parse? (spell w blanks (.colon neg h m)) = parse? (spell w [] (.colon neg h m)) ∧
      ∀ t, w.instant? 0 = some t → parse? (spell w [] .absent) = some t ∧
        parse? (spell w blanks (.colon neg h m)) = some ⟨t.ms - (if neg then -1 else 1) * (60 * h.val + m.val) * 60000⟩

theorem zone_spellings_agree (w : Written) {blanks : List Char} (hb : ∀ c ∈ blanks, isBlank c = true) :
    SpellingsAgree w blanks where
  compact neg h m := by
    simp only [parse?_spell w hb, Zone.offset?, Zone.text, ne_eq, reduceCtorEq, not_false_eq_true, and_true]
  hours neg h := by
    simp only [parse?_spell w hb, Zone.offset?, Fin.val_zero, Zone.text, ne_eq, reduceCtorEq, not_false_eq_true, and_true]
  named letters upper := by
    rw [parse?_spell w hb, parse?_spell_nil w]
    simp only [Zone.offset?, Option.bind_some]
    exact w.or_fallback? id _
  offset neg h m hours minutes := by
    have named := zoneOffset?_of_lt neg hours minutes
    have small : -1440 < (if neg then -1 else 1) * (60 * h.val + m.val : Int) ∧
        (if neg then -1 else 1) * (60 * h.val + m.val : Int) < 1440 := by
      cases neg <;> simp <;> omega
    rw [parse?_spell w hb, parse?_spell_nil w, parse?_spell_nil w]
    simp only [Zone.offset?, named, Option.bind_some, w.instant?_offset small]
    refine ⟨w.or_fallback? (fun unread => Option.map_eq_none_iff.mp unread) _, fun t valid => ?_⟩
    simp [valid]

/-- `2024-05-01T12:00`. -/
def mayDayNoon : Written := ⟨2024, 5, 1, some ⟨'T', Or.inl rfl, 12, 0, none, none⟩⟩

theorem spellings_agree_at_may_day_noon :
    (∀ c ∈ [' '], isBlank c = true) ∧ SpellingsAgree mayDayNoon [' '] :=
  have blank : ∀ c ∈ [' '], isBlank c = true := fun c mem => by rw [List.mem_singleton.mp mem]; rfl
  ⟨blank, zone_spellings_agree mayDayNoon blank⟩

/-- An offset of `24:00` is no zone: the text falls back to its first word, which is the date and
time read as UTC after a blank and the whole unreadable text without one. An hour of `25` after a
space leaves the date alone, whatever the offset. -/
theorem offset_spelling_falls_back_to_first_word :
    parse? "2024-05-01T12:00 +24:00" = some ⟨1714564800000⟩ ∧ parse? "2024-05-01T12:00+24:00" = none ∧
      parse? "2024-05-01 25:00+01:00" = some ⟨1714521600000⟩ := by
  have blanked : "2024-05-01T12:00 +24:00" = spell mayDayNoon [' '] (.colon false 24 0) := by decide
  have joined : "2024-05-01T12:00+24:00" = spell mayDayNoon [] (.colon false 24 0) := by decide
  have late : "2024-05-01 25:00+01:00" =
      spell ⟨2024, 5, 1, some ⟨' ', Or.inr (Or.inr rfl), 25, 0, none, none⟩⟩ [] (.colon false 1 0) := by decide
  have blank : ∀ c ∈ [' '], isBlank c = true := fun c mem => by rw [List.mem_singleton.mp mem]; rfl
  rw [blanked, joined, late, parse?_spell _ blank, parse?_spell_nil _,
    parse?_spell_nil _]
  decide

end GuildRegistry.Timestamp
