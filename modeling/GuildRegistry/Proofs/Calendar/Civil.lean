import Mathlib.Algebra.Group.Nat.Defs
import GuildRegistry.Calendar.Fields
import GuildRegistry.Proofs.Text.Digits

/-! Day numbers and civil dates.

`civilFromDays` cuts a day number into 400-year eras, years of the era counted from March 1, days of
the year and months of 153-day five-month runs; `daysFromCivil` adds the same pieces back.
-/

set_option autoImplicit false

namespace GuildRegistry.Instant

/-! ### The year of an era -/

/-- The days of an era before a day, less one for each leap day passed: a multiple of 365
plus the day of the year. -/
def eraDays (doe : Int) : Int := doe - doe / 1460 + doe / 36524 - doe / 146096

/-- The first day of a year of an era, counted from March 1 of its first year. -/
def startOfYear (yoe : Int) : Int := 365 * yoe + yoe / 4 - yoe / 100

theorem eraDays_mono {a b : Int} (le : a ≤ b) : eraDays a ≤ eraDays b := by
  unfold eraDays
  omega

theorem eraDays_ends :
    ∀ y < 400, eraDays (startOfYear (y : Nat)) / 365 = (y : Nat) ∧
      eraDays (startOfYear ((y + 1 : Nat) : Int) - 1) / 365 = (y : Nat) := by
  decide +kernel

theorem startOfYear_le_dayOfEra {doe : Int} (lo : 0 ≤ doe) (hi : doe ≤ 146096) :
    0 ≤ eraDays doe / 365 ∧ eraDays doe / 365 ≤ 399 ∧
      startOfYear (eraDays doe / 365) ≤ doe ∧ doe ≤ startOfYear (eraDays doe / 365) + 365 := by
  have bottom := eraDays_mono lo
  have top := eraDays_mono hi
  have atZero : eraDays 0 = 0 := rfl
  have atEnd : eraDays 146096 = 145999 := rfl
  obtain ⟨y, hy⟩ : ∃ y : Nat, eraDays doe / 365 = y := ⟨(eraDays doe / 365).toNat, by omega⟩
  have yearHi : y ≤ 399 := by omega
  rw [hy]
  refine ⟨by omega, by omega, ?_, ?_⟩
  · -- a day before the year's start falls at or before the last day of the year before
    refine Int.not_lt.mp fun before => ?_
    obtain ⟨x, rfl⟩ : ∃ x : Nat, y = x + 1 := ⟨y - 1, by unfold startOfYear at before; omega⟩
    have ends := (eraDays_ends x (by omega)).2
    have le := eraDays_mono (show doe ≤ startOfYear ((x + 1 : Nat) : Int) - 1 by omega)
    have := Int.ediv_le_ediv (by decide : (0 : Int) < 365) le
    omega
  · -- a day past the year's last falls in the next year, which the formula would pick
    refine Int.not_lt.mp fun after => ?_
    have notLast : y ≠ 399 := by
      rintro rfl
      unfold startOfYear at after
      omega
    have ends := (eraDays_ends (y + 1) (by omega)).1
    have le := eraDays_mono (show startOfYear ((y + 1 : Nat) : Int) ≤ doe by unfold startOfYear at after ⊢; omega)
    have := Int.ediv_le_ediv (by decide : (0 : Int) < 365) le
    omega

/-! ### Civil dates -/

theorem exists_toNat {x : Int} (h : 0 ≤ x) : ∃ n : Nat, x.toNat = n ∧ (n : Int) = x :=
  ⟨x.toNat, rfl, Int.toNat_of_nonneg h⟩

theorem civilFromDays_spec (z : Int) :
    1 ≤ (civilFromDays z).2.1 ∧ (civilFromDays z).2.1 ≤ 12 ∧ 1 ≤ (civilFromDays z).2.2 ∧
      (civilFromDays z).2.2 ≤ 31 ∧
      daysFromCivil (civilFromDays z).1 (civilFromDays z).2.1 (civilFromDays z).2.2 = z := by
  unfold civilFromDays daysFromCivil
  dsimp only
  -- name the era, the day of the era, the year of the era, the day of the year and the month
  obtain ⟨era, hera⟩ : ∃ era, (z + 719468) / 146097 = era := ⟨_, rfl⟩
  have eraLo : era * 146097 ≤ z + 719468 := by omega
  have eraHi : z + 719468 < era * 146097 + 146097 := by omega
  obtain ⟨doe, hdoe⟩ : ∃ doe, z + 719468 - era * 146097 = doe := ⟨_, rfl⟩
  have year := startOfYear_le_dayOfEra (show 0 ≤ doe by omega) (show doe ≤ 146096 by omega)
  unfold eraDays startOfYear at year
  obtain ⟨yoe, hyoe⟩ : ∃ yoe, (doe - doe / 1460 + doe / 36524 - doe / 146096) / 365 = yoe := ⟨_, rfl⟩
  obtain ⟨doy, hdoy⟩ : ∃ doy, doe - (365 * yoe + yoe / 4 - yoe / 100) = doy := ⟨_, rfl⟩
  obtain ⟨mp, hmp⟩ : ∃ mp, (5 * doy + 2) / 153 = mp := ⟨_, rfl⟩
  simp only [hera, hdoe, hyoe, hdoy, hmp] at year ⊢
  have doyLo : 0 ≤ doy := by omega
  have doyHi : doy ≤ 365 := by omega
  have mpLo : 0 ≤ mp := by omega
  have mpHi : mp ≤ 11 := by omega
  obtain ⟨day, hday, dayEq⟩ := exists_toNat (show 0 ≤ doy - (153 * mp + 2) / 5 + 1 by omega)
  -- the year counted from March falls in the same era
  have eraEq : (yoe + era * 400) / 400 = era := by omega
  have yoeEq : yoe + era * 400 - era * 400 = yoe := by omega
  simp only [hday]
  -- the month is March … December, or January or February of the next year
  by_cases early : mp < 10
  · obtain ⟨month, hmonth, monthEq⟩ := exists_toNat (show 0 ≤ mp + 3 by omega)
    have shift : (month : Int) - 3 = mp := by omega
    simp only [early, if_true, hmonth]
    repeat' split
    all_goals simp only [Int.add_sub_cancel, eraEq, yoeEq, shift] at *; omega
  · obtain ⟨month, hmonth, monthEq⟩ := exists_toNat (show 0 ≤ mp - 9 by omega)
    have shift : (month : Int) + 9 = mp := by omega
    simp only [early, if_false, hmonth]
    repeat' split
    all_goals simp only [Int.add_sub_cancel, eraEq, yoeEq, shift] at *; omega

theorem daysFromCivil_bounds {y : Int} {m d : Nat} (lo : 0 ≤ y) (hi : y ≤ 9999) (month : m ≤ 12)
    (day : d ≤ 31) : -1000000 ≤ daysFromCivil y m d ∧ daysFromCivil y m d ≤ 4000000 := by
  unfold daysFromCivil
  dsimp only
  split <;> split <;> omega

/-! ### Fixed-width fields -/

theorem pad_toList (w n : Nat) :
    (pad w n).toList = List.replicate (w - (Nat.toDigits 10 n).length) '0' ++ Nat.toDigits 10 n := by
  simp [pad, Nat.repr_eq_ofList_toDigits]

theorem length_pad {w n : Nat} (wide : 0 < w) (fits : n < 10 ^ w) : (pad w n).toList.length = w := by
  have short := (Nat.length_toDigits_le_iff (by decide) wide).mpr fits
  rw [pad_toList, List.length_append, List.length_replicate]
  omega

theorem isDigit_of_mem_pad {w n : Nat} {c : Char} (mem : c ∈ (pad w n).toList) : c.isDigit = true := by
  rw [pad_toList, List.mem_append, List.mem_replicate] at mem
  rcases mem with ⟨-, rfl⟩ | digit
  · rfl
  · exact Nat.isDigit_of_mem_toDigits (by decide) (by decide) digit

theorem digitsValue_pad (w n : Nat) : DateTimeFields.digitsValue (pad w n).toList = n := by
  rw [DateTimeFields.digitsValue, show '0'.toNat = 48 from rfl, Text.foldl_digits, pad_toList,
    Nat.ofDigitChars_append, Nat.ofDigitChars_replicate_zero, Nat.mul_zero, Nat.ofDigitChars_ten_toDigits]

/-! ### The canonical text -/

/-- The civil date of an instant in UTC: year, month and day. -/
def date (t : Instant) : Int × Nat × Nat := civilFromDays (t.ms / msPerDay)

theorem date_spec (t : Instant) :
    1 ≤ t.date.2.1 ∧ t.date.2.1 ≤ 12 ∧ 1 ≤ t.date.2.2 ∧ t.date.2.2 ≤ 31 ∧
      daysFromCivil t.date.1 t.date.2.1 t.date.2.2 = t.ms / msPerDay :=
  civilFromDays_spec _

/-- The milliseconds an instant lies past its midnight in UTC. -/
def msOfDay (t : Instant) : Nat := (t.ms % msPerDay).toNat

theorem toIso_toList (t : Instant) (four : 0 ≤ t.date.1 ∧ t.date.1 ≤ 9999) :
    t.toIso.toList = (pad 4 t.date.1.toNat).toList ++ '-' :: (pad 2 t.date.2.1).toList ++
      '-' :: (pad 2 t.date.2.2).toList ++ 'T' :: (pad 2 (t.msOfDay / 3600000)).toList ++
      ':' :: (pad 2 (t.msOfDay / 60000 % 60)).toList ++ ':' :: (pad 2 (t.msOfDay / 1000 % 60)).toList ++
      '.' :: (pad 3 (t.msOfDay % 1000)).toList ++ ['Z'] := by
  unfold toIso msOfDay
  unfold date at four ⊢
  rcases hc : civilFromDays (t.ms / msPerDay) with ⟨y, m, d⟩
  rw [hc] at four
  simp [hc, four]

/-- The characters of a canonical text: digits, the two signs, and `T`, `:`, `.` and `Z`. -/
def isoChar (c : Char) : Bool :=
  c.isDigit || c == '-' || c == '+' || c == 'T' || c == ':' || c == '.' || c == 'Z'

theorem all_isoChar_pad (w n : Nat) : (pad w n).toList.all isoChar = true :=
  List.all_eq_true.mpr fun _ mem => by simp [isoChar, isDigit_of_mem_pad mem]

theorem all_isoChar_toIso (t : Instant) : t.toIso.toList.all isoChar = true := by
  have marks : ∀ s ∈ ["-", "+", "T", ":", ".", "Z"], s.toList.all isoChar = true := by decide
  unfold toIso
  simp only [String.toList_append, List.all_append, all_isoChar_pad, Bool.and_true,
    marks "-" (by simp), marks "T" (by simp), marks ":" (by simp), marks "." (by simp), marks "Z" (by simp)]
  -- the year has four digits, or a sign and six
  split
  · exact all_isoChar_pad _ _
  · split <;> simp only [String.toList_append, List.all_append, all_isoChar_pad, Bool.and_true,
      marks "-" (by simp), marks "+" (by simp)]

end GuildRegistry.Instant
