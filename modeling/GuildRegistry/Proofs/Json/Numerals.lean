import GuildRegistry.Proofs.Json.Scanning
import GuildRegistry.Proofs.Number.Reading

/-! Reading back the text of a number.

A nonzero finite value is written as an optional minus sign, the digits of its integer part, a point
and the digits of its fraction when it has one, and an exponent when it is very large or very small:
the shape of a numeral (`Binary64.format_numeral`).
-/

set_option autoImplicit false

namespace GuildRegistry.Json

open Binary64

-- powers of naturals are computed by `Nat.pow`, as in the reader
attribute [local instance (high)] instPowNat

/-- The fraction of a numeral: a point and its digits, or nothing. -/
def fractionChars (frac : List Char) : List Char := if frac = [] then [] else '.' :: frac

/-- The exponent of a numeral: `e`, a sign and digits, or nothing. -/
def exponentChars : Option Int → List Char
  | none => []
  | some m => 'e' :: (if 0 ≤ m then '+' else '-') :: Nat.toDigits 10 m.natAbs

/-- The sign of a numeral. -/
def signChars (neg : Bool) : List Char := if neg then ['-'] else []

/-- The characters of a number written with a sign, the digits of its integer part, those of
its fraction and an exponent. -/
def numeralChars (neg : Bool) (whole frac : List Char) (exp : Option Int) : List Char :=
  signChars neg ++ whole ++ fractionChars frac ++ exponentChars exp

/-- The digits of a numeral: an integer part that starts with zero only when it is zero before
a point. -/
structure NumeralShape (whole frac : List Char) : Prop where
  whole_digits : ∀ c ∈ whole, c.isDigit = true
  frac_digits : ∀ c ∈ frac, c.isDigit = true
  whole_ne : whole ≠ []
  lead : whole.head? ≠ some '0' ∨ (whole = ['0'] ∧ frac ≠ [])

/-- What may stand right after a written value: a comma, a closing bracket, or the end. -/
def Closes (cs : Array Char) (q : Nat) : Prop := ∀ c, cs[q]? = some c → c = ',' ∨ c = ']' ∨ c = '\x7d'

variable {cs : Array Char} {p : Nat}

theorem digitsEnd_of_occurs {w : List Char} (here : Occurs cs p w) (digits : ∀ c ∈ w, c.isDigit = true)
    (stop : ∀ c, cs[p + w.length]? = some c → c.isDigit = false) : digitsEnd cs p = p + w.length := by
  induction w generalizing p with
  | nil =>
    rw [digitsEnd]
    split
    · rename_i inside
      have := stop cs[p] (by simp [inside])
      simp [this]
    · rfl
  | cons c rest ih =>
    obtain ⟨h0, more⟩ := Occurs.cons_iff.mp here
    have inside : p < cs.size := by
      rw [Array.getElem?_eq_some_iff] at h0; exact h0.1
    rw [digitsEnd, dif_pos inside]
    have same : cs[p] = c := by simpa [inside] using h0
    rw [same, if_pos (digits c (by simp)), ih more (fun d h => digits d (by simp [h])) (by simpa [Nat.add_assoc, Nat.add_comm 1] using stop)]
    simp only [List.length_cons]; omega

theorem digitsValue_of_occurs {w : List Char} (here : Occurs cs p w) :
    digitsValue cs p (p + w.length) = Nat.ofDigitChars 10 w 0 := by
  unfold digitsValue
  rw [← Array.foldl_toList, here.extract]
  exact Text.foldl_digits w 0

theorem not_digit_of_closes {c : Char} (h : c = ',' ∨ c = ']' ∨ c = '\x7d') :
    c.isDigit = false ∧ c ≠ '.' ∧ c ≠ 'e' ∧ c ≠ 'E' ∧ continuesNumber c = false := by
  rcases h with rfl | rfl | rfl <;> decide

theorem scanWhole_digits (neg : Bool) {whole : List Char} (here : Occurs cs p whole)
    (digits : ∀ c ∈ whole, c.isDigit = true) (ne : whole ≠ []) (lead : whole.head? ≠ some '0')
    (stop : ∀ c, cs[p + whole.length]? = some c → c.isDigit = false) :
    scanWhole cs neg p = .ok (p + whole.length, false) := by
  obtain ⟨c, rest, rfl⟩ := List.exists_cons_of_ne_nil ne
  have h0 := (Occurs.cons_iff.mp here).1
  have notZero : c ≠ '0' := fun same => lead (by simp [same])
  rw [scanWhole, digitsEnd_of_occurs here digits stop]
  simp [h0, notZero, pure, Except.pure]

theorem scanWhole_zero_point (neg : Bool) (here : Occurs cs p ['0', '.']) :
    scanWhole cs neg p = .ok (p + 1, false) := by
  obtain ⟨h0, h1⟩ := occurs_pair here
  simp [scanWhole, h0, h1, continuesNumber, pure, Except.pure]

theorem scanFraction_none {q : Nat} (noPoint : cs[q]? ≠ some '.') : scanFraction cs q = .ok q := by
  simp [scanFraction, noPoint, pure, Except.pure]

theorem scanFraction_digits {frac : List Char} (here : Occurs cs p ('.' :: frac))
    (digits : ∀ c ∈ frac, c.isDigit = true) (ne : frac ≠ [])
    (stop : ∀ c, cs[p + 1 + frac.length]? = some c → c.isDigit = false) :
    scanFraction cs p = .ok (p + 1 + frac.length) := by
  obtain ⟨h0, rest⟩ := Occurs.cons_iff.mp here
  rw [scanFraction, digitsEnd_of_occurs rest digits stop]
  have : frac.length ≠ 0 := by simpa using ne
  simp [h0, this, pure, Except.pure]

theorem scanExponent_none {q : Nat} (noE : cs[q]? ≠ some 'e' ∧ cs[q]? ≠ some 'E') :
    scanExponent cs q = .ok (q, 0) := by
  simp [scanExponent, noE.1, noE.2, pure, Except.pure]

theorem scanExponent_signed (m : Int) (here : Occurs cs p (exponentChars (some m)))
    (stop : ∀ c, cs[p + (exponentChars (some m)).length]? = some c → c.isDigit = false) :
    scanExponent cs p = .ok (p + (exponentChars (some m)).length, m) := by
  have digits : ∀ c ∈ Nat.toDigits 10 m.natAbs, c.isDigit = true := fun c h =>
    Nat.isDigit_of_mem_toDigits (by decide) (by decide) h
  unfold exponentChars at here
  obtain ⟨he, rest⟩ := Occurs.cons_iff.mp here
  obtain ⟨hs, body⟩ := Occurs.cons_iff.mp rest
  have stop' : ∀ c, cs[p + 1 + 1 + (Nat.toDigits 10 m.natAbs).length]? = some c → c.isDigit = false := by
    intro c h
    apply stop c
    rw [show p + (exponentChars (some m)).length = p + 1 + 1 + (Nat.toDigits 10 m.natAbs).length by
      simp [exponentChars]; omega]
    exact h
  have ends := digitsEnd_of_occurs body digits stop'
  have value := digitsValue_of_occurs body
  rw [Nat.ofDigitChars_ten_toDigits] at value
  have ne : (Nat.toDigits 10 m.natAbs).length ≠ 0 := by simp [Nat.toDigits_ne_nil]
  by_cases nonneg : 0 ≤ m
  · rw [if_pos nonneg] at hs
    simp only [scanExponent, he, hs]
    simp [ends, value, ne, exponentChars, nonneg, pure, Except.pure]
    omega
  · rw [if_neg nonneg] at hs
    -- a negative exponent is the negation of its digits' value
    obtain ⟨k, rfl⟩ := Int.exists_eq_neg_ofNat (Int.le_of_lt (Int.not_le.mp nonneg))
    simp only [Int.natAbs_neg, Int.natAbs_natCast] at ends value ne
    simp only [scanExponent, he, hs]
    simp [ends, value, ne, exponentChars, pure, Except.pure]
    omega

theorem getElem?_of_closes {q : Nat} {t : List Char} (here : Occurs cs q t) (closes : Closes cs (q + t.length))
    {P : Char → Prop} (first : ∀ c ∈ t.head?, P c) (closing : ∀ c, (c = ',' ∨ c = ']' ∨ c = '\x7d') → P c) :
    ∀ c, cs[q]? = some c → P c := by
  intro c found
  cases t with
  | nil => exact closing c (closes c (by simpa using found))
  | cons d rest =>
    have same : c = d := by
      have := (Occurs.cons_iff.mp here).1
      rw [found] at this
      exact Option.some.inj this
    exact same ▸ first d rfl

theorem digitsValue_empty (a : Nat) : digitsValue cs (a + 1) a = 0 := by
  unfold digitsValue
  rw [← Array.foldl_toList, Array.toList_extract, List.extract_eq_take_drop]
  simp

theorem length_fractionChars {frac : List Char} (ne : frac ≠ []) : (fractionChars frac).length = 1 + frac.length := by
  simp [fractionChars, ne, Nat.add_comm]

theorem scanNumber_numeral (neg : Bool) {whole frac : List Char} {exp : Option Int}
    (shape : NumeralShape whole frac) (here : Occurs cs p (numeralChars neg whole frac exp))
    (closes : Closes cs (p + (numeralChars neg whole frac exp).length)) :
    scanNumber cs p = .ok (.num (ofDecimal neg (Nat.ofDigitChars 10 (whole ++ frac) 0) (exp.getD 0 - frac.length)),
      p + (numeralChars neg whole frac exp).length) := by
  unfold numeralChars at here closes ⊢
  obtain ⟨signed, exponent⟩ := Occurs.append_iff.mp here
  obtain ⟨signedWhole, fraction⟩ := Occurs.append_iff.mp signed
  obtain ⟨sign, digits⟩ := Occurs.append_iff.mp signedWhole
  simp only [List.length_append, ← Nat.add_assoc] at exponent fraction digits closes ⊢
  -- a minus sign is read as one
  have signRead : (cs[p]? == some '-') = neg := by
    cases neg with
    | true => simpa [signChars, Occurs.singleton_iff] using sign
    | false =>
      obtain ⟨c, rest, rfl⟩ := List.exists_cons_of_ne_nil shape.whole_ne
      have h0 : cs[p]? = some c := by simpa [signChars] using (Occurs.cons_iff.mp digits).1
      have notMinus : c ≠ '-' := by
        intro same
        have := shape.whole_digits c List.mem_cons_self
        rw [same] at this
        cases this
      simp [h0, notMinus]
  have first : (if neg = true then p + 1 else p) = p + (signChars neg).length := by
    cases neg <;> rfl
  -- each part ends where the next begins, and the last where the value closes
  have rest : Occurs cs (p + (signChars neg).length + whole.length) (fractionChars frac ++ exponentChars exp) :=
    Occurs.append_iff.mpr ⟨fraction, exponent⟩
  have restCloses : Closes cs (p + (signChars neg).length + whole.length +
      (fractionChars frac ++ exponentChars exp).length) := by
    rw [List.length_append, ← Nat.add_assoc]
    exact closes
  have expCloses : Closes cs (p + (signChars neg).length + whole.length + (fractionChars frac).length +
      (exponentChars exp).length) := closes
  have expHead : ∀ c ∈ (exponentChars exp).head?, c = 'e' := by
    cases exp <;> simp [exponentChars]
  have afterWhole := getElem?_of_closes rest restCloses (P := fun c => c.isDigit = false)
    (by cases frac <;> cases exp <;> simp [fractionChars, exponentChars])
    (fun c closing => (not_digit_of_closes closing).1)
  have afterFraction := getElem?_of_closes exponent expCloses (P := fun c => c.isDigit = false ∧ c ≠ '.')
    (fun c mem => by rw [expHead c mem]; decide)
    (fun c closing => ⟨(not_digit_of_closes closing).1, (not_digit_of_closes closing).2.1⟩)
  have wholeRead : scanWhole cs neg (p + (signChars neg).length) = .ok (p + (signChars neg).length + whole.length, false) := by
    rcases shape.lead with lead | ⟨rfl, ne⟩
    · exact scanWhole_digits neg digits shape.whole_digits shape.whole_ne lead afterWhole
    · have point : Occurs cs (p + (signChars neg).length) ['0', '.'] := by
        obtain ⟨d, more, rfl⟩ := List.exists_cons_of_ne_nil ne
        have h1 := (Occurs.cons_iff.mp (show Occurs _ _ ('.' :: d :: more) by simpa [fractionChars] using fraction)).1
        exact Occurs.cons_iff.mpr ⟨(Occurs.cons_iff.mp digits).1, Occurs.singleton_iff.mpr h1⟩
      simpa using scanWhole_zero_point neg point
  have fractionRead : scanFraction cs (p + (signChars neg).length + whole.length) =
      .ok (p + (signChars neg).length + whole.length + (fractionChars frac).length) := by
    by_cases empty : frac = []
    · subst empty
      have noPoint : cs[p + (signChars neg).length + whole.length]? ≠ some '.' := by
        intro found
        exact (afterFraction '.' (by simpa [fractionChars] using found)).2 rfl
      simpa [fractionChars] using scanFraction_none noPoint
    · rw [length_fractionChars empty, ← Nat.add_assoc]
      refine scanFraction_digits (by simpa [fractionChars, empty] using fraction) shape.frac_digits empty ?_
      intro c found
      exact (afterFraction c (by rw [length_fractionChars empty, ← Nat.add_assoc]; exact found)).1
  have exponentRead : scanExponent cs (p + (signChars neg).length + whole.length + (fractionChars frac).length) =
      .ok (p + (signChars neg).length + whole.length + (fractionChars frac).length + (exponentChars exp).length,
        exp.getD 0) := by
    cases exp with
    | none =>
      have noE := fun c found => (not_digit_of_closes (closes c (by simpa [exponentChars] using found)))
      refine (scanExponent_none ⟨fun found => (noE 'e' found).2.2.1 rfl, fun found => (noE 'E' found).2.2.2.1 rfl⟩).trans ?_
      simp [exponentChars]
    | some m =>
      exact scanExponent_signed m exponent fun c found => (not_digit_of_closes (closes c found)).1
  -- the digits of the integer part, then those of the fraction
  have fracDigits : (if p + (signChars neg).length + whole.length + (fractionChars frac).length >
      p + (signChars neg).length + whole.length then
      p + (signChars neg).length + whole.length + (fractionChars frac).length -
        (p + (signChars neg).length + whole.length + 1) else 0) = frac.length := by
    by_cases empty : frac = []
    · simp [empty, fractionChars]
    · rw [length_fractionChars empty]; simp; omega
  have wholeValue := digitsValue_of_occurs digits
  have fracValue : digitsValue cs (p + (signChars neg).length + whole.length + 1)
      (p + (signChars neg).length + whole.length + (fractionChars frac).length) = Nat.ofDigitChars 10 frac 0 := by
    by_cases empty : frac = []
    · subst empty
      simpa [fractionChars] using @digitsValue_empty cs (p + (signChars neg).length + whole.length)
    · rw [length_fractionChars empty, ← Nat.add_assoc]
      exact digitsValue_of_occurs (Occurs.cons_iff.mp (by simpa [fractionChars, empty] using fraction)).2
  simp only [scanNumber, signRead, first, wholeRead, fractionRead, exponentRead, fracDigits, wholeValue, fracValue,
    bind, Except.bind, pure, Except.pure, Bool.false_eq_true, if_false]
  rw [Nat.ofDigitChars_append, @Nat.ofDigitChars_eq_ofDigitChars_zero frac (Nat.ofDigitChars 10 whole 0),
    Nat.mul_comm (10 ^ frac.length)]

end GuildRegistry.Json

namespace GuildRegistry.Binary64

open Json

theorem readUnsignedDecimal_numeral {whole frac : List Char} (exp : Option Int) (shape : NumeralShape whole frac) :
    readUnsignedDecimal (whole ++ fractionChars frac ++ exponentChars exp) =
      some (Nat.ofDigitChars 10 (whole ++ frac) 0, exp.getD 0 - frac.length) := by
  have hw := shape.whole_digits
  have hf := shape.frac_digits
  by_cases empty : frac = []
  · subst empty
    cases exp with
    | none => simpa [fractionChars, exponentChars] using readUnsignedDecimal_digits hw shape.whole_ne
    | some m =>
      simpa [fractionChars, exponentChars, readExponent_sign] using
        readUnsignedDecimal_exponent hw shape.whole_ne ((if 0 ≤ m then '+' else '-') :: Nat.toDigits 10 m.natAbs)
  · cases exp with
    | none => simpa [fractionChars, exponentChars, empty] using readUnsignedDecimal_point hw hf shape.whole_ne
    | some m =>
      simpa [fractionChars, exponentChars, empty, readExponent_sign] using
        readUnsignedDecimal_point_exponent hw hf shape.whole_ne ((if 0 ≤ m then '+' else '-') :: Nat.toDigits 10 m.natAbs)

theorem head_toDigits_ne_zero {n : Nat} (pos : 0 < n) : (Nat.toDigits 10 n).head? ≠ some '0' := by
  induction n using Nat.strongRecOn with
  | ind n ih =>
    rw [Nat.toDigits_eq_if (by decide)]
    split
    · rename_i small
      have : ∀ m < 10, 0 < m → m.digitChar ≠ '0' := by decide
      simpa using this n small pos
    · rename_i large
      have rest := ih (n / 10) (by omega) (by omega)
      obtain ⟨d, more, same⟩ := List.exists_cons_of_ne_nil (Nat.toDigits_ne_nil (b := 10) (n := n / 10))
      rw [same] at rest ⊢
      simpa using rest

theorem layout_numeral_shape {ds : List Char} (digits : ∀ c ∈ ds, c.isDigit = true) (ne : ds ≠ [])
    (lead : ds.head? ≠ some '0') (n : Int) :
    ∃ whole frac exp, (layout (String.ofList ds) n).toList = whole ++ fractionChars frac ++ exponentChars exp ∧
      NumeralShape whole frac := by
  obtain ⟨d, more, rfl⟩ := List.exists_cons_of_ne_nil ne
  have zeros : ∀ m, ∀ c ∈ List.replicate m '0', c.isDigit = true := by
    intro m c h; rw [List.eq_of_mem_replicate h]; rfl
  have first : d ≠ '0' := fun same => lead (by simp [same])
  rw [layout_toList]
  by_cases fits : ((d :: more).length : Int) ≤ n ∧ n ≤ 21
  · -- the digits, then zeros up to the point
    rw [if_pos fits]
    refine ⟨d :: more ++ List.replicate (n - (d :: more).length).toNat '0', [], none, by simp [fractionChars, exponentChars],
      ⟨?_, by simp, by simp, .inl (by simpa using first)⟩⟩
    simp only [List.mem_append]
    rintro c (h | h)
    · exact digits c h
    · exact zeros _ c h
  rw [if_neg fits]
  by_cases inside : 0 < n ∧ n ≤ 21
  · -- a point inside the digits
    rw [if_pos inside]
    have lt : n.toNat < (d :: more).length := by omega
    have dropped : (d :: more).drop n.toNat ≠ [] := by
      rw [Ne, List.drop_eq_nil_iff]
      omega
    refine ⟨(d :: more).take n.toNat, (d :: more).drop n.toNat, none, by simp [fractionChars, exponentChars, dropped],
      ⟨fun c h => digits c (List.mem_of_mem_take h), fun c h => digits c (List.mem_of_mem_drop h), by simp; omega, .inl ?_⟩⟩
    rw [show n.toNat = (n.toNat - 1) + 1 by omega, List.take_succ_cons]
    simpa using first
  rw [if_neg inside]
  by_cases small : -6 < n ∧ n ≤ 0
  · -- zeros between the point and the digits
    rw [if_pos small]
    refine ⟨['0'], List.replicate (-n).toNat '0' ++ d :: more, none, by simp [fractionChars, exponentChars],
      ⟨by simp, ?_, by simp, .inr ⟨rfl, by simp⟩⟩⟩
    simp only [List.mem_append]
    rintro c (h | h)
    · exact zeros _ c h
    · exact digits c h
  rw [if_neg small]
  -- the first digit, the others after a point, and an exponent
  by_cases one : (d :: more).length = 1
  · have alone : more = [] := by simpa using one
    subst alone
    exact ⟨[d], [], some (n - 1), by simp [fractionChars, exponentChars],
      ⟨by simpa using digits, by simp, by simp, .inl (by simpa using first)⟩⟩
  · rw [if_neg one]
    have more_ne : more ≠ [] := by intro empty; subst empty; simp at one
    exact ⟨[d], more, some (n - 1), by simp [fractionChars, exponentChars, more_ne],
      ⟨by simpa using digits d, fun c h => digits c (by simp [h]), by simp, .inl (by simpa using first)⟩⟩

theorem ofNumeral_numeral (neg : Bool) {whole frac : List Char} (exp : Option Int) (shape : NumeralShape whole frac) :
    ofNumeral (String.ofList (numeralChars neg whole frac exp)) =
      ofDecimal neg (Nat.ofDigitChars 10 (whole ++ frac) 0) (exp.getD 0 - frac.length) := by
  have exponent : ∀ c ∈ exponentChars exp, isNumeralChar c = true := by
    intro c mem
    cases exp with
    | none => cases mem
    | some m =>
      simp only [exponentChars, List.mem_cons] at mem
      rcases mem with rfl | rfl | digit
      · rfl
      · split <;> rfl
      · exact isNumeralChar_of_isDigit (Nat.isDigit_of_mem_toDigits (by decide) (by decide) digit)
  have numeral : ∀ c ∈ numeralChars neg whole frac exp, isNumeralChar c = true := by
    intro c mem
    simp only [numeralChars, signChars, fractionChars, List.mem_append] at mem
    rcases mem with ((sign | digit) | point) | marks
    · cases neg <;> simp_all [isNumeralChar]
    · exact isNumeralChar_of_isDigit (shape.whole_digits c digit)
    · split at point
      · cases point
      · simp only [List.mem_cons] at point
        rcases point with rfl | digit
        · rfl
        · exact isNumeralChar_of_isDigit (shape.frac_digits c digit)
    · exact exponent c marks
  obtain ⟨d, more, same⟩ := List.exists_cons_of_ne_nil shape.whole_ne
  have body : numeralChars neg whole frac exp = (if neg then ['-'] else []) ++ d :: (more ++ fractionChars frac ++ exponentChars exp) := by
    simp [numeralChars, signChars, same]
  unfold ofNumeral
  rw [String.toList_ofList, trimChars_of_numeral numeral, if_neg (by simp [body]), readPrefixedInteger_of_numeral numeral, body,
    readSignedDecimal_sign neg (shape.whole_digits d (by simp [same])),
    show d :: (more ++ fractionChars frac ++ exponentChars exp) = whole ++ fractionChars frac ++ exponentChars exp by simp [same],
    readUnsignedDecimal_numeral exp shape]
  rfl

theorem format_numeral (neg : Bool) {u : Nat} (pos : 0 < u) :
    ∃ whole frac exp, (format (.finite neg u)).toList = numeralChars neg whole frac exp ∧ NumeralShape whole frac := by
  have digitsPos := shortestDecimal_digits_pos pos
  obtain ⟨whole, frac, exp, laid, shape⟩ := layout_numeral_shape
    (fun c h => Nat.isDigit_of_mem_toDigits (by decide) (by decide) h) Nat.toDigits_ne_nil
    (head_toDigits_ne_zero digitsPos)
    ((shortestDecimal u).exponent + (String.ofList (Nat.toDigits 10 (shortestDecimal u).digits)).length)
  refine ⟨whole, frac, exp, ?_, shape⟩
  rw [format_finite neg pos, String.toList_append, Nat.toString_eq_ofList_toDigits, laid]
  cases neg <;> simp [numeralChars, signChars]

end GuildRegistry.Binary64

namespace GuildRegistry.Json

open Binary64

variable {cs : Array Char} {p : Nat}

theorem scanNumber_format {x : Binary64} (finite : x.isFinite = true) (here : Occurs cs p (format x).toList)
    (closes : Closes cs (p + (format x).toList.length)) :
    scanNumber cs p = .ok (.num (ofNumeral (format x)), p + (format x).toList.length) := by
  cases x with
  | finite neg u =>
    rcases Nat.eq_zero_or_pos u with rfl | pos
    · -- zero is written `0`, and the number ends there
      have text : (format (.finite neg 0)).toList = ['0'] := by cases neg <;> rfl
      have zero : ofNumeral (format (.finite neg 0)) = ofDecimal false 0 0 := by cases neg <;> decide
      rw [text] at here closes ⊢
      rw [zero]
      have h0 := Occurs.singleton_iff.mp here
      have whole : scanWhole cs false p = .ok (p + 1, true) := by
        unfold scanWhole
        cases after : cs[p + 1]? with
        | none => simp [h0, pure, Except.pure]
        | some c =>
          have kinds := not_digit_of_closes (closes c after)
          simp [h0, kinds.1, kinds.2.2.2.2, pure, Except.pure]
      simp [scanNumber, h0, whole, bind, Except.bind, pure, Except.pure]
    · obtain ⟨whole, frac, exp, text, shape⟩ := format_numeral neg pos
      have named : ofNumeral (format (.finite neg u)) =
          ofDecimal neg (Nat.ofDigitChars 10 (whole ++ frac) 0) (exp.getD 0 - frac.length) := by
        rw [← @String.ofList_toList (format (.finite neg u)), text, ofNumeral_numeral neg exp shape]
      rw [text] at here closes ⊢
      rw [scanNumber_numeral neg shape here closes, named]
  | _ => cases finite

end GuildRegistry.Json
