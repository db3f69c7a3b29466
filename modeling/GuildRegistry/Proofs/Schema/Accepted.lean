import GuildRegistry.Guild.Document
import GuildRegistry.Proofs.Number.Reading

/-! What an accepted document holds.

A check gives a value only when every part of it passed, so every value it gives has the properties
its parts check for. `Checked.Yields c P` says that every value `c` gives has the property `P`; each
combinator of checks keeps such a property, built from those of its parts, in the way it builds its
value from theirs.
-/

set_option autoImplicit false

namespace GuildRegistry

namespace Schema

namespace Checked

variable {α β : Type}

/-- Every value a check gives has a property. -/
def Yields (c : Checked α) (P : α → Prop) : Prop := ∀ a, c.value? = some a → P a

theorem yields_ok {P : α → Prop} {a : α} (h : P a) : (ok a).Yields P := by
  intro b given
  cases given
  exact h

theorem yields_fail (i : Issue) (P : α → Prop) : (fail i : Checked α).Yields P := by
  intro b given
  cases given

theorem Yields.imp {c : Checked α} {P Q : α → Prop} (h : c.Yields P) (weaker : ∀ a, P a → Q a) : c.Yields Q :=
  fun a given => weaker a (h a given)

theorem Yields.map {c : Checked α} {f : α → β} {P : β → Prop} (h : c.Yields fun a => P (f a)) :
    (c.map f).Yields P := by
  intro b given
  obtain ⟨a, found, rfl⟩ := Option.map_eq_some_iff.mp given
  exact h a found

theorem Yields.both {a : Checked α} {b : Checked β} {P : α → Prop} {Q : β → Prop} (ha : a.Yields P)
    (hb : b.Yields Q) : (Checked.both a b).Yields fun p => P p.1 ∧ Q p.2 := by
  intro p given
  unfold Checked.both at given
  -- the pair is there only when both values are
  split at given
  · rename_i x y foundA foundB
    cases given
    exact ⟨ha x foundA, hb y foundB⟩
  · cases given

theorem Yields.both_left {a : Checked α} {b : Checked β} {P : α → Prop} (ha : a.Yields P) :
    (Checked.both a b).Yields fun p => P p.1 :=
  fun p given => (Yields.both (Q := fun _ => True) ha (fun _ _ => trivial) p given).1

theorem Yields.both_right {a : Checked α} {b : Checked β} {Q : β → Prop} (hb : b.Yields Q) :
    (Checked.both a b).Yields fun p => Q p.2 :=
  fun p given => (Yields.both (P := fun _ => True) (fun _ _ => trivial) hb p given).2

theorem Yields.andThen {c : Checked α} {f : α → Checked β} {P : α → Prop} {Q : β → Prop} (hc : c.Yields P)
    (hf : ∀ a, P a → (f a).Yields Q) : (c.andThen f).Yields Q := by
  intro b given
  unfold Checked.andThen at given
  split at given
  · rename_i a found
    exact hf a (hc a found) b given
  · cases given

theorem yields_all {cs : List (Checked α)} {P : α → Prop} (h : ∀ c ∈ cs, c.Yields P) :
    (all cs).Yields fun xs => ∀ x ∈ xs, P x := by
  induction cs with
  | nil => exact yields_ok fun x mem => by cases mem
  | cons c rest ih =>
    unfold all
    rw [List.foldr_cons]
    refine Yields.map ((Yields.both (h c List.mem_cons_self) (ih fun c' mem => h c' (List.mem_cons_of_mem c mem))).imp ?_)
    intro p ⟨first, others⟩ x mem
    rcases List.mem_cons.mp mem with rfl | later
    · exact first
    · exact others x later

theorem value?_of_toExcept {c : Checked α} {a : α} (h : c.toExcept = .ok a) : c.value? = some a := by
  unfold toExcept at h
  split at h
  · cases h
    assumption
  · cases h

end Checked

open Checked

variable {α β : Type}

/-- Every value a check gives, at any path and from any input, has a property. -/
def Check.Yields (c : Check α) (P : α → Prop) : Prop := ∀ path v, (c path v).Yields P

theorem check_yields_true (c : Check α) : Check.Yields c fun _ => True :=
  fun _ _ _ _ => trivial

theorem textMatching_yields (p : String → Bool) : Check.Yields (textMatching p) fun s => p s = true := by
  intro path v
  refine Yields.andThen (P := fun _ => True) (fun _ _ => trivial) fun s _ => ?_
  split
  · exact yields_ok ‹_›
  · exact yields_fail _ _

theorem boundedNumber_yields (bounds : List Bound) :
    Check.Yields (boundedNumber bounds) fun x => ∀ b ∈ bounds, b.problem? x = none := by
  intro path v
  refine Yields.andThen (P := fun _ => True) (fun _ _ => trivial) fun x _ => ?_
  dsimp only
  split
  · rename_i none
    refine yields_ok fun b mem => ?_
    rw [List.isEmpty_iff, List.filterMap_eq_nil_iff] at none
    exact none b mem
  · intro a given
    cases given

theorem integer_yields : Check.Yields integer fun x => x.isInteger = true := by
  refine fun path v => (boundedNumber_yields [.integer] path v).imp fun x passed => ?_
  have problem := passed .integer List.mem_cons_self
  simp only [Bound.problem?] at problem
  split at problem
  · assumption
  · cases problem

theorem withDefault_yields {c : Check α} {P : α → Prop} (d : Json) (h : Check.Yields c P) :
    Check.Yields (withDefault d c) P :=
  fun path _ => h path _

theorem record_yields {key : Check String} {value : Check α} {K : String → Prop} {V : α → Prop}
    (hk : Check.Yields key K) (hv : Check.Yields value V) :
    Check.Yields (record key value) fun entries => ∀ e ∈ entries, K e.1 ∧ V e.2 := by
  intro path v
  unfold record
  split
  · refine yields_all fun c mem => ?_
    obtain ⟨m, -, rfl⟩ := List.mem_map.mp mem
    exact (hk _ _).both (hv _ _)
  · exact yields_fail _ _

theorem array_yields {item : Check α} {P : α → Prop} (h : Check.Yields item P) :
    Check.Yields (array item) fun xs => ∀ x ∈ xs, P x := by
  intro path v
  unfold array
  split
  · refine yields_all fun c mem => ?_
    obtain ⟨m, -, rfl⟩ := List.mem_map.mp mem
    exact h _ _
  · exact yields_fail _ _

theorem object_yields {fields : List PathItem → List (String × Json) → Checked α} {P : α → Prop}
    (h : ∀ path members, (fields path members).Yields P) : Check.Yields (object fields) P := by
  intro path v
  unfold object
  split
  · exact h _ _
  · exact yields_fail _ _

theorem field_yields {c : Check α} {P : α → Prop} (h : Check.Yields c P) (path : List PathItem)
    (members : List (String × Json)) (k : String) : (field c path members k).Yields P :=
  h _ _

end Schema

open Schema

/-- The XP tables of an accepted document are keyed by integer texts and hold integers. -/
def Document.XpShape (d : Document) : Prop :=
  ∀ e ∈ d.xp, DocumentShape.isIntegerKey e.1 = true ∧
    ∀ s ∈ e.2, DocumentShape.isIntegerKey s.1 = true ∧ s.2.isInteger = true

namespace DocumentShape

variable {α : Type}

theorem integerKey_yields : Check.Yields integerKey fun k => isIntegerKey k = true :=
  textMatching_yields isIntegerKey

theorem table_yields {value : Check α} {V : α → Prop} (h : Check.Yields value V) :
    Check.Yields (table value) fun entries => ∀ e ∈ entries, isIntegerKey e.1 = true ∧ V e.2 :=
  withDefault_yields _ (record_yields integerKey_yields h)

theorem document_yields_xp : Check.Yields document Document.XpShape := by
  have xp := table_yields (record_yields integerKey_yields integer_yields)
  refine object_yields fun path members => Checked.Yields.map ?_
  -- the XP field is the fifth of the six
  refine Checked.Yields.imp (Checked.Yields.both_right (Checked.Yields.both_right (Checked.Yields.both_right (Checked.Yields.both_right
    (Checked.Yields.both_left (field_yields xp path members "xp")))))) ?_
  rintro ⟨admins, profiles, applications, history, tables, cups⟩ held
  exact held

end DocumentShape

theorem Document.check_xp {j : Json} {d : Document} (accepted : Document.check j = .ok d) : d.XpShape :=
  DocumentShape.document_yields_xp [] (some j) d (Checked.value?_of_toExcept accepted)

namespace Binary64

theorem isNaN_ofRatUnits (neg : Bool) (a b : Nat) : (ofRatUnits neg a b).isNaN = false := by
  unfold ofRatUnits
  split <;> rfl

theorem isNaN_ofDecimal (neg : Bool) (digits : Nat) (exp10 : Int) : (ofDecimal neg digits exp10).isNaN = false := by
  unfold ofDecimal ofRat
  dsimp only
  split_ifs
  · rfl
  · rfl
  · rfl
  · exact isNaN_ofRatUnits _ _ _
  · exact isNaN_ofRatUnits _ _ _

theorem ofNumeral_of_isIntegerKey {k : String} (key : DocumentShape.isIntegerKey k = true) :
    ∃ neg digits, ofNumeral k = ofDecimal neg digits 0 := by
  -- the key is an optional minus sign, then digits
  obtain ⟨neg, ds, spelled, ne, digits⟩ : ∃ (neg : Bool) (ds : List Char), k.toList = (if neg then ['-'] else []) ++ ds ∧
      ds ≠ [] ∧ ∀ c ∈ ds, c.isDigit = true := by
    unfold DocumentShape.isIntegerKey at key
    split at key
    · rename_i ds spelled
      simp only [Bool.and_eq_true, Bool.not_eq_true', List.isEmpty_eq_false_iff, List.all_eq_true] at key
      exact ⟨true, ds, by simp [spelled], key.1, key.2⟩
    · simp only [Bool.and_eq_true, Bool.not_eq_true', List.isEmpty_eq_false_iff, List.all_eq_true] at key
      exact ⟨false, k.toList, by simp, key.1, key.2⟩
  obtain ⟨c, rest, rfl⟩ := List.exists_cons_of_ne_nil ne
  have numeral : ∀ c ∈ k.toList, isNumeralChar c = true := by
    rw [spelled]
    intro c mem
    rcases List.mem_append.mp mem with sign | digit
    · cases neg <;> simp_all [isNumeralChar]
    · exact isNumeralChar_of_isDigit (digits c digit)
  have trimmed := trimChars_of_numeral numeral
  refine ⟨neg, Nat.ofDigitChars 10 (c :: rest) 0, ?_⟩
  unfold ofNumeral
  dsimp only
  rw [trimmed, readPrefixedInteger_of_numeral numeral, spelled, readSignedDecimal_sign neg (digits c (by simp)),
    readUnsignedDecimal_digits digits ne]
  have nonempty : ((if neg then ['-'] else []) ++ c :: rest).isEmpty = false := by simp
  rw [if_neg (by simp [nonempty])]
  rfl

theorem isNaN_ofNumeral_of_isIntegerKey {k : String} (key : DocumentShape.isIntegerKey k = true) :
    (ofNumeral k).isNaN = false := by
  obtain ⟨neg, digits, read⟩ := ofNumeral_of_isIntegerKey key
  rw [read]
  exact isNaN_ofDecimal _ _ _

end Binary64

end GuildRegistry
