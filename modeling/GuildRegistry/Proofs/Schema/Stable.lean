import GuildRegistry.Proofs.Schema.Accepted
import GuildRegistry.Proofs.Timestamp.Canonical

/-! Reading a document's own output again.

A check reads back what it gives when every value it gives, written as JSON, passes the check again,
at any path, with nothing raised, and comes out the same (`Check.ReadsBack`). Every check a document
is read with does so. A text is written as itself. An optional text is missing or holds something,
and is written as `null` or as that text, which reads back the same way.
-/

set_option autoImplicit false

namespace GuildRegistry

namespace Schema

namespace Checked

variable {α β γ : Type}

/-- The outcome of a check that gives a value with no issue. -/
def Gives (c : Checked α) (a : α) : Prop := c.issues = [] ∧ c.value? = some a

theorem gives_ok (a : α) : (ok a).Gives a := ⟨rfl, rfl⟩

theorem gives_of_toExcept {c : Checked α} {a : α} (h : c.toExcept = .ok a) : c.Gives a := by
  unfold toExcept at h
  split at h
  · rename_i a' noIssues found
    cases h
    exact ⟨noIssues, found⟩
  · cases h

theorem not_gives_fail (i : Issue) (a : α) : ¬(fail i : Checked α).Gives a := fun given => nomatch given.2

theorem not_gives_raise (a : α) : ¬(raise : Checked α).Gives a := fun given => nomatch given.2

@[simp] theorem map_ok (f : α → β) (a : α) : (ok a).map f = ok (f a) := rfl

@[simp] theorem both_ok (a : α) (b : β) : both (ok a) (ok b) = ok (a, b) := rfl

@[simp] theorem andThen_ok (a : α) (f : α → Checked β) : (ok a).andThen f = f a := by
  simp only [andThen, ok, List.nil_append, Bool.false_or]

theorem Gives.of_map {c : Checked α} {f : α → β} {b : β} (h : (c.map f).Gives b) :
    ∃ a, c.Gives a ∧ f a = b := by
  obtain ⟨noIssues, given⟩ := h
  obtain ⟨a, found, rfl⟩ := Option.map_eq_some_iff.mp given
  exact ⟨a, ⟨noIssues, found⟩, rfl⟩

theorem gives_both_iff {a : Checked α} {b : Checked β} {p : α × β} :
    (both a b).Gives p ↔ a.Gives p.1 ∧ b.Gives p.2 := by
  constructor
  · rintro ⟨noIssues, given⟩
    obtain ⟨noA, noB⟩ := List.append_eq_nil_iff.mp noIssues
    have found := Yields.both (P := (a.value? = some ·)) (Q := (b.value? = some ·)) (fun _ h => h)
      (fun _ h => h) p given
    exact ⟨⟨noA, found.1⟩, ⟨noB, found.2⟩⟩
  · rintro ⟨⟨noA, foundA⟩, ⟨noB, foundB⟩⟩
    refine ⟨by simp [both, noA, noB], ?_⟩
    simp [both, foundA, foundB]

theorem Gives.of_both {a : Checked α} {b : Checked β} {p : α × β} (h : (both a b).Gives p) :
    a.Gives p.1 ∧ b.Gives p.2 :=
  gives_both_iff.mp h

theorem Gives.of_andThen {c : Checked α} {f : α → Checked β} {b : β} (h : (c.andThen f).Gives b) :
    ∃ a, c.Gives a ∧ (f a).Gives b := by
  obtain ⟨noIssues, given⟩ := h
  unfold andThen at noIssues given
  split at given
  · rename_i a found
    obtain ⟨noC, noF⟩ := List.append_eq_nil_iff.mp (by simpa only [found] using noIssues)
    exact ⟨a, ⟨noC, found⟩, ⟨noF, given⟩⟩
  · cases given

theorem Gives.of_all {cs : List (Checked α)} {as : List α} (h : (all cs).Gives as) :
    ∀ a ∈ as, ∃ c ∈ cs, c.Gives a := by
  induction cs generalizing as with
  | nil =>
    obtain ⟨-, given⟩ := h
    cases given
    intro a mem
    cases mem
  | cons c rest ih =>
    unfold all at h ih
    rw [List.foldr_cons] at h
    obtain ⟨⟨x, xs⟩, pair, rfl⟩ := h.of_map
    obtain ⟨first, others⟩ := pair.of_both
    intro a mem
    rcases List.mem_cons.mp mem with rfl | later
    · exact ⟨c, List.mem_cons_self, first⟩
    · obtain ⟨c', mem', gives⟩ := ih others a later
      exact ⟨c', List.mem_cons_of_mem c mem', gives⟩

theorem all_map_ok {l : List γ} {g : γ → Checked α} {h : γ → α} (each : ∀ x ∈ l, g x = ok (h x)) :
    all (l.map g) = ok (l.map h) := by
  induction l with
  | nil => rfl
  | cons x rest ih =>
    unfold all at ih ⊢
    rw [List.map_cons, List.foldr_cons, ih fun y mem => each y (List.mem_cons_of_mem x mem),
      each x List.mem_cons_self]
    rfl

end Checked

open Checked

variable {α : Type}

/-- A check reads back what it gives: each value it gives, written by `enc`, passes the check
again at any path and comes out the same. -/
def Check.ReadsBack (c : Check α) (enc : α → Json) : Prop :=
  ∀ path v a, (c path v).Gives a → ∀ path', c path' (some (enc a)) = Checked.ok a

theorem text_readsBack : Check.ReadsBack text .str := fun _ _ _ _ _ => rfl

theorem withDefault_readsBack {c : Check α} {enc : α → Json} (d : Json) (h : c.ReadsBack enc) :
    (withDefault d c).ReadsBack enc :=
  fun path v a given path' => h path (some (v.getD d)) a given path'

theorem textMatching_readsBack (p : String → Bool) : Check.ReadsBack (textMatching p) .str := by
  intro path v s given path'
  obtain ⟨s₀, -, matched⟩ := given.of_andThen
  -- only a matching text is given, and it is given as it is
  have kept : p s₀ = true ∧ s₀ = s := by
    split at matched
    · exact ⟨‹_›, Option.some.inj matched.2⟩
    · exact absurd matched (not_gives_fail _ _)
  obtain ⟨fits, rfl⟩ := kept
  show (text path' (some (.str s₀))).andThen _ = _
  rw [text, andThen_ok, if_pos fits]

theorem coercedNumber_num (path : List PathItem) {x : Binary64} (h : x.isNaN = false) :
    coercedNumber path (some (.num x)) = ok x := by
  simp [coercedNumber, Json.converts, Json.toNumber, h]

theorem coercedNumber_gives {path : List PathItem} {v : Option Json} {x : Binary64}
    (given : (coercedNumber path v).Gives x) : x.isNaN = false := by
  unfold coercedNumber at given
  split at given
  · exact absurd given (not_gives_raise _)
  · dsimp only at given
    split at given
    · exact absurd given (not_gives_fail _ _)
    · rename_i notNaN
      cases given.2
      simpa using notNaN

theorem boundedNumber_readsBack (bounds : List Bound) : Check.ReadsBack (boundedNumber bounds) .num := by
  intro path v x given path'
  obtain ⟨y, converted, bounded⟩ := given.of_andThen
  have notNaN := coercedNumber_gives converted
  -- a number that passes its bounds is given as it is
  have kept : (bounds.filterMap (Bound.problem? y)).isEmpty = true ∧ y = x := by
    dsimp only at bounded
    split at bounded
    · exact ⟨‹_›, Option.some.inj bounded.2⟩
    · exact absurd bounded.2 (by simp)
  obtain ⟨passes, rfl⟩ := kept
  show (coercedNumber path' (some (.num y))).andThen _ = _
  rw [coercedNumber_num path' notNaN, andThen_ok]
  exact if_pos passes

theorem integer_readsBack : Check.ReadsBack integer .num := boundedNumber_readsBack [.integer]

theorem array_readsBack {item : Check α} {enc : α → Json} (h : item.ReadsBack enc) :
    (array item).ReadsBack fun xs => .arr (xs.map enc) := by
  intro path v xs given path'
  unfold array at given
  split at given
  · rename_i items
    have each := given.of_all
    -- the items are checked one by one, each at its own index
    show Checked.all (((xs.map enc).zipIdx).map fun p => item (path' ++ [.index p.2]) (some p.1)) = _
    rw [List.zipIdx_map, List.map_map]
    conv => rhs; rw [← List.zipIdx_map_fst 0 xs]
    refine all_map_ok fun ai mem => ?_
    obtain ⟨c, cMem, gives⟩ := each ai.1 (List.fst_mem_of_mem_zipIdx mem)
    obtain ⟨⟨x, i⟩, -, rfl⟩ := List.mem_map.mp cMem
    exact h _ _ _ gives _
  · exact absurd given (not_gives_fail _ _)

theorem record_readsBack {key : Check String} {value : Check α} {enc : α → Json}
    (hk : key.ReadsBack .str) (hv : value.ReadsBack enc) :
    (record key value).ReadsBack fun entries => .obj (entries.map fun e => (e.1, enc e.2)) := by
  intro path v entries given path'
  unfold record at given
  split at given
  · rename_i members
    have each := given.of_all
    -- every entry is checked key first, then value, at its own key
    show Checked.all ((entries.map fun e => (e.1, enc e.2)).map fun m =>
      Checked.both (key (path' ++ [.key m.1]) (some (.str m.1))) (value (path' ++ [.key m.1]) (some m.2))) = _
    rw [List.map_map]
    conv => rhs; rw [← List.map_id entries]
    refine all_map_ok fun e mem => ?_
    obtain ⟨c, cMem, gives⟩ := each e mem
    obtain ⟨⟨k, x⟩, -, rfl⟩ := List.mem_map.mp cMem
    obtain ⟨givesKey, givesValue⟩ := gives.of_both
    simp only [Function.comp_apply, hk _ _ _ givesKey, hv _ _ _ givesValue, both_ok, id]
  · exact absurd given (not_gives_fail _ _)

theorem field_readsBack {c : Check α} {enc : α → Json} (h : c.ReadsBack enc) {path : List PathItem}
    {members : List (String × Json)} {k : String} {a : α} (given : (field c path members k).Gives a)
    (path' : List PathItem) {members' : List (String × Json)} (held : member members' k = some (enc a)) :
    field c path' members' k = ok a := by
  rw [field, held]
  exact h _ _ _ given _

theorem object_readsBack {fields : List PathItem → List (String × Json) → Checked α}
    {enc : α → List (String × Json)}
    (h : ∀ path members a, (fields path members).Gives a → ∀ path', fields path' (enc a) = ok a) :
    (object fields).ReadsBack fun a => .obj (enc a) := by
  intro path v a given path'
  unfold object at given
  split at given
  · exact h _ _ _ given path'
  · exact absurd given (not_gives_fail _ _)

end Schema

namespace DocumentShape

open Schema Checked

theorem integerKey_readsBack : Check.ReadsBack integerKey .str := textMatching_readsBack isIntegerKey

theorem optionalText_readsBack : Check.ReadsBack optionalText Json.ofOption := by
  intro path v o given path'
  obtain ⟨o₀, -, rfl⟩ := given.of_map
  -- what is given is nothing or a nonempty text, written as null or as that text
  cases o₀ with
  | none => rfl
  | some s =>
    by_cases empty : s.isEmpty
    · simp only [Option.bind_some, empty, if_true]
      rfl
    · simp only [Option.bind_some, if_neg empty]
      show (ok (some s)).map _ = _
      rw [map_ok, Option.bind_some, if_neg empty]

theorem timestamp_readsBack : Check.ReadsBack timestamp .str := by
  intro path v t given path'
  obtain ⟨s, -, rfl⟩ := given.of_map
  show (text path' (some (.str (Timestamp.normalize s)))).map Timestamp.normalize = _
  rw [text, map_ok, Timestamp.normalize_normalize]

theorem status_readsBack : Check.ReadsBack status fun st => .str st.text := by
  intro path v st given path'
  cases st <;> rfl

theorem table_readsBack {α : Type} {value : Check α} {enc : α → Json} (h : value.ReadsBack enc) :
    (table value).ReadsBack fun entries => .obj (entries.map fun e => (e.1, enc e.2)) :=
  withDefault_readsBack _ (record_readsBack integerKey_readsBack h)

/- Each record's fields are checked in the order of its written form, so every field of a
written record is found as the member of the same name. -/

theorem profile_readsBack : Check.ReadsBack profile AdminProfile.toJson := by
  refine object_readsBack fun path members p given path' => ?_
  obtain ⟨⟨u, f⟩, fields, rfl⟩ := given.of_map
  simp only [gives_both_iff] at fields
  obtain ⟨gu, gf⟩ := fields
  rw [field_readsBack optionalText_readsBack gu path' (by simp [member]),
    field_readsBack optionalText_readsBack gf path' (by simp [member])]
  rfl

theorem response_readsBack : Check.ReadsBack response Response.toJson := by
  refine object_readsBack fun path members r given path' => ?_
  obtain ⟨⟨i, q, a⟩, fields, rfl⟩ := given.of_map
  simp only [gives_both_iff] at fields
  obtain ⟨gi, gq, ga⟩ := fields
  rw [field_readsBack text_readsBack gi path' (by simp [member]),
    field_readsBack text_readsBack gq path' (by simp [member]),
    field_readsBack text_readsBack ga path' (by simp [member])]
  rfl

theorem application_readsBack : Check.ReadsBack application Application.toJson := by
  refine object_readsBack fun path members a given path' => ?_
  obtain ⟨⟨u, n, un, ans, rs, c, l⟩, fields, rfl⟩ := given.of_map
  simp only [gives_both_iff] at fields
  obtain ⟨gu, gn, gun, gans, grs, gc, gl⟩ := fields
  rw [field_readsBack integer_readsBack gu path' (by simp [member]),
    field_readsBack text_readsBack gn path' (by simp [member]),
    field_readsBack optionalText_readsBack gun path' (by simp [member]),
    field_readsBack (withDefault_readsBack _ text_readsBack) gans path' (by simp [member]),
    field_readsBack (withDefault_readsBack _ (array_readsBack response_readsBack)) grs path' (by simp [member]),
    field_readsBack timestamp_readsBack gc path' (by simp [member]),
    field_readsBack optionalText_readsBack gl path' (by simp [member])]
  rfl

theorem historyEntry_readsBack : Check.ReadsBack historyEntry HistoryEntry.toJson := by
  refine object_readsBack fun path members e given path' => ?_
  obtain ⟨⟨st, u, n, l⟩, fields, rfl⟩ := given.of_map
  simp only [gives_both_iff] at fields
  obtain ⟨gst, gu, gn, gl⟩ := fields
  rw [field_readsBack status_readsBack gst path' (by simp [member, HistoryEntry.fields]),
    field_readsBack timestamp_readsBack gu path' (by simp [member, HistoryEntry.fields]),
    field_readsBack optionalText_readsBack gn path' (by simp [member, HistoryEntry.fields]),
    field_readsBack optionalText_readsBack gl path' (by simp [member, HistoryEntry.fields])]
  rfl

theorem cup_readsBack : Check.ReadsBack cup Cup.toJson := by
  refine object_readsBack fun path members c given path' => ?_
  obtain ⟨⟨t, d, p, at_⟩, fields, rfl⟩ := given.of_map
  simp only [gives_both_iff] at fields
  obtain ⟨gt, gd, gp, gat⟩ := fields
  rw [field_readsBack text_readsBack gt path' (by simp [member]),
    field_readsBack (withDefault_readsBack _ text_readsBack) gd path' (by simp [member]),
    field_readsBack (withDefault_readsBack _ (array_readsBack text_readsBack)) gp path' (by simp [member]),
    field_readsBack timestamp_readsBack gat path' (by simp [member])]
  rfl

theorem document_readsBack : Check.ReadsBack document Document.toJson := by
  refine object_readsBack fun path members d given path' => ?_
  obtain ⟨⟨a, p, ap, h, x, c⟩, fields, rfl⟩ := given.of_map
  simp only [gives_both_iff] at fields
  obtain ⟨ga, gp, gap, gh, gx, gc⟩ := fields
  rw [field_readsBack (withDefault_readsBack _ (array_readsBack integer_readsBack)) ga path' (by simp [member]),
    field_readsBack (table_readsBack profile_readsBack) gp path' (by simp [member]),
    field_readsBack (table_readsBack application_readsBack) gap path' (by simp [member]),
    field_readsBack (table_readsBack historyEntry_readsBack) gh path' (by simp [member]),
    field_readsBack (table_readsBack (record_readsBack integerKey_readsBack integer_readsBack)) gx path'
      (by simp [member]),
    field_readsBack (table_readsBack (array_readsBack cup_readsBack)) gc path' (by simp [member])]
  rfl

end DocumentShape

namespace Document

open Schema

/-- A document read from JSON is read again from its own JSON form, raising nothing, as the same
document. -/
theorem check_toJson {j : Json} {d : Document} (accepted : check j = .ok d) :
    raises d.toJson = false ∧ check d.toJson = .ok d := by
  have again := DocumentShape.document_readsBack [] (some j) d (Checked.gives_of_toExcept accepted) []
  unfold raises check
  rw [again]
  exact ⟨rfl, rfl⟩

set_option maxRecDepth 20000 in
/-- A profile whose empty username is read as missing and whose unknown member is dropped, in a
document with an unknown member, reads back as itself. -/
theorem check_toJson_blank_username :
    check (.obj [("admins", .arr [.num 7]), ("note", .null),
        ("admin_profiles", .obj [("7", .obj [("username", .str ""), ("full_name", .str "Ada"),
          ("role", .str "owner")])])]) = .ok ⟨[7], [("7", ⟨none, some "Ada"⟩)], [], [], [], []⟩ ∧
      raises (toJson ⟨[7], [("7", ⟨none, some "Ada"⟩)], [], [], [], []⟩) = false ∧
      check (toJson ⟨[7], [("7", ⟨none, some "Ada"⟩)], [], [], [], []⟩) =
        .ok ⟨[7], [("7", ⟨none, some "Ada"⟩)], [], [], [], []⟩ := by
  have accepted : check (.obj [("admins", .arr [.num 7]), ("note", .null),
      ("admin_profiles", .obj [("7", .obj [("username", .str ""), ("full_name", .str "Ada"),
        ("role", .str "owner")])])]) = .ok ⟨[7], [("7", ⟨none, some "Ada"⟩)], [], [], [], []⟩ := by
    rfl
  exact ⟨accepted, check_toJson accepted⟩

end Document

end GuildRegistry
