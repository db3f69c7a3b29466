import GuildRegistry.Proofs.Schema.Stable
import GuildRegistry.Proofs.Json.ReadBack
import GuildRegistry.Proofs.Json.Units
import GuildRegistry.Proofs.Text.Utf8
import GuildRegistry.Proofs.Store.Atomic
import GuildRegistry.Proofs.Store.Reviews

/-! What a restart reads back from a snapshot the store saved.

A save seals the text of a ledger's document; a load opens the token, reads the text as JSON and
checks its shape. Reading the text back keeps every key and every text, and rereads every number
(`Json.parse?_render`), so each table of the document comes back with the same keys, in the same
order, each value as its check reads the written value (`DocumentShape.table_gives`).
-/

set_option autoImplicit false

namespace GuildRegistry

namespace Text

theorem toUnits_of_ascii {s : String} (ascii : ∀ c ∈ s.toList, c.toNat < 128) : toUnits s = s := by
  apply String.ext
  rw [toList_toUnits]
  -- each ASCII character keeps itself as its one unit
  have kept : ∀ cs : List Char, (∀ c ∈ cs, c.toNat < 128) → cs.flatMap unitsKept = cs := by
    intro cs
    induction cs with
    | nil => intro _; rfl
    | cons c rest ih =>
      intro small
      have low : c.toNat < 0x10000 := by have := small c List.mem_cons_self; omega
      have one : unitsKept c = [c] := by simp [unitsKept, unitsOfChar, low]
      rw [List.flatMap_cons, one, ih fun d mem => small d (List.mem_cons_of_mem c mem)]
      rfl
  exact kept _ ascii

end Text

namespace Binary64

theorem ascii_format (x : Binary64) : ∀ c ∈ x.format.toList, c.toNat < 128 := by
  cases x with
  | finite neg u => exact Json.ascii_numberText (.finite neg u)
  | nan => simp [format]
  | infinity neg => cases neg <;> simp [format]

end Binary64

namespace Json

theorem rereadItems_eq (xs : List Json) : rereadItems xs = xs.map reread := by
  induction xs with
  | nil => rfl
  | cons x rest ih => rw [rereadItems, ih, List.map_cons]

theorem rereadMembers_eq (ms : List (String × Json)) : rereadMembers ms = ms.map fun p => (p.1, reread p.2) := by
  induction ms with
  | nil => rfl
  | cons m rest ih => rw [rereadMembers, ih, List.map_cons]

theorem toUnitsItems_eq (xs : List Json) : toUnitsItems xs = xs.map toUnits := by
  induction xs with
  | nil => rfl
  | cons x rest ih => rw [toUnitsItems, ih, List.map_cons]

theorem toUnitsMembers_eq (ms : List (String × Json)) :
    toUnitsMembers ms = ms.map fun p => (Text.toUnits p.1, toUnits p.2) := by
  induction ms with
  | nil => rfl
  | cons m rest ih => rw [toUnitsMembers, ih, List.map_cons]

theorem reread_toUnits_arr (xs : List Json) : reread (toUnits (.arr xs)) = .arr (xs.map fun x => reread (toUnits x)) := by
  rw [toUnits, reread, toUnitsItems_eq, rereadItems_eq, List.map_map]
  rfl

theorem reread_toUnits_str (s : String) : reread (toUnits (.str s)) = .str (Text.toUnits s) := rfl

theorem reread_toUnits_num (x : Binary64) :
    reread (toUnits (.num x)) = if x.isFinite then .num (Binary64.ofNumeral x.format) else .null := rfl

theorem reread_toUnits_obj {ms : List (String × Json)} (ascii : ∀ p ∈ ms, ∀ c ∈ p.1.toList, c.toNat < 128) :
    reread (toUnits (.obj ms)) = .obj (Members.ofList (ms.map fun p => (p.1, reread (toUnits p.2)))) := by
  rw [toUnits, reread, toUnitsMembers_eq, rereadMembers_eq, List.map_map]
  congr 2
  refine List.map_congr_left fun p mem => ?_
  simp only [Function.comp_apply, Text.toUnits_of_ascii (ascii p mem)]

theorem member_ofList {xs : List (String × Json)} (nodup : (PropertyOrder.keys xs).Nodup) {p : String × Json}
    (mem : p ∈ xs) : Schema.member (Members.ofList xs) p.1 = some p.2 := by
  obtain ⟨-, perm, -⟩ := PropertyOrder.ofList_spec nodup
  exact PropertyOrder.get?_of_mem (PropertyOrder.Perm.keys_nodup perm.symm nodup) (perm.symm.subset mem)

theorem member_reread {ms : List (String × Json)} (nodup : (PropertyOrder.keys ms).Nodup) {p : String × Json}
    (mem : p ∈ ms) :
    Schema.member (Members.ofList (ms.map fun q => (q.1, reread (toUnits q.2)))) p.1 = some (reread (toUnits p.2)) :=
  member_ofList (p := (p.1, reread (toUnits p.2))) (by simpa [PropertyOrder.keys, Function.comp_def] using nodup)
    (List.mem_map_of_mem mem)

theorem reread_toUnits_table {α : Type} {m : KeyMap α} (valid : m.Valid) (enc : α → Json) :
    reread (toUnits (.obj ((Ledger.textKeyed m).map fun p => (p.1, enc p.2)))) =
      .obj ((Ledger.textKeyed m).map fun p => (p.1, reread (toUnits (enc p.2)))) := by
  have nodup := valid.keys_texts_nodup
  have ascii : ∀ p ∈ (Ledger.textKeyed m).map (fun p => (p.1, enc p.2)), ∀ c ∈ p.1.toList, c.toNat < 128 := by
    intro p mem
    obtain ⟨q, qMem, rfl⟩ := List.mem_map.mp mem
    obtain ⟨-, perm, -⟩ := PropertyOrder.ofList_spec nodup
    obtain ⟨e, -, rfl⟩ := List.mem_map.mp (perm.subset qMem)
    exact Binary64.ascii_format e.1
  rw [reread_toUnits_obj ascii, List.map_map, KeyMap.textKeyed_eq]
  show Json.obj (PropertyOrder.ofList ((PropertyOrder.ofList m.texts).map fun p => (p.1, reread (toUnits (enc p.2))))) = _
  -- setting the members again in property order changes nothing
  rw [← PropertyOrder.ofList_map_value (fun v => reread (toUnits (enc v))) nodup,
    PropertyOrder.ofList_ofList (by simpa [PropertyOrder.keys, Function.comp_def] using nodup)]

end Json

namespace Schema

namespace Checked

variable {α : Type}

theorem Gives.forall₂_of_all {cs : List (Checked α)} {as : List α} (h : (all cs).Gives as) :
    List.Forall₂ Gives cs as := by
  induction cs generalizing as with
  | nil =>
    obtain ⟨-, given⟩ := h
    cases given
    exact .nil
  | cons c rest ih =>
    unfold all at h ih
    rw [List.foldr_cons] at h
    obtain ⟨⟨x, xs⟩, pair, rfl⟩ := h.of_map
    obtain ⟨first, others⟩ := pair.of_both
    exact .cons first (ih others)

end Checked

open Checked

variable {α : Type}

theorem record_gives {key : Check String} {value : Check α} {path : List PathItem} {ms : List (String × Json)}
    {T : List (String × α)} (given : (record key value path (some (.obj ms))).Gives T) :
    List.Forall₂ (fun m t => (key (path ++ [.key m.1]) (some (.str m.1))).Gives t.1 ∧
      (value (path ++ [.key m.1]) (some m.2)).Gives t.2) ms T := by
  unfold record at given
  have each := Gives.forall₂_of_all given
  rw [List.forall₂_map_left_iff] at each
  refine each.imp fun m t gives => ?_
  obtain ⟨k, x⟩ := m
  exact gives_both_iff.mp gives

theorem array_gives {item : Check α} {path : List PathItem} {xs : List Json} {ys : List α}
    (given : (array item path (some (.arr xs))).Gives ys) :
    List.Forall₂ (fun x y => ∃ p, (item p (some x)).Gives y) xs ys := by
  unfold array at given
  have each := Gives.forall₂_of_all given
  rw [List.forall₂_map_left_iff] at each
  rw [← List.zipIdx_map_fst 0 xs, List.forall₂_map_left_iff]
  refine each.imp fun xi y gives => ?_
  obtain ⟨x, i⟩ := xi
  exact ⟨_, gives⟩

end Schema

namespace DocumentShape

open Schema Checked

variable {α : Type}

theorem integerKey_gives {p : List PathItem} {k k' : String} (given : (integerKey p (some (.str k))).Gives k') :
    k' = k ∧ isIntegerKey k = true := by
  obtain ⟨s, read, matched⟩ := given.of_andThen
  obtain rfl : s = k := (Option.some.inj read.2).symm
  split at matched
  · exact ⟨(Option.some.inj matched.2).symm, ‹_›⟩
  · exact absurd matched (not_gives_fail _ _)

theorem table_gives {value : Check α} {path : List PathItem} {ms : List (String × Json)} {T : List (String × α)}
    (given : (table value path (some (.obj ms))).Gives T) :
    List.Forall₂ (fun m t => t.1 = m.1 ∧ isIntegerKey m.1 = true ∧ ∃ p, (value p (some m.2)).Gives t.2) ms T :=
  (record_gives given).imp fun _ _ gives =>
    ⟨(integerKey_gives gives.1).1, (integerKey_gives gives.1).2, _, gives.2⟩

end DocumentShape

namespace KeyMap

variable {α β : Type} {R : α → β → Prop}

/-- Two maps with the same keys, in the same order, whose values at each key are related. -/
def Rel (R : α → β → Prop) (m : KeyMap α) (m' : KeyMap β) : Prop :=
  List.Forall₂ (fun e e' => e.1 = e'.1 ∧ R e.2 e'.2) m.entries m'.entries

theorem Rel.contains {m : KeyMap α} {m' : KeyMap β} (h : Rel R m m') (k : Binary64) :
    m'.contains k = m.contains k := by
  obtain ⟨es⟩ := m
  obtain ⟨es'⟩ := m'
  unfold Rel at h
  unfold KeyMap.contains
  dsimp only at h ⊢
  induction h with
  | nil => rfl
  | cons head tail ih => rw [List.any_cons, List.any_cons, ih, head.1]

theorem Rel.get? {m : KeyMap α} {m' : KeyMap β} (h : Rel R m m') (k : Binary64) :
    Option.Rel R (m.get? k) (m'.get? k) := by
  obtain ⟨es⟩ := m
  obtain ⟨es'⟩ := m'
  unfold Rel at h
  unfold KeyMap.get?
  dsimp only at h ⊢
  induction h with
  | nil => exact .none
  | cons head tail ih =>
    rename_i e e' _ _
    rw [List.find?_cons, List.find?_cons, head.1]
    cases Binary64.sameValueZero e'.1 k
    · exact ih
    · exact .some head.2

theorem Rel.set {m : KeyMap α} {m' : KeyMap β} (h : Rel R m m') (k : Binary64) {v : α} {v' : β}
    (hv : R v v') : Rel R (m.set k v) (m'.set k v') := by
  unfold KeyMap.set
  rw [h.contains k]
  split
  · -- the value is replaced in place, at the same entry of both maps
    show List.Forall₂ _ (m.entries.map _) (m'.entries.map _)
    rw [List.forall₂_map_left_iff, List.forall₂_map_right_iff]
    refine h.imp fun e e' same => ?_
    rw [same.1]
    split
    · exact ⟨rfl, hv⟩
    · exact same
  · exact List.rel_append h (.cons ⟨rfl, hv⟩ .nil)

theorem rel_ofList {ps : List (Binary64 × α)} {qs : List (Binary64 × β)}
    (h : List.Forall₂ (fun p q => p.1 = q.1 ∧ R p.2 q.2) ps qs) : Rel R (ofList ps) (ofList qs) := by
  unfold ofList
  -- setting related pairs one by one keeps the maps built so far related
  suffices step : ∀ (acc : KeyMap α) (acc' : KeyMap β), Rel R acc acc' →
      Rel R (ps.foldl (fun m p => m.set p.1 p.2) acc) (qs.foldl (fun m p => m.set p.1 p.2) acc') from
    step empty empty .nil
  induction h with
  | nil => exact fun _ _ related => related
  | cons head tail ih =>
    intro acc acc' related
    rw [List.foldl_cons, List.foldl_cons, head.1]
    exact ih _ _ (related.set _ head.2)

end KeyMap

namespace Document

/-- The members of a document's JSON form, each table written member by member. -/
def jsonMembers (d : Document) : List (String × Json) :=
  [("admins", .arr (d.admins.map Json.num)),
    ("admin_profiles", .obj (d.adminProfiles.map fun q => (q.1, q.2.toJson))),
    ("applications", .obj (d.applications.map fun q => (q.1, q.2.toJson))),
    ("application_history", .obj (d.history.map fun q => (q.1, q.2.toJson))),
    ("xp", .obj (d.xp.map fun q => (q.1, .obj (q.2.map fun r => (r.1, .num r.2))))),
    ("cups", .obj (d.cups.map fun q => (q.1, .arr (q.2.map Cup.toJson))))]

theorem toJson_eq (d : Document) : d.toJson = .obj d.jsonMembers := rfl

theorem ascii_jsonMembers (d : Document) : ∀ p ∈ d.jsonMembers, ∀ c ∈ p.1.toList, c.toNat < 128 := by
  simp only [jsonMembers, List.forall_mem_cons]
  simp

theorem nodup_jsonMembers (d : Document) : (PropertyOrder.keys d.jsonMembers).Nodup := by
  simp only [PropertyOrder.keys, jsonMembers, List.map]
  decide

end Document

namespace DocumentShape

open Schema Checked Json

theorem toUnits_status_text (st : Status) : Text.toUnits st.text = st.text := by
  cases st <;> decide

theorem status_text (path : List PathItem) (st : Status) : status path (some (.str st.text)) = ok st := by
  cases st <;> rfl

theorem coercedNumber_gives_num {path : List PathItem} {x a : Binary64}
    (given : (coercedNumber path (some (.num x))).Gives a) : a = x := by
  unfold coercedNumber at given
  split at given
  · exact absurd given (not_gives_raise _)
  · dsimp only at given
    split at given
    · exact absurd given (not_gives_fail _ _)
    · exact (Option.some.inj given.2).symm

theorem integer_gives {path : List PathItem} {x y : Binary64} (given : (integer path (some (.num x))).Gives y) :
    y = x := by
  obtain ⟨a, converted, bounded⟩ := given.of_andThen
  obtain rfl := coercedNumber_gives_num converted
  dsimp only at bounded
  split at bounded
  · exact (Option.some.inj bounded.2).symm
  · exact absurd bounded.2 (by simp)

theorem historyEntry_gives {path : List PathItem} {e e' : HistoryEntry}
    (given : (historyEntry path (some (reread (toUnits e.toJson)))).Gives e') : e'.status = e.status := by
  have ascii : ∀ p ∈ e.fields, ∀ c ∈ p.1.toList, c.toNat < 128 := by
    simp only [HistoryEntry.fields, List.forall_mem_cons]
    simp
  have nodup : (PropertyOrder.keys e.fields).Nodup := by
    simp only [PropertyOrder.keys, HistoryEntry.fields, List.map]
    decide
  rw [HistoryEntry.toJson, reread_toUnits_obj ascii] at given
  obtain ⟨⟨st, u, n, l⟩, fields, rfl⟩ := given.of_map
  simp only [gives_both_iff] at fields
  have read := member_reread nodup (p := ("status", .str e.status.text)) (by simp [HistoryEntry.fields])
  have statusGiven := fields.1
  rw [field, read, reread_toUnits_str, toUnits_status_text, status_text] at statusGiven
  exact (Option.some.inj statusGiven.2).symm

theorem cup_gives {path : List PathItem} {c c' : Cup} (given : (cup path (some (reread (toUnits c.toJson)))).Gives c') :
    c'.createdAt = Timestamp.normalize (Text.toUnits c.createdAt) := by
  have ascii : ∀ p ∈ [("title", Json.str c.title), ("description", .str c.description),
      ("podium", .arr (c.podium.map Json.str)), ("created_at", .str c.createdAt)], ∀ ch ∈ p.1.toList, ch.toNat < 128 := by
    simp only [List.forall_mem_cons]
    simp
  have nodup : (PropertyOrder.keys [("title", Json.str c.title), ("description", .str c.description),
      ("podium", .arr (c.podium.map Json.str)), ("created_at", .str c.createdAt)]).Nodup := by
    simp only [PropertyOrder.keys, List.map]
    decide
  rw [Cup.toJson, reread_toUnits_obj ascii] at given
  obtain ⟨⟨t, d, p, at_⟩, fields, rfl⟩ := given.of_map
  simp only [gives_both_iff] at fields
  have read := member_reread nodup (p := ("created_at", .str c.createdAt)) (by simp)
  have timeGiven := fields.2.2.2
  rw [field, read, reread_toUnits_str] at timeGiven
  exact (Option.some.inj timeGiven.2).symm

variable {α β : Type}

theorem document_gives {d d' : Document} (given : (document [] (some (reread (toUnits d.toJson)))).Gives d') :
    List.Forall₂ (fun a y => ∃ p, (integer p (some (reread (toUnits (.num a))))).Gives y) d.admins d'.admins ∧
      (∃ p, (table profile p (some (reread (toUnits (.obj (d.adminProfiles.map fun q => (q.1, q.2.toJson))))))).Gives
        d'.adminProfiles) ∧
      (∃ p, (table application p (some (reread (toUnits (.obj (d.applications.map fun q => (q.1, q.2.toJson))))))).Gives
        d'.applications) ∧
      (∃ p, (table historyEntry p (some (reread (toUnits (.obj (d.history.map fun q => (q.1, q.2.toJson))))))).Gives
        d'.history) ∧
      ∃ p, (table (array cup) p (some (reread (toUnits (.obj (d.cups.map fun q => (q.1, .arr (q.2.map Cup.toJson)))))))).Gives
        d'.cups := by
  rw [Document.toJson_eq, reread_toUnits_obj d.ascii_jsonMembers] at given
  obtain ⟨⟨a, pr, ap, h, x, c⟩, fields, rfl⟩ := given.of_map
  simp only [gives_both_iff] at fields
  obtain ⟨ga, gp, gap, gh, -, gc⟩ := fields
  -- each field is checked on its member, read back
  have read := fun (k : String) (v : Json) (mem : (k, v) ∈ d.jsonMembers) =>
    member_reread d.nodup_jsonMembers (p := (k, v)) mem
  rw [field, read "admins" (.arr (d.admins.map Json.num)) (by simp [Document.jsonMembers])] at ga
  rw [field, read "admin_profiles" (.obj (d.adminProfiles.map fun q => (q.1, q.2.toJson)))
    (by simp [Document.jsonMembers])] at gp
  rw [field, read "applications" (.obj (d.applications.map fun q => (q.1, q.2.toJson)))
    (by simp [Document.jsonMembers])] at gap
  rw [field, read "application_history" (.obj (d.history.map fun q => (q.1, q.2.toJson)))
    (by simp [Document.jsonMembers])] at gh
  rw [field, read "cups" (.obj (d.cups.map fun q => (q.1, .arr (q.2.map Cup.toJson))))
    (by simp [Document.jsonMembers])] at gc
  refine ⟨?_, ⟨_, gp⟩, ⟨_, gap⟩, ⟨_, gh⟩, ⟨_, gc⟩⟩
  dsimp only at ga
  rw [reread_toUnits_arr, List.map_map] at ga
  exact List.forall₂_map_left_iff.mp (@array_gives _ integer _ _ _ ga)

/-- A map's table, read back and checked, gives pairs that make a map related to the map read back
from its own table: at each key, the value the check gives of the value written. Every key of the
table is an integer key. -/
theorem table_restores {m : KeyMap α} (valid : m.Valid) (enc : α → Json) {value : Check β} {path : List PathItem}
    {T : List (String × β)}
    (given : (table value path (some (reread (toUnits (.obj ((Ledger.textKeyed m).map fun q => (q.1, enc q.2))))))).Gives T) :
    KeyMap.Rel (fun v b => ∃ p, (value p (some (reread (toUnits (enc v))))).Gives b) (KeyMap.reread m)
        (KeyMap.ofList (Ledger.numberKeyed T)) ∧
      ∀ q ∈ Ledger.textKeyed m, isIntegerKey q.1 = true := by
  rw [reread_toUnits_table valid] at given
  have each := List.forall₂_map_left_iff.mp (table_gives given)
  refine ⟨KeyMap.rel_ofList ?_, ?_⟩
  · unfold Ledger.numberKeyed
    rw [List.forall₂_map_left_iff, List.forall₂_map_right_iff]
    refine each.imp fun q t read => ?_
    obtain ⟨k, v⟩ := q
    obtain ⟨k', b⟩ := t
    obtain ⟨same, -, gives⟩ := read
    exact ⟨by rw [show k' = k from same], gives⟩
  · -- every member of the table was checked, key first
    intro q mem
    clear given
    generalize Ledger.textKeyed m = qs at each mem
    induction each with
    | nil => cases mem
    | cons head _ ih =>
      rcases List.mem_cons.mp mem with rfl | later
      · exact head.2.1
      · exact ih later

theorem isFinite_of_isIntegerKey {x : Binary64} (key : isIntegerKey x.format = true) : x.isFinite = true := by
  cases x with
  | finite neg u => rfl
  | nan => exact absurd key (by decide)
  | infinity neg => cases neg <;> exact absurd key (by decide)

end DocumentShape

namespace Binary64

theorem format_normalizeKey (x : Binary64) : (KeyMap.normalizeKey x).format = x.format := by
  unfold KeyMap.normalizeKey
  split <;> rfl

end Binary64

theorem exists_of_forall₂ {α β : Type} {R : α → β → Prop} {xs : List α} {ys : List β}
    (h : List.Forall₂ R xs ys) {x : α} (mem : x ∈ xs) : ∃ y ∈ ys, R x y := by
  induction h with
  | nil => cases mem
  | cons head _ ih =>
    rcases List.mem_cons.mp mem with rfl | later
    · exact ⟨_, List.mem_cons_self, head⟩
    · obtain ⟨y, yMem, related⟩ := ih later
      exact ⟨y, List.mem_cons_of_mem _ yMem, related⟩

theorem map_eq_of_forall₂ {α β γ : Type} {f : α → γ} {g : β → γ} {xs : List α} {ys : List β}
    (h : List.Forall₂ (fun x y => g y = f x) xs ys) : ys.map g = xs.map f := by
  induction h with
  | nil => rfl
  | cons head _ ih => rw [List.map_cons, List.map_cons, head, ih]

theorem map_eq_of_rel {α β γ : Type} {R : α → β → Prop} {f : α → γ} {g : β → γ} {a : Option α} {b : Option β}
    (h : Option.Rel R a b) (same : ∀ x y, R x y → g y = f x) : b.map g = a.map f := by
  cases h with
  | none => rfl
  | some related => exact congrArg some (same _ _ related)

namespace Ledger

open KeyMap Schema Checked Json DocumentShape

theorem any_foldl_addDistinct (xs : List Binary64) {acc : List Binary64} {y : Binary64}
    (held : acc.any (Binary64.sameValueZero · y) = true ∨ y ∈ xs) :
    (xs.foldl addDistinct acc).any (Binary64.sameValueZero · y) = true := by
  induction xs generalizing acc with
  | nil => simpa using held
  | cons x rest ih =>
    rw [List.foldl_cons]
    apply ih
    rcases held with old | mem
    · left
      unfold addDistinct
      split
      · exact old
      · rw [List.any_append, old, Bool.true_or]
    · rcases List.mem_cons.mp mem with rfl | later
      · left
        unfold addDistinct
        split
        · assumption
        · simp [Binary64.sameValueZero_iff]
      · exact .inr later

/-- A user's status: that of their latest history entry, none before they first apply. -/
def status (l : Ledger) (u : Binary64) : Option Status := (l.history.get? u).map (·.status)

/-- Two ledgers that agree on every user's place in the lifecycle: the keys of the profiles and
of the queue, every user's status, and every admin that has a profile. -/
structure Agrees (l l' : Ledger) : Prop where
  profiles : ∀ k, l'.profiles.contains k = l.profiles.contains k
  applications : ∀ k, l'.applications.contains k = l.applications.contains k
  statuses : ∀ k, l'.status k = l.status k
  admins : ∀ k, l.profiles.contains k = true → l.isAdmin k = true → l'.isAdmin k = true

theorem Agrees.refl (l : Ledger) : l.Agrees l :=
  ⟨fun _ => rfl, fun _ => rfl, fun _ => rfl, fun _ _ admin => admin⟩

/-- What a restart keeps of a ledger whose snapshot it reads: each user's place in the lifecycle,
and the time of every cup, normalised. -/
structure Restores (l l' : Ledger) : Prop extends Agrees l l' where
  cupTimes : ∀ chat, (l'.cups.get? chat).map (List.map (·.createdAt)) =
    (l.cups.get? chat).map (List.map fun c => Timestamp.normalize (Text.toUnits c.createdAt))

theorem rel_ofList_map {α : Type} {ps : List (Binary64 × α)} {g : Binary64 × α → Binary64 × α}
    (keys : ∀ p, (g p).1 = p.1) : Rel (fun _ _ => True) (ofList ps) (ofList (ps.map g)) := by
  refine rel_ofList (List.forall₂_map_right_iff.mpr ?_)
  induction ps with
  | nil => exact .nil
  | cons p rest ih => exact .cons ⟨(keys p).symm, trivial⟩ ih

theorem restores_of_check {l : Ledger} (c : l.Consistent) {d : Document}
    (accepted : Document.check (reread (toUnits l.toDocument.toJson)) = .ok d) : l.Restores (ofDocument d) := by
  obtain ⟨admins, ⟨_, profiles⟩, ⟨_, apps⟩, ⟨_, hist⟩, ⟨_, cups⟩⟩ := document_gives (gives_of_toExcept accepted)
  obtain ⟨relP, keysP⟩ := table_restores c.profiles AdminProfile.toJson profiles
  obtain ⟨relA, -⟩ := table_restores c.applications Application.toJson apps
  obtain ⟨relH, -⟩ := table_restores c.history HistoryEntry.toJson hist
  obtain ⟨relC, -⟩ := table_restores c.cups (fun cs => .arr (cs.map Cup.toJson)) cups
  -- each map read back holds what the ledger's own map holds
  have sameP := fun k => c.profiles.similar_reread.contains_eq (valid_reread c.profiles) k
  have sameA := fun k => c.applications.similar_reread.contains_eq (valid_reread c.applications) k
  have sameH := fun k => c.history.similar_reread.get?_eq (valid_reread c.history) k
  have sameC := fun k => c.cups.similar_reread.get?_eq (valid_reread c.cups) k
  have appKeys : ∀ k, (ofDocument d).applications.contains k = l.applications.contains k := fun k =>
    ((rel_ofList_map fun p => by obtain ⟨k, a⟩ := p; rfl).contains k).trans ((relA.contains k).trans (sameA k))
  -- every queued application has a history entry, so a load adds none
  have recorded : (ofDocument d).history = ofList (numberKeyed d.history) := by
    show withPendingEntries (ofDocument d).applications (ofList (numberKeyed d.history)) = _
    refine withPendingEntries_of_recorded fun k mem => ?_
    have queued : l.applications.contains k = true := by
      rw [← appKeys k, contains_eq_any_keys]
      exact List.any_eq_true.mpr ⟨k, mem, Binary64.sameValueZero_iff.mpr rfl⟩
    rw [contains_eq_any_keys] at queued
    obtain ⟨k₀, mem₀, same⟩ := List.any_eq_true.mp queued
    rw [relH.contains k, c.history.similar_reread.contains_eq (valid_reread c.history) k,
      ← l.history.contains_congr same]
    exact c.recorded k₀ mem₀
  refine ⟨⟨fun k => (relP.contains k).trans (sameP k), appKeys, fun k => ?_, fun k profiled admin => ?_⟩, fun chat => ?_⟩
  · -- a status is read back from its word
    show Option.map _ _ = Option.map _ _
    rw [recorded, ← sameH k]
    exact map_eq_of_rel (relH.get? k) fun _ _ read => by
      obtain ⟨p, gives⟩ := read
      exact historyEntry_gives gives
  · -- the profile's key is written as an integer key, and so is the admin's
    rw [contains_eq_any_keys] at profiled
    obtain ⟨k₀, mem₀, sameK⟩ := List.any_eq_true.mp profiled
    have stored := c.profiles.stored k₀ mem₀
    obtain ⟨e, eMem, rfl⟩ := List.mem_map.mp mem₀
    have written : (e.1.format, e.2) ∈ textKeyed l.profiles := by
      obtain ⟨-, perm, -⟩ := PropertyOrder.ofList_spec c.profiles.keys_texts_nodup
      exact perm.symm.subset (List.mem_map_of_mem (f := fun q => (q.1.format, q.2)) eMem)
    have integerKey := keysP _ written
    obtain ⟨a, aMem, sameA⟩ := List.any_eq_true.mp admin
    obtain ⟨y, yMem, ⟨q, read⟩⟩ := exists_of_forall₂ admins aMem
    -- the admin is the same number as the profile's key, so it is written with the same text
    have sameKey : normalizeKey a = e.1 := by
      rw [← stored.1]
      exact Binary64.sameValueZero_iff.mp
        (Binary64.sameValueZero_trans sameA ((Binary64.sameValueZero_comm _ _).trans sameK))
    have finite : a.isFinite = true := by
      have := isFinite_of_isIntegerKey integerKey
      rw [← sameKey] at this
      unfold normalizeKey at this
      split at this <;> assumption
    rw [reread_toUnits_num, if_pos finite] at read
    have backY : y = e.1 := by
      rw [integer_gives read, ← Binary64.format_normalizeKey a, sameKey, Binary64.ofNumeral_format stored.2, stored.1]
    have kept := @any_foldl_addDistinct d.admins [] _ (.inr (backY ▸ yMem))
    obtain ⟨z, zMem, sameZ⟩ := List.any_eq_true.mp kept
    exact List.any_eq_true.mpr ⟨z, zMem, Binary64.sameValueZero_trans sameZ sameK⟩
  · -- a cup's time is read back normalised
    rw [← sameC chat]
    refine map_eq_of_rel (relC.get? chat) fun _ _ read => ?_
    obtain ⟨p, gives⟩ := read
    rw [reread_toUnits_arr, List.map_map] at gives
    refine map_eq_of_forall₂ ((List.forall₂_map_left_iff.mp (array_gives gives)).imp fun _ _ found => ?_)
    obtain ⟨q, cupGives⟩ := found
    exact cup_gives cupGives

end Ledger

namespace SnapshotFile

variable {f : SnapshotFile}

theorem sealText_ne_nil (key : Fernet.Key) (text : String) : sealText key text ≠ [] := by
  intro empty
  have opened := decrypt_sealText key text
  have refused : Fernet.decrypt key [] = .error .empty := rfl
  rw [empty, refused] at opened
  cases opened

theorem readBytes_sealText {j : Json} {d : Document} (read : f.readBytes (sealText f.key (Json.render j)) = .ok d) :
    Document.check (Json.reread (Json.toUnits j)) = .ok d := by
  unfold readBytes at read
  rw [decrypt_sealText] at read
  dsimp only at read
  rw [Utf8.decodeLossy_encode, Json.wellFormed_render, Json.parse?_render] at read
  dsimp only at read
  split at read
  · cases read
  · split at read
    · cases read
      assumption
    · cases read

theorem load_some {w w' : World} {d : Document} (run : f.load w = .ok (some d) w') :
    ∃ bytes, w.disk.read? f.path = some bytes ∧ f.readBytes bytes = .ok d := by
  unfold load at run
  obtain ⟨_, w₁, made, run⟩ := bind_ok run
  obtain ⟨_, w₂, removed, run⟩ := bind_ok run
  have making := World.keeps_call (fun e => StoreError.io e) (@Disk.keeps_enter f.path .makeDirectory)
  have kept : w₂.disk.read? f.path = w.disk.read? f.path :=
    (f.keeps_removeStaleTemp.ok removed).trans (making.ok made)
  obtain ⟨r, w₃, read, run⟩ := bind_ok run
  -- a missing or empty file gives no document
  cases r with
  | error e =>
    dsimp only at run
    split at run
    · obtain ⟨_, _, _, run⟩ := bind_ok run
      cases run
    · cases run
  | ok bytes =>
    have found := Disk.readFile_ok (World.attempt_ok read)
    rw [kept] at found
    cases bytes with
    | nil => cases run
    | cons b rest =>
      dsimp only at run
      cases reading : f.readBytes (b :: rest) with
      | ok d' => rw [reading] at run; cases run; exact ⟨_, found, reading⟩
      | error e => rw [reading] at run; cases run

theorem load_restores {l : Ledger} (c : l.Consistent) {w w' : World} {d : Document}
    (held : w.disk.read? f.path = some (sealText f.key (Json.render l.toDocument.toJson)))
    (run : f.load w = .ok (some d) w') : l.Restores (Ledger.ofDocument d) := by
  obtain ⟨bytes, found, read⟩ := f.load_some run
  rw [held] at found
  cases found
  exact Ledger.restores_of_check c (readBytes_sealText read)

theorem load_finds_sealed {w w' : World} {text : String} (noRead : FaultPoint.readFile ∉ w.disk.faultPoints)
    (held : w.disk.read? f.path = some (sealText f.key text)) (run : f.load w = .ok none w') : False := by
  have reads := f.load_ok noRead run
  rw [held] at reads
  unfold documentOf at reads
  split at reads
  · rename_i same
    cases same
  · rename_i same
    exact sealText_ne_nil f.key text (Option.some.inj same)
  · rename_i bytes _ _
    cases reading : f.readBytes bytes with
    | ok v => rw [reading] at reads; cases reads
    | error e => rw [reading] at reads; cases reads

end SnapshotFile

end GuildRegistry
