import GuildRegistry.Proofs.Ledger.Snapshot
import GuildRegistry.Store.Registry

/-! What each change of the registry keeps.

Every change keeps a ledger `Consistent`, provided the identifiers it is given are values binary64
can hold. Every change also respects memories that answer alike (`Registry.Equiv`): run on two of
them, it answers alike, saves alike and leaves memories that answer alike. A change reads the ledger
only through its keys, so reordering a map cannot change what it does.
-/

set_option autoImplicit false

namespace GuildRegistry

open KeyMap

namespace Registry

/-- Two memories that answer alike: ledgers that answer alike, and the same reviews. -/
structure Equiv (r r' : Registry) : Prop where
  ledger : r.ledger.Equiv r'.ledger
  inReview : r.inReview = r'.inReview

theorem Equiv.refl (r : Registry) : Equiv r r := ⟨.refl _, rfl⟩

theorem Equiv.symm {r r' : Registry} (h : Equiv r r') : Equiv r' r := ⟨h.ledger.symm, h.inReview.symm⟩

theorem Equiv.trans {r r' r'' : Registry} (h : Equiv r r') (h' : Equiv r' r'') : Equiv r r'' :=
  ⟨h.ledger.trans h'.ledger, h.inReview.trans h'.inReview⟩

end Registry

namespace Change

/-- Two changes that answer alike up to `same`, both save or neither, and leave memories
that answer alike. -/
structure Agree {α : Type} (same : α → α → Prop) (c c' : Change α) : Prop where
  result : same c.result c'.result
  changed : c.changed = c'.changed
  after : Registry.Equiv c.after c'.after

/-- Two attempts at a change: the same failure, or changes that agree. -/
def Alike {α : Type} (same : α → α → Prop) : Except StoreError (Change α) → Except StoreError (Change α) → Prop
  | .error e, .error e' => e = e'
  | .ok c, .ok c' => Agree same c c'
  | _, _ => False

end Change

namespace Ledger

variable {l l' : Ledger}

/-! ### What ledgers that answer alike answer -/

theorem Equiv.isAdmin_eq (h : l.Equiv l') (u : Binary64) : l.isAdmin u = l'.isAdmin u := by
  rw [isAdmin, isAdmin, h.admins]

section Answers

variable (c : l.Consistent) (h : l.Equiv l')
include c h

theorem Equiv.profile_eq (u : Binary64) : l.profiles.get? u = l'.profiles.get? u :=
  h.profiles.get?_eq c.profiles u

theorem Equiv.history_eq (u : Binary64) : l.history.get? u = l'.history.get? u :=
  h.history.get?_eq c.history u

theorem Equiv.cups_eq (chat : Binary64) : l.cups.get? chat = l'.cups.get? chat :=
  h.cups.get?_eq c.cups chat

theorem Equiv.contains_application (u : Binary64) :
    l.applications.contains u = l'.applications.contains u := by
  rw [← contains_mapValues l.applications Application.normId, ← contains_mapValues l'.applications Application.normId]
  exact h.applications.contains_eq (c.applications.mapValues _) u

theorem Equiv.application_eq (u : Binary64) :
    (l.applications.get? u).map Application.normId = (l'.applications.get? u).map Application.normId := by
  rw [← get?_mapValues, ← get?_mapValues]
  exact h.applications.get?_eq (c.applications.mapValues _) u

end Answers

end Ledger

namespace KeyMap

theorem contains_normalizeKey {α : Type} (m : KeyMap α) (k : Binary64) :
    m.contains (normalizeKey k) = m.contains k := by
  simp only [contains]
  congr 1
  funext e
  apply Bool.eq_iff_iff.mpr
  rw [Binary64.sameValueZero_iff, Binary64.sameValueZero_iff, normalizeKey_normalizeKey]

theorem representable_of_normalizeKey {k : Binary64} (h : (normalizeKey k).Representable) : k.Representable := by
  cases k with
  | nan => trivial
  | infinity s => trivial
  | finite s u => simpa [Binary64.Representable] using h

theorem Valid.representable_of_get? {α : Type} {m : KeyMap α} (valid : m.Valid) {k : Binary64} {v : α}
    (found : m.get? k = some v) : k.Representable :=
  representable_of_normalizeKey (valid.stored_of_mem ((valid.get?_eq_some_iff k v).mp found)).2

end KeyMap

namespace Ledger

variable {l : Ledger}

/-! ### Changes that keep a ledger consistent -/

theorem Consistent.eraseApplication (c : l.Consistent) (u : Binary64) :
    Consistent { l with applications := l.applications.erase u } where
  admins_distinct := c.admins_distinct
  profiles := c.profiles
  applications := c.applications.erase u
  history := c.history
  xp := c.xp
  scores := c.scores
  cups := c.cups
  own_ids e mem := c.own_ids e (List.mem_of_mem_filter mem)
  recorded k mem := c.recorded k ((keys_erase_sublist _ u).subset mem)

theorem Consistent.setHistory (c : l.Consistent) {u : Binary64} (hu : u.Representable) (e : HistoryEntry) :
    Consistent { l with history := l.history.set u e } where
  admins_distinct := c.admins_distinct
  profiles := c.profiles
  applications := c.applications
  history := c.history.set hu e
  xp := c.xp
  scores := c.scores
  cups := c.cups
  own_ids := c.own_ids
  recorded k mem := contains_set_of_contains (c.recorded k mem) u e

theorem Consistent.queue (c : l.Consistent) (u : Binary64) (a : Application) (own : a.userId = u)
    (hu : u.Representable) (fresh : l.applications.contains u = false) (e : HistoryEntry) :
    Consistent { l with applications := l.applications.set u a, history := l.history.set u e } where
  admins_distinct := c.admins_distinct
  profiles := c.profiles
  applications := c.applications.set hu a
  history := c.history.set hu e
  xp := c.xp
  scores := c.scores
  cups := c.cups
  own_ids x mem := by
    rw [set_of_not_contains fresh, List.mem_append, List.mem_singleton] at mem
    rcases mem with old | rfl
    · exact c.own_ids x old
    · rw [own]
  recorded k mem := by
    rw [keys_set, fresh, if_neg Bool.false_ne_true, List.mem_append, List.mem_singleton] at mem
    rcases mem with old | rfl
    · exact contains_set_of_contains (c.recorded k old) _ e
    · rw [contains_normalizeKey]; exact contains_set_self _ _ e

theorem Consistent.setProfiles (c : l.Consistent) {profiles : KeyMap AdminProfile} (valid : profiles.Valid)
    {admins : List Binary64} (distinct : admins.Pairwise fun a b => Binary64.sameValueZero a b = false) :
    Consistent { l with admins := admins, profiles := profiles } :=
  ⟨distinct, valid, c.applications, c.history, c.xp, c.scores, c.cups, c.own_ids, c.recorded⟩

theorem Consistent.setXp (c : l.Consistent) {chat : Binary64} (hchat : chat.Representable)
    {t : KeyMap Binary64} (valid : t.Valid) : Consistent { l with xp := l.xp.set chat t } where
  admins_distinct := c.admins_distinct
  profiles := c.profiles
  applications := c.applications
  history := c.history
  xp := c.xp.set hchat t
  scores x mem := by
    rcases mem_values_set mem with rfl | old
    · exact valid
    · exact c.scores x old
  cups := c.cups
  own_ids := c.own_ids
  recorded := c.recorded

theorem Consistent.setCups (c : l.Consistent) {chat : Binary64} (hchat : chat.Representable) (cs : List Cup) :
    Consistent { l with cups := l.cups.set chat cs } :=
  ⟨c.admins_distinct, c.profiles, c.applications, c.history, c.xp, c.scores, c.cups.set hchat cs, c.own_ids,
    c.recorded⟩

end Ledger

namespace Registry

variable {r r' : Registry}

/-! ### Admins -/

section AddAdmin

variable (u : Binary64) (p : ProfileUpdate)

theorem consistent_addAdmin (c : r.ledger.Consistent) (hu : u.Representable) :
    (r.addAdmin u p).after.ledger.Consistent := by
  obtain ⟨distinct, profiles, apps, history, xp, scores, cups, own, recorded⟩ := c
  unfold addAdmin
  dsimp only
  refine ⟨?_, ?_, apps, history, xp, scores, cups, own, recorded⟩
  · dsimp only
    split
    · -- a new admin is no admin yet, so no admin is the same number
      rename_i added
      simp only [Bool.not_eq_true', Ledger.isAdmin, List.any_eq_false] at added
      rw [List.pairwise_append]
      exact ⟨distinct, List.pairwise_singleton _ _, fun a mem b single => by
        rw [List.mem_singleton.mp single]; simpa using added a mem⟩
    · exact distinct
  · dsimp only
    split
    · exact profiles.set hu _
    · exact profiles

theorem addAdmin_agree (h : Equiv r r') (c : r.ledger.Consistent) :
    Change.Agree Eq (r.addAdmin u p) (r'.addAdmin u p) := by
  have admin := h.ledger.isAdmin_eq u
  have profile := h.ledger.profile_eq c u
  unfold addAdmin
  dsimp only
  rw [admin, profile]
  refine ⟨rfl, rfl, ⟨⟨?_, ?_, h.ledger.applications, h.ledger.history, h.ledger.xp, h.ledger.cups⟩, h.inReview⟩⟩
  · dsimp only
    rw [h.ledger.admins]
  · dsimp only
    split
    · exact h.ledger.profiles.set c.profiles u _
    · exact h.ledger.profiles

end AddAdmin

section RemoveAdmin

variable (u : Binary64)

theorem consistent_removeAdmin (c : r.ledger.Consistent) : (r.removeAdmin u).after.ledger.Consistent := by
  unfold removeAdmin
  dsimp only
  split
  · exact c
  · obtain ⟨distinct, profiles, apps, history, xp, scores, cups, own, recorded⟩ := c
    exact ⟨distinct.sublist (List.eraseIdx_sublist _ _), profiles.erase u, apps, history, xp, scores, cups,
      own, recorded⟩

theorem removeAdmin_agree (h : Equiv r r') : Change.Agree Eq (r.removeAdmin u) (r'.removeAdmin u) := by
  unfold removeAdmin
  dsimp only
  rw [h.ledger.admins]
  split
  · exact ⟨rfl, rfl, h⟩
  · exact ⟨rfl, rfl, ⟨⟨rfl, h.ledger.profiles.erase u, h.ledger.applications, h.ledger.history, h.ledger.xp,
      h.ledger.cups⟩, h.inReview⟩⟩

end RemoveAdmin

/-! ### Applications -/

theorem Change.alike_ok {α : Type} {same : α → α → Prop} {c c' : Change α} (agree : Change.Agree same c c') :
    Change.Alike same (.ok c) (.ok c') := agree

theorem Change.alike_error {α : Type} {same : α → α → Prop} (e : StoreError) :
    Change.Alike same (.error e : Except StoreError (Change α)) (.error e) := rfl

theorem Change.alike_ite {α : Type} {same : α → α → Prop} {p : Prop} [Decidable p]
    {a b a' b' : Except StoreError (Change α)} (yes : p → Change.Alike same a a')
    (no : ¬p → Change.Alike same b b') :
    Change.Alike same (if p then a else b) (if p then a' else b') := by
  split
  · exact yes ‹_›
  · exact no ‹_›

theorem Change.unchanged_agree {α : Type} (h : Equiv r r') (a : α) :
    Change.Agree Eq (r.unchanged a) (r'.unchanged a) := ⟨rfl, rfl, h⟩

theorem isUnderReview_eq (h : Equiv r r') (u : Binary64) : r.isUnderReview u = r'.isUnderReview u := by
  rw [isUnderReview, isUnderReview, h.inReview]

section Submit

variable (now : Except StoreError String) (s : Submission)

theorem submit_agree (h : Equiv r r') (c : r.ledger.Consistent) :
    Change.Alike Eq (r.submit now s) (r'.submit now s) := by
  unfold submit
  dsimp only
  rw [h.ledger.contains_application c, isUnderReview_eq h, h.ledger.history_eq c]
  -- a refused submission changes nothing
  refine Change.alike_ite (fun _ => Change.alike_ok (Change.unchanged_agree h _)) fun _ => ?_
  refine Change.alike_ite (fun _ => Change.alike_ok (Change.unchanged_agree h _)) fun _ => ?_
  refine Change.alike_ite (fun _ => Change.alike_ok (Change.unchanged_agree h _)) fun _ => ?_
  cases now with
  | error e => exact Change.alike_error e
  | ok t =>
    refine Change.alike_ok ⟨rfl, rfl, ⟨⟨h.ledger.admins, h.ledger.profiles, ?_, ?_, h.ledger.xp, h.ledger.cups⟩,
      h.inReview⟩⟩
    · dsimp only
      rw [set_mapValues, set_mapValues]
      exact h.ledger.applications.set (c.applications.mapValues _) _ _
    · exact h.ledger.history.set c.history _ _

theorem consistent_submit (c : r.ledger.Consistent) (hu : s.userId.Representable)
    {c' : Change (Except SubmitRefusal (Application × HistoryEntry))} (ok : r.submit now s = .ok c') :
    c'.after.ledger.Consistent := by
  unfold submit at ok
  dsimp only at ok
  -- a refused submission leaves the memory as it was
  split at ok
  · injection ok with ok; rw [← ok]; exact c
  split at ok
  · injection ok with ok; rw [← ok]; exact c
  split at ok
  · injection ok with ok; rw [← ok]; exact c
  rename_i queued _ _
  cases now with
  | error e => cases ok
  | ok t =>
    injection ok with ok
    rw [← ok]
    refine c.queue s.userId _ ?_ hu ?_ _
    · rfl
    · simpa using queued

end Submit

/-- The entry a decision writes: its status and time, the note given, and the language code
given or else the previous entry's. -/
def decisionEntry (previous : Option HistoryEntry) (t : String) (status : Status) (d : DecisionDetails) :
    HistoryEntry :=
  ⟨status, t, Text.clean d.note, (Text.clean d.languageCode).or (previous.bind (·.languageCode))⟩

theorem writeHistory_ok (l : Ledger) (t : String) (u : Binary64) (status : Status) (d : DecisionDetails) :
    writeHistory l (.ok t) u status d =
      .ok (decisionEntry (l.history.get? u) t status d,
        { l with history := l.history.set u (decisionEntry (l.history.get? u) t status d) }) := rfl

theorem application_cases (h : Equiv r r') (c : r.ledger.Consistent) (u : Binary64) :
    (r.ledger.applications.get? u = none ∧ r'.ledger.applications.get? u = none) ∨
      ∃ a a', r.ledger.applications.get? u = some a ∧ r'.ledger.applications.get? u = some a' ∧
        a.normId = a'.normId := by
  have found := h.ledger.application_eq c u
  cases ha : r.ledger.applications.get? u <;> cases ha' : r'.ledger.applications.get? u <;>
    simp_all

theorem Equiv.eraseApplication (h : Equiv r r') (u : Binary64) :
    Ledger.Equiv { r.ledger with applications := r.ledger.applications.erase u }
      { r'.ledger with applications := r'.ledger.applications.erase u } := by
  refine ⟨h.ledger.admins, h.ledger.profiles, ?_, h.ledger.history, h.ledger.xp, h.ledger.cups⟩
  dsimp only
  rw [erase_mapValues, erase_mapValues]
  exact h.ledger.applications.erase u

section Decisions

variable (now : Except StoreError String) (u : Binary64)

theorem withdraw_agree (h : Equiv r r') (c : r.ledger.Consistent) :
    Change.Alike Eq (r.withdraw now u) (r'.withdraw now u) := by
  unfold withdraw
  rcases application_cases h c u with ⟨none, none'⟩ | ⟨a, a', found, found', same⟩
  · rw [none, none']
    exact Change.alike_ok (Change.unchanged_agree h _)
  · rw [found, found']
    have lang : a.languageCode = a'.languageCode := by
      have kept := congrArg Application.languageCode same
      exact kept
    cases now with
    | error e => exact Change.alike_error e
    | ok t =>
      simp only [writeHistory_ok, lang, h.ledger.history_eq c u]
      exact Change.alike_ok ⟨rfl, rfl, ⟨⟨h.ledger.admins, h.ledger.profiles, (h.eraseApplication u).applications,
        h.ledger.history.set c.history _ _, h.ledger.xp, h.ledger.cups⟩, h.inReview⟩⟩

theorem consistent_withdraw (c : r.ledger.Consistent) {c' : Change (Option HistoryEntry)}
    (ok : r.withdraw now u = .ok c') : c'.after.ledger.Consistent := by
  unfold withdraw at ok
  cases found : r.ledger.applications.get? u with
  | none => rw [found] at ok; injection ok with ok; rw [← ok]; exact c
  | some a =>
    rw [found] at ok
    cases now with
    | error e => cases ok
    | ok t =>
      simp only [writeHistory_ok] at ok
      injection ok with ok
      rw [← ok]
      exact (c.eraseApplication u).setHistory (c.applications.representable_of_get? found) _

theorem consistent_pop (c : r.ledger.Consistent) : (r.pop u).after.ledger.Consistent := by
  unfold pop
  split
  · exact c
  · exact c.eraseApplication u

theorem consistent_recordDecision (c : r.ledger.Consistent) (hu : u.Representable) (status : Status)
    (d : DecisionDetails) {c' : Change HistoryEntry} (ok : r.recordDecision now u status d = .ok c') :
    c'.after.ledger.Consistent := by
  unfold recordDecision at ok
  cases now with
  | error e => cases ok
  | ok t =>
    by_cases pending : (status == .pending) = true
    · simp only [pending, if_true, writeHistory_ok] at ok
      injection ok with ok
      rw [← ok]
      exact c.setHistory hu _
    · simp only [pending, Bool.false_eq_true, if_false, writeHistory_ok] at ok
      injection ok with ok
      rw [← ok]
      exact (c.eraseApplication u).setHistory hu _

theorem consistent_decide (c : r.ledger.Consistent) (decision : Status) (d : DecisionDetails)
    {c' : Change (Option (Application × HistoryEntry))} (ok : r.decide now u decision d = .ok c') :
    c'.after.ledger.Consistent := by
  unfold decide at ok
  cases found : r.ledger.applications.get? u with
  | none => rw [found] at ok; injection ok with ok; rw [← ok]; exact c
  | some a =>
    rw [found] at ok
    cases now with
    | error e => cases ok
    | ok t =>
      simp only [writeHistory_ok] at ok
      injection ok with ok
      rw [← ok]
      exact (c.eraseApplication u).setHistory (c.applications.representable_of_get? found) _

theorem pop_agree (h : Equiv r r') (c : r.ledger.Consistent) :
    Change.Agree (fun o o' => o.map Application.normId = o'.map Application.normId) (r.pop u) (r'.pop u) := by
  unfold pop
  rcases application_cases h c u with ⟨none, none'⟩ | ⟨a, a', found, found', same⟩
  · rw [none, none']
    exact ⟨rfl, rfl, h⟩
  · rw [found, found']
    refine ⟨by simp [same], rfl, ⟨h.eraseApplication u, ?_⟩⟩
    dsimp only
    rw [isUnderReview_eq h, h.inReview]

theorem recordDecision_agree (h : Equiv r r') (c : r.ledger.Consistent) (status : Status)
    (d : DecisionDetails) :
    Change.Alike Eq (r.recordDecision now u status d) (r'.recordDecision now u status d) := by
  unfold recordDecision
  cases now with
  | error e => exact Change.alike_error e
  | ok t =>
    -- a decision other than pending also drops the application
    by_cases pending : (status == .pending) = true
    · simp only [pending, if_true, writeHistory_ok, h.ledger.history_eq c u]
      exact Change.alike_ok ⟨rfl, rfl, ⟨⟨h.ledger.admins, h.ledger.profiles, h.ledger.applications,
        h.ledger.history.set c.history _ _, h.ledger.xp, h.ledger.cups⟩, by rw [h.inReview]⟩⟩
    · simp only [pending, Bool.false_eq_true, if_false, writeHistory_ok, h.ledger.history_eq c u]
      exact Change.alike_ok ⟨rfl, rfl, ⟨⟨h.ledger.admins, h.ledger.profiles, (h.eraseApplication u).applications,
        h.ledger.history.set c.history _ _, h.ledger.xp, h.ledger.cups⟩, by rw [h.inReview]⟩⟩

theorem decide_agree (h : Equiv r r') (c : r.ledger.Consistent) (decision : Status) (d : DecisionDetails) :
    Change.Alike (fun o o' => o.map (fun p => (p.1.normId, p.2)) = o'.map (fun p => (p.1.normId, p.2)))
      (r.decide now u decision d) (r'.decide now u decision d) := by
  unfold decide
  rcases application_cases h c u with ⟨none, none'⟩ | ⟨a, a', found, found', same⟩
  · rw [none, none']
    exact Change.alike_ok ⟨rfl, rfl, h⟩
  · rw [found, found']
    have lang : a.languageCode = a'.languageCode := by
      have kept := congrArg Application.languageCode same
      exact kept
    cases now with
    | error e => exact Change.alike_error e
    | ok t =>
      simp only [writeHistory_ok, lang, h.ledger.history_eq c u]
      exact Change.alike_ok ⟨by simp [same], rfl, ⟨⟨h.ledger.admins, h.ledger.profiles,
        (h.eraseApplication u).applications, h.ledger.history.set c.history _ _, h.ledger.xp, h.ledger.cups⟩,
        h.inReview⟩⟩

end Decisions

/-! ### XP and cups -/

theorem mem_values_of_get? {α : Type} {m : KeyMap α} (valid : m.Valid) {k : Binary64} {v : α}
    (found : m.get? k = some v) : v ∈ m.values :=
  List.mem_map_of_mem ((valid.get?_eq_some_iff k v).mp found)

theorem scores_valid {l : Ledger} (c : l.Consistent) (chat : Binary64) :
    ((l.xp.get? chat).getD KeyMap.empty).Valid := by
  cases found : l.xp.get? chat with
  | none => exact valid_empty
  | some t => exact c.scores t (mem_values_of_get? c.xp found)

theorem scores_similar {l l' : Ledger} (h : l.Equiv l') (c : l.Consistent) (c' : l'.Consistent)
    (chat : Binary64) :
    Similar ((l.xp.get? chat).getD KeyMap.empty) ((l'.xp.get? chat).getD KeyMap.empty) := by
  have found : (l.xp.get? chat).map reread = (l'.xp.get? chat).map reread := by
    rw [← get?_mapValues, ← get?_mapValues]
    exact h.xp.get?_eq (c.xp.mapValues _) chat
  cases table : l.xp.get? chat <;> cases table' : l'.xp.get? chat <;> rw [table, table'] at found
  · exact .refl _
  · simp at found
  · simp at found
  · rename_i t t'
    simp only [Option.map_some, Option.some.injEq] at found
    have valid := c.scores t (mem_values_of_get? c.xp table)
    have valid' := c'.scores t' (mem_values_of_get? c'.xp table')
    -- both tables read back as the same table
    exact valid.similar_reread.symm.trans (found ▸ valid'.similar_reread)

theorem addXp_agree (h : Equiv r r') (c : r.ledger.Consistent) (c' : r'.ledger.Consistent)
    (chat u amount : Binary64) (hu : u.Representable) :
    Change.Agree Eq (r.addXp chat u amount) (r'.addXp chat u amount) := by
  have similar := scores_similar h.ledger c c' chat
  have valid := scores_valid c chat
  unfold addXp
  dsimp only
  rw [similar.get?_eq valid u, similar.contains_eq valid u]
  refine ⟨rfl, rfl, ⟨⟨h.ledger.admins, h.ledger.profiles, h.ledger.applications, h.ledger.history, ?_,
    h.ledger.cups⟩, h.inReview⟩⟩
  dsimp only
  rw [set_mapValues, set_mapValues, (valid.set hu _).reread_eq_of_similar (similar.set valid u _)]
  exact h.ledger.xp.set (c.xp.mapValues _) _ _

theorem consistent_addXp (c : r.ledger.Consistent) {chat u : Binary64} (hchat : chat.Representable)
    (hu : u.Representable) (amount : Binary64) : (r.addXp chat u amount).after.ledger.Consistent :=
  c.setXp hchat ((scores_valid c chat).set hu _)

theorem consistent_addCup (c : r.ledger.Consistent) (now : Except StoreError String) {chat : Binary64}
    (hchat : chat.Representable) (cup : NewCup) {c' : Change Cup} (ok : r.addCup now chat cup = .ok c') :
    c'.after.ledger.Consistent := by
  unfold addCup at ok
  cases now with
  | error e => cases ok
  | ok t =>
    injection ok with ok
    rw [← ok]
    exact c.setCups hchat _

theorem addCup_agree (h : Equiv r r') (c : r.ledger.Consistent) (now : Except StoreError String)
    (chat : Binary64) (cup : NewCup) :
    Change.Alike Eq (r.addCup now chat cup) (r'.addCup now chat cup) := by
  unfold addCup
  cases now with
  | error e => exact Change.alike_error e
  | ok t =>
    simp only [h.ledger.cups_eq c chat]
    exact Change.alike_ok ⟨rfl, rfl, ⟨⟨h.ledger.admins, h.ledger.profiles, h.ledger.applications,
      h.ledger.history, h.ledger.xp, h.ledger.cups.set c.cups _ _⟩, h.inReview⟩⟩

/-! ### The XP tables and cups that other changes leave -/

section Tables

variable {now : Except StoreError String}

theorem writeHistory_tables {l : Ledger} {u : Binary64} {status : Status} {d : DecisionDetails}
    {p : HistoryEntry × Ledger} (ok : writeHistory l now u status d = .ok p) : p.2.xp = l.xp ∧ p.2.cups = l.cups := by
  unfold writeHistory at ok
  cases now with
  | error e => cases ok
  | ok t => cases ok; exact ⟨rfl, rfl⟩

theorem submit_tables {s : Submission} {c : Change (Except SubmitRefusal (Application × HistoryEntry))}
    (ok : r.submit now s = .ok c) : c.after.ledger.xp = r.ledger.xp ∧ c.after.ledger.cups = r.ledger.cups := by
  unfold submit at ok
  simp only [bind, Except.bind, pure, Except.pure] at ok
  -- each refusal answers the memory as it was; a queued application touches no table
  split at ok
  · cases ok; exact ⟨rfl, rfl⟩
  · split at ok
    · cases ok; exact ⟨rfl, rfl⟩
    · split at ok
      · cases ok; exact ⟨rfl, rfl⟩
      · split at ok
        · cases ok
        · cases ok; exact ⟨rfl, rfl⟩

theorem withdraw_tables {u : Binary64} {c : Change (Option HistoryEntry)} (ok : r.withdraw now u = .ok c) :
    c.after.ledger.xp = r.ledger.xp ∧ c.after.ledger.cups = r.ledger.cups := by
  unfold withdraw at ok
  simp only [bind, Except.bind, pure, Except.pure] at ok
  split at ok
  · cases ok; exact ⟨rfl, rfl⟩
  · split at ok
    · cases ok
    · rename_i written
      cases ok
      have kept := writeHistory_tables written
      exact kept

theorem recordDecision_tables {u : Binary64} {status : Status} {d : DecisionDetails} {c : Change HistoryEntry}
    (ok : r.recordDecision now u status d = .ok c) :
    c.after.ledger.xp = r.ledger.xp ∧ c.after.ledger.cups = r.ledger.cups := by
  unfold recordDecision at ok
  simp only [bind, Except.bind, pure, Except.pure] at ok
  split at ok
  · cases ok
  · rename_i written
    cases ok
    have kept := writeHistory_tables written
    split at kept <;> exact kept

theorem decide_tables {u : Binary64} {decision : Status} {d : DecisionDetails}
    {c : Change (Option (Application × HistoryEntry))} (ok : r.decide now u decision d = .ok c) :
    c.after.ledger.xp = r.ledger.xp ∧ c.after.ledger.cups = r.ledger.cups := by
  unfold decide at ok
  simp only [bind, Except.bind, pure, Except.pure] at ok
  split at ok
  · cases ok; exact ⟨rfl, rfl⟩
  · split at ok
    · cases ok
    · rename_i written
      cases ok
      have kept := writeHistory_tables written
      exact kept

theorem removeAdmin_tables (u : Binary64) :
    (r.removeAdmin u).after.ledger.xp = r.ledger.xp ∧ (r.removeAdmin u).after.ledger.cups = r.ledger.cups := by
  unfold removeAdmin
  dsimp only
  split <;> exact ⟨rfl, rfl⟩

theorem addCup_xp {chat : Binary64} {cup : NewCup} {c : Change Cup} (ok : r.addCup now chat cup = .ok c) :
    c.after.ledger.xp = r.ledger.xp := by
  unfold addCup at ok
  cases now with
  | error e => cases ok
  | ok t => cases ok; rfl

theorem pop_tables (u : Binary64) :
    (r.pop u).after.ledger.xp = r.ledger.xp ∧ (r.pop u).after.ledger.cups = r.ledger.cups := by
  unfold pop
  split <;> exact ⟨rfl, rfl⟩

end Tables

end Registry

end GuildRegistry
