import GuildRegistry.Proofs.Store.Xp
import GuildRegistry.Proofs.Number.Order
import GuildRegistry.Proofs.Schema.Accepted
import Mathlib

/-! The XP leaderboard.

A chat's leaderboard ranks the scores of its table: higher scores first, and the same score by lower
identifier (`Standing.outranks`). When every identifier and score is a number the comparison the
board sorts with is that ranking (`Standing.comesFirst_compare`), a total order in which no two
scores of a table tie, since their identifiers differ.
-/

set_option autoImplicit false

namespace GuildRegistry

open Binary64 KeyMap

/-! ### The limit -/

section Limit

variable {α : Type}

/-- The items a limit allows, read off its value: all of them for positive infinity, the first
`⌊limit⌋` of them for a positive number, and none for zero, a negative number, negative
infinity or NaN. -/
def allowedBy (limit : Binary64) (items : List α) : List α :=
  match limit with
  | .infinity false => items
  | .finite false u => items.take ⌊(u : ℚ) / 2 ^ 1074⌋₊
  | _ => []

@[simp] theorem allowedBy_nil (limit : Binary64) : allowedBy limit ([] : List α) = [] := by
  unfold allowedBy
  split <;> simp

theorem floor_units (u : Nat) : ⌊(u : ℚ) / 2 ^ 1074⌋₊ = u / unit := by
  rw [unit, ← Nat.floor_div_eq_div (K := ℚ)]
  push_cast
  rfl

theorem takeLimit_eq_allowedBy (limit : Binary64) (items : List α) : takeLimit limit items = allowedBy limit items := by
  unfold takeLimit
  rw [zero_eq_finite]
  cases limit with
  | nan => rfl
  | infinity neg => cases neg <;> rfl
  | finite neg u =>
    rw [lt_finite]
    cases neg with
    | true => simp [signed, allowedBy]
    | false =>
      rcases Nat.eq_zero_or_pos u with rfl | pos
      · simp [signed, allowedBy]
      · simp [signed, pos, floor, allowedBy, floor_units, Nat.mul_div_cancel _ (Nat.two_pow_pos 1074), unit]

end Limit

/-! ### The ranking -/

namespace Standing

/-- A score of a table as a standing. -/
def ofEntry (e : Binary64 × Binary64) : Standing := ⟨e.1, e.2⟩

/-- Both the identifier and the score are numbers. -/
def Numbers (s : Standing) : Prop := s.userId.isNaN = false ∧ s.score.isNaN = false

/-- One standing ranks above another: a higher score, or the same score and a lower identifier. -/
def outranks (a b : Standing) : Bool :=
  Binary64.lt b.score a.score || (Binary64.eq a.score b.score && Binary64.lt a.userId b.userId)

/-- A standing's place in the ranking, as points of the extended line: its score, highest first,
then its identifier, lowest first. -/
def rank (s : Standing) : Lex ((WithBot (WithTop ℤ))ᵒᵈ × WithBot (WithTop ℤ)) :=
  toLex (OrderDual.toDual s.score.point, s.userId.point)

variable {a b : Standing}

theorem rank_le_iff : a.rank ≤ b.rank ↔
    b.score.point < a.score.point ∨ (a.score.point = b.score.point ∧ a.userId.point ≤ b.userId.point) := by
  rw [rank, rank, Prod.Lex.toLex_le_toLex]
  simp only [OrderDual.toDual_lt_toDual, OrderDual.toDual_inj]

theorem rank_lt_iff : a.rank < b.rank ↔
    b.score.point < a.score.point ∨ (a.score.point = b.score.point ∧ a.userId.point < b.userId.point) := by
  rw [rank, rank, Prod.Lex.toLex_lt_toLex]
  simp only [OrderDual.toDual_lt_toDual, OrderDual.toDual_inj]

theorem rank_inj : a.rank = b.rank ↔ a.score.point = b.score.point ∧ a.userId.point = b.userId.point := by
  rw [rank, rank, toLex_inj, Prod.mk.injEq, OrderDual.toDual_inj]

theorem comesFirst_compare (ha : a.Numbers) (hb : b.Numbers) : comesFirst (a.compare b) = decide (a.rank ≤ b.rank) := by
  unfold comesFirst Standing.compare orElse
  rw [zero_eq_finite, isNaN_or_eq_zero_sub hb.2 ha.2]
  by_cases tie : b.score.point = a.score.point
  · -- the scores tie, so the identifiers decide
    rw [if_pos (decide_eq_true tie), lt_zero_sub ha.1 hb.1]
    simp [rank_le_iff, tie, ← decide_not]
  · -- the scores differ, so the higher one comes first
    have higher : b.score.point < a.score.point ↔ ¬a.score.point < b.score.point :=
      ⟨fun h => not_lt.mpr h.le, fun h => lt_of_le_of_ne (not_lt.mp h) tie⟩
    rw [if_neg (by simpa using tie), lt_zero_sub hb.2 ha.2]
    simp only [rank_le_iff, Ne.symm tie, false_and, or_false, higher, decide_not]

theorem outranks_iff (ha : a.Numbers) (hb : b.Numbers) : a.outranks b = true ↔ a.rank < b.rank := by
  rw [rank_lt_iff, outranks, Bool.or_eq_true, Bool.and_eq_true, lt_iff_point_lt hb.2 ha.2,
    eq_iff_point_eq ha.2 hb.2, lt_iff_point_lt ha.1 hb.1]

end Standing

namespace Ledger

/-- The scores of a chat as standings, in the order of its table; none for a chat without a
table. -/
def standings (l : Ledger) (chat : Binary64) : List Standing :=
  match l.xp.get? chat with
  | none => []
  | some scores => scores.entries.map Standing.ofEntry

theorem standings_of_get?_none {l : Ledger} {chat : Binary64} (found : l.xp.get? chat = none) :
    l.standings chat = [] := by
  rw [standings, found]

theorem standings_of_get? {l : Ledger} {chat : Binary64} {scores : KeyMap Binary64}
    (found : l.xp.get? chat = some scores) : l.standings chat = scores.entries.map Standing.ofEntry := by
  rw [standings, found]

/-- A list ranks a chat's table: it holds every score of the table once, each ranked above the
ones after it. -/
def Ranks (l : Ledger) (chat : Binary64) (L : List Standing) : Prop :=
  L.Perm (l.standings chat) ∧ L.Pairwise fun a b => a.outranks b = true

variable {l : Ledger} {chat : Binary64}

theorem leaderboard_eq_mergeSort (numbers : ∀ s ∈ l.standings chat, s.Numbers) (limit : Binary64) :
    l.leaderboard chat limit = takeLimit limit ((l.standings chat).mergeSort fun a b => decide (a.rank ≤ b.rank)) := by
  unfold leaderboard
  cases found : l.xp.get? chat with
  | none => simp [standings_of_get?_none found, takeLimit_eq_allowedBy]
  | some scores =>
    rw [standings_of_get? found] at numbers ⊢
    have checked : ((scores.entries.map Standing.ofEntry).all fun r => !r.userId.isNaN && !r.score.isNaN) = true := by
      simp only [List.all_eq_true, Bool.and_eq_true, Bool.not_eq_true']
      exact numbers
    dsimp only
    split
    · -- between numbers the board's comparison is the order of ranks
      have sorted := List.map_mergeSort (f := id) (s := fun a b => decide (a.rank ≤ b.rank))
        (l := scores.entries.map Standing.ofEntry) fun a ha b hb => Standing.comesFirst_compare (numbers a ha) (numbers b hb)
      simp only [List.map_id] at sorted
      exact congrArg (takeLimit limit) sorted
    · rename_i unchecked
      exact absurd checked unchecked

theorem eq_of_rank_eq (c : l.Consistent) (numbers : ∀ s ∈ l.standings chat, s.Numbers) {a b : Standing}
    (ha : a ∈ l.standings chat) (hb : b ∈ l.standings chat) (same : a.rank = b.rank) : a = b := by
  have ids := (Standing.rank_inj.mp same).2
  cases found : l.xp.get? chat with
  | none => rw [standings_of_get?_none found] at ha; cases ha
  | some scores =>
    rw [standings_of_get? found] at ha hb numbers
    have valid := c.scores scores (Registry.mem_values_of_get? c.xp found)
    obtain ⟨e, eMem, rfl⟩ := List.mem_map.mp ha
    obtain ⟨e', eMem', rfl⟩ := List.mem_map.mp hb
    -- equal points are the same number, and a stored key is the only one of its number
    have equal : Binary64.eq e.1 e'.1 = true := (eq_iff_point_eq (numbers _ ha).1 (numbers _ hb).1).mpr ids
    have sameKey : normalizeKey e.1 = normalizeKey e'.1 :=
      sameValueZero_iff.mp (by simp [sameValueZero, equal])
    rw [(valid.stored_of_mem eMem).1, (valid.stored_of_mem eMem').1] at sameKey
    rw [valid.eq_of_key_eq eMem eMem' sameKey]

theorem standings_nodup (c : l.Consistent) : (l.standings chat).Nodup := by
  cases found : l.xp.get? chat with
  | none => rw [standings_of_get?_none found]; exact List.nodup_nil
  | some scores =>
    rw [standings_of_get? found]
    have valid := c.scores scores (Registry.mem_values_of_get? c.xp found)
    refine (valid.nodup.of_map _).map fun e e' same => ?_
    cases e
    cases e'
    cases same
    rfl

theorem Ranks.eq (numbers : ∀ s ∈ l.standings chat, s.Numbers) {L L' : List Standing} (h : l.Ranks chat L)
    (h' : l.Ranks chat L') : L = L' := by
  refine List.Perm.eq_of_pairwise (fun a b ha hb above below => ?_) h.2 h'.2 (h.1.trans h'.1.symm)
  have na := numbers a (h.1.subset ha)
  have nb := numbers b (h'.1.subset hb)
  exact absurd ((Standing.outranks_iff na nb).mp above) (not_lt.mpr ((Standing.outranks_iff nb na).mp below).le)

theorem ranks_mergeSort (c : l.Consistent) (numbers : ∀ s ∈ l.standings chat, s.Numbers) :
    l.Ranks chat ((l.standings chat).mergeSort fun a b => decide (a.rank ≤ b.rank)) := by
  have perm := List.mergeSort_perm (l.standings chat) fun a b => decide (a.rank ≤ b.rank)
  refine ⟨perm, ?_⟩
  have ordered : ((l.standings chat).mergeSort fun a b => decide (a.rank ≤ b.rank)).Pairwise
      fun a b => decide (a.rank ≤ b.rank) = true :=
    List.pairwise_mergeSort (fun a b c hab hbc => by simpa using le_trans (by simpa using hab) (by simpa using hbc))
      (fun a b => by simpa using le_total a.rank b.rank) (l.standings chat)
  -- distinct standings of the table have distinct ranks, so the order is strict
  refine (ordered.and (perm.nodup_iff.mpr (standings_nodup c))).imp_of_mem fun {a b} ha hb apart => ?_
  have ha := perm.subset ha
  have hb := perm.subset hb
  refine (Standing.outranks_iff (numbers a ha) (numbers b hb)).mpr (lt_of_le_of_ne (by simpa using apart.1) ?_)
  exact fun same => apart.2 (eq_of_rank_eq c numbers ha hb same)

theorem leaderboard_ranked (c : l.Consistent) (numbers : ∀ s ∈ l.standings chat, s.Numbers) (limit : Binary64) :
    (∃ L, l.Ranks chat L) ∧ ∀ L, l.Ranks chat L → l.leaderboard chat limit = allowedBy limit L := by
  have sorted := ranks_mergeSort c numbers
  refine ⟨⟨_, sorted⟩, fun L ranked => ?_⟩
  rw [leaderboard_eq_mergeSort numbers, takeLimit_eq_allowedBy, Ranks.eq numbers sorted ranked]

end Ledger

/-! ### Tables of numbers -/

namespace Binary64

theorem isNaN_normalizeKey (k : Binary64) : (normalizeKey k).isNaN = k.isNaN := by
  unfold normalizeKey
  split <;> rfl

theorem isNaN_of_sameValueZero {x y : Binary64} (same : sameValueZero x y = true) (hy : y.isNaN = false) :
    x.isNaN = false := by
  rw [← isNaN_normalizeKey, sameValueZero_iff.mp same, isNaN_normalizeKey, hy]

theorem isNaN_of_isInteger {x : Binary64} (h : x.isInteger = true) : x.isNaN = false := by
  cases x with
  | nan => cases h
  | _ => rfl

theorem isNaN_of_isSafeInteger {x : Binary64} (h : x.isSafeInteger = true) : x.isNaN = false := by
  cases x with
  | nan => cases h
  | _ => rfl

theorem isNaN_add_finite {x : Binary64} (hx : x.isNaN = false) (neg : Bool) (u : Nat) :
    (x + finite neg u).isNaN = false := by
  cases x with
  | nan => cases hx
  | infinity s => rfl
  | finite s v => exact (hasSign_addFinite s v neg u).number

theorem representable_of_isSafeInteger {x : Binary64} (h : x.isSafeInteger = true) : x.Representable := by
  cases x with
  | nan => cases h
  | infinity s => cases h
  | finite neg u =>
    simp only [isSafeInteger, Bool.and_eq_true, beq_iff_eq, decide_eq_true_eq] at h
    obtain ⟨whole, small⟩ := h
    have units : u = u / unit * 2 ^ 1074 := (Nat.div_mul_cancel (Nat.dvd_of_mod_eq_zero whole)).symm
    have bound : u / unit ≤ 2 ^ 53 := small.trans (Nat.sub_le _ _)
    refine ⟨units ▸ onGrid_mul_pow 1074 bound, ?_⟩
    rw [units, maxUnits]
    exact Nat.mul_le_mul small (Nat.pow_le_pow_right (by decide) (by decide))

end Binary64

namespace Ledger

variable {l : Ledger} {chat : Binary64}

/-- Every identifier and score in the XP tables is a number. -/
def XpNumbers (l : Ledger) : Prop :=
  ∀ t ∈ l.xp.values, ∀ e ∈ t.entries, e.1.isNaN = false ∧ e.2.isNaN = false

theorem XpNumbers.standings (c : l.Consistent) (n : l.XpNumbers) : ∀ s ∈ l.standings chat, s.Numbers := by
  cases found : l.xp.get? chat with
  | none => simp [standings_of_get?_none found]
  | some scores =>
    rw [standings_of_get? found]
    intro s mem
    obtain ⟨e, entry, rfl⟩ := List.mem_map.mp mem
    exact n scores (Registry.mem_values_of_get? c.xp found) e entry

theorem xpNumbers_empty : empty.XpNumbers := by
  intro t mem
  cases mem

theorem xpNumbers_ofDocument {d : Document} (shape : d.XpShape) : (ofDocument d).XpNumbers := by
  intro t mem e entry
  obtain ⟨⟨k, t'⟩, held, rfl⟩ : ∃ p ∈ d.xp, KeyMap.ofList (numberKeyed p.2) = t := by
    simpa [ofDocument, numberKeyed] using mem_values_ofList mem
  obtain ⟨q, qMem, value, same⟩ := mem_ofList entry
  obtain ⟨⟨k', v⟩, vMem, rfl⟩ := List.mem_map.mp qMem
  obtain ⟨key, integer⟩ := (shape ⟨k, t'⟩ held).2 ⟨k', v⟩ vMem
  exact ⟨isNaN_of_sameValueZero same (isNaN_ofNumeral_of_isIntegerKey key), value ▸ isNaN_of_isInteger integer⟩

theorem XpNumbers.reload (c : l.Consistent) (n : l.XpNumbers) : l.reload.XpNumbers := by
  intro t mem e entry
  rw [reload_xp c] at mem
  -- every table read back is a table of the ledger read back
  obtain ⟨⟨k, t'⟩, tMem, rfl⟩ := List.mem_map.mp mem
  obtain ⟨⟨k', t₀⟩, oldMem, same⟩ := List.mem_map.mp tMem
  cases same
  have old : t₀ ∈ l.xp.values := List.mem_map_of_mem (mem_reread c.xp oldMem)
  exact n t₀ old e (mem_reread (c.scores t₀ old) entry)

end Ledger

namespace Registry

theorem XpNumbers.addXp {r : Registry} (c : r.ledger.Consistent) (n : r.ledger.XpNumbers) {chat u amount : Binary64}
    (hu : u.isNaN = false) (fine : xpAmountError? amount = none) : (r.addXp chat u amount).after.ledger.XpNumbers := by
  have scoresValid := scores_valid c chat
  -- the chat's table before the grant holds numbers
  have before : ∀ e ∈ ((r.ledger.xp.get? chat).getD KeyMap.empty).entries, e.1.isNaN = false ∧ e.2.isNaN = false := by
    cases found : r.ledger.xp.get? chat with
    | none => intro e mem; cases mem
    | some t₀ => exact n t₀ (mem_values_of_get? c.xp found)
  have previous : ((((r.ledger.xp.get? chat).getD KeyMap.empty).get? u).getD 0).isNaN = false := by
    cases found : ((r.ledger.xp.get? chat).getD KeyMap.empty).get? u with
    | none => rw [zero_eq_finite]; rfl
    | some v =>
      obtain ⟨e, entry, rfl⟩ := List.mem_map.mp (mem_values_of_get? scoresValid found)
      exact (before e entry).2
  obtain ⟨neg, units, rfl⟩ : ∃ neg units, amount = .finite neg units := by
    unfold xpAmountError? at fine
    split at fine
    · rename_i safe
      cases amount with
      | finite neg units => exact ⟨neg, units, rfl⟩
      | _ => simp [isSafeInteger] at safe
    · cases fine
  intro t mem e entry
  rcases mem_values_set mem with rfl | old
  · rcases mem_entries_set entry with ⟨total, same⟩ | old
    · exact ⟨isNaN_of_sameValueZero same hu, total ▸ isNaN_add_finite previous neg units⟩
    · exact before e old
  · exact n t old e entry

end Registry

namespace SnapshotFile

variable {f : SnapshotFile}

theorem readBytes_accepted {bytes : List UInt8} {d : Document} (read : f.readBytes bytes = .ok d) :
    ∃ j, Document.check j = .ok d := by
  unfold readBytes at read
  split at read
  · cases read
  · split at read
    · cases read
    · split at read
      · cases read
      · split at read
        · rename_i checked
          cases read
          exact ⟨_, checked⟩
        · cases read

theorem load_accepted {w w' : World} {d : Document} (run : f.load w = .ok (some d) w') :
    ∃ j, Document.check j = .ok d := by
  unfold load at run
  obtain ⟨_, w₁, -, run⟩ := bind_ok run
  obtain ⟨_, w₂, -, run⟩ := bind_ok run
  obtain ⟨r, w₃, -, run⟩ := bind_ok run
  -- a missing or empty file gives no document
  cases r with
  | error e =>
    dsimp only at run
    split at run
    · obtain ⟨_, _, _, run⟩ := bind_ok run
      cases run
    · cases run
  | ok bytes =>
    cases bytes with
    | nil => cases run
    | cons b rest =>
      dsimp only at run
      cases reading : f.readBytes (b :: rest) with
      | ok d' => rw [reading] at run; cases run; exact readBytes_accepted reading
      | error e => rw [reading] at run; cases run

end SnapshotFile

namespace Request

/-- Whether every identifier a call hands a change is a safe integer. -/
def hasSafeIds : Request → Bool
  | .addAdmin u _ | .removeAdmin u | .withdraw u | .pop u | .recordDecision u _ _ | .decide u _ _ => u.isSafeInteger
  | .submit sub => sub.userId.isSafeInteger
  | .addXp chat u _ => chat.isSafeInteger && u.isSafeInteger
  | .addCup chat _ => chat.isSafeInteger
  | _ => true

theorem idsHeld_of_hasSafeIds {req : Request} (safe : req.hasSafeIds = true) : req.IdsHeld := by
  cases req with
  | addXp chat u amount =>
    rw [hasSafeIds, Bool.and_eq_true] at safe
    exact ⟨representable_of_isSafeInteger safe.1, representable_of_isSafeInteger safe.2⟩
  | addAdmin u p => exact representable_of_isSafeInteger safe
  | submit sub => exact representable_of_isSafeInteger safe
  | recordDecision u st d => exact representable_of_isSafeInteger safe
  | addCup chat cup => exact representable_of_isSafeInteger safe
  | _ => trivial

variable {f : SnapshotFile}

theorem xpNumbers_leaves {req : Request} {s : Store} {r : Registry} (c : s.registry.ledger.Consistent)
    (n : s.registry.ledger.XpNumbers) (safe : req.hasSafeIds = true) (left : req.Leaves f s r) :
    r.ledger.XpNumbers := by
  rcases left with rfl | ⟨-, rfl⟩ | ⟨-, doc, w, loaded, rfl⟩ | moved
  · exact n
  · exact n.reload c
  · cases doc with
    | none => exact Ledger.xpNumbers_empty
    | some d =>
      obtain ⟨j, accepted⟩ := f.load_accepted loaded
      exact Ledger.xpNumbers_ofDocument (Document.check_xp accepted)
  · rcases tables_changes moved with ⟨xp, -⟩ | ⟨chat, u, amount, rfl, fine, rfl⟩ | ⟨chat, cup, c', rfl, ok, rfl⟩
    · intro t mem
      rw [xp] at mem
      exact n t mem
    · rw [hasSafeIds, Bool.and_eq_true] at safe
      exact Registry.XpNumbers.addXp c n (isNaN_of_isSafeInteger safe.2) fine
    · intro t mem
      rw [Registry.addCup_xp ok] at mem
      exact n t mem

end Request

namespace Action

/-- Whether every identifier a call hands a change is a safe integer; an action other than a call
hands none. -/
def hasSafeIds : Action → Bool
  | .call req => req.hasSafeIds
  | _ => true

end Action

namespace Session

variable {f : SnapshotFile}

theorem keeps_xpNumbers :
    Keeps f (fun a => a.hasSafeIds = true) fun s => s.registry.ledger.Consistent ∧ s.registry.ledger.XpNumbers :=
  keeps_registry (Q := fun r => r.ledger.Consistent ∧ r.ledger.XpNumbers) fun _ _ _ safe kept left =>
    ⟨Request.consistent_leaves kept.1 (Request.idsHeld_of_hasSafeIds safe) left,
      Request.xpNumbers_leaves kept.1 kept.2 safe left⟩

/-- From a ledger read from an accepted document, every run whose calls have safe identifiers
leaves, for every chat, a table that exactly one list ranks, and the leaderboard for every limit
is that list cut to the limit. -/
theorem leaderboard_ranks_scores {j : Json} {d : Document} (accepted : Document.check j = .ok d) {s : Store}
    (loaded : s.registry.ledger = Ledger.ofDocument d) {steps : List SessionStep}
    (safe : ∀ st ∈ steps, ∀ a ∈ st.actions, a.hasSafeIds = true) (chat limit : Binary64) :
    (∃ L, (run f s steps).2.registry.ledger.Ranks chat L) ∧
      ∀ L, (run f s steps).2.registry.ledger.Ranks chat L →
        (run f s steps).2.registry.ledger.leaderboard chat limit = allowedBy limit L := by
  have start : s.registry.ledger.Consistent ∧ s.registry.ledger.XpNumbers := by
    rw [loaded]
    exact ⟨Ledger.consistent_ofDocument d, Ledger.xpNumbers_ofDocument (Document.check_xp accepted)⟩
  obtain ⟨c, n⟩ := keeps_xpNumbers.run safe start
  exact Ledger.leaderboard_ranked c (n.standings c) limit

set_option maxRecDepth 20000 in
/-- Two users tied at 10 points in a chat's table, one more granted 10 and one of the tied users
granted 5 more. -/
theorem leaderboard_ranks_granted_table :
    Document.check (.obj [("xp", .obj [("7", .obj [("5", .num 10), ("3", .num 10)])])]) =
        .ok { Document.empty with xp := [("7", [("5", 10), ("3", 10)])] } ∧
      (∀ st ∈ [SessionStep.single (.call (.addXp 7 2 10)), .single (.call (.addXp 7 5 5))], ∀ a ∈ st.actions,
        a.hasSafeIds = true) ∧
      let l := (run ⟨"data/storage.enc", ⟨[], []⟩⟩
        ⟨⟨Ledger.ofDocument { Document.empty with xp := [("7", [("5", 10), ("3", 10)])] }, []⟩, ⟨Disk.empty, []⟩, 0⟩
        [.single (.call (.addXp 7 2 10)), .single (.call (.addXp 7 5 5))]).2.registry.ledger
      (∃ L, l.Ranks 7 L) ∧ ∀ L, l.Ranks 7 L → l.leaderboard 7 2 = allowedBy 2 L := by
  have accepted : Document.check (.obj [("xp", .obj [("7", .obj [("5", .num 10), ("3", .num 10)])])]) =
      .ok { Document.empty with xp := [("7", [("5", 10), ("3", 10)])] } := by rfl
  have safe : ∀ st ∈ [SessionStep.single (.call (.addXp 7 2 10)), .single (.call (.addXp 7 5 5))],
      ∀ a ∈ st.actions, a.hasSafeIds = true := by decide +kernel
  exact ⟨accepted, safe, leaderboard_ranks_scores accepted rfl safe 7 2⟩

end Session

end GuildRegistry
