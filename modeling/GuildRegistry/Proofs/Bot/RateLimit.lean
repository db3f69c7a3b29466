import GuildRegistry.Bot.RateLimit
import GuildRegistry.Proofs.Bot.Questionnaire
import GuildRegistry.Proofs.Store.Xp

/-! The sliding-window limiter keeps its bound exactly.

Hits come at whole-millisecond clock readings that never go back, each far enough inside the safe
integers that the start of its window and the end of a wait are exact: `|t| + interval` is at most
`2^53`.
-/

set_option autoImplicit false

namespace GuildRegistry

-- powers of naturals are computed by `Nat.pow`, as in the definitions of binary64
attribute [local instance (high)] instPowNat

namespace Binary64

/-! ### Whole numbers within `2^53` -/

theorem ofInt_eq_finite {a : ℤ} (small : a.natAbs ≤ 2 ^ 53) :
    ofInt a = .finite (decide (a < 0)) (a.natAbs * unit) :=
  ofRatUnits_whole _ small

theorem ofInt_natCast (n : ℕ) : ofInt n = ofNat n := by
  rw [ofInt, Int.natAbs_natCast, decide_eq_false (by omega)]
  rfl

theorem isNaN_ofInt (a : ℤ) : (ofInt a).isNaN = false := isNaN_ofRatUnits _ _ _

theorem signed_ofInt (a : ℤ) : signed (decide (a < 0)) (a.natAbs * unit) = a * unit := by
  unfold signed
  by_cases neg : a < 0
  · rw [if_pos (decide_eq_true neg), Nat.cast_mul, Int.natCast_natAbs, abs_of_neg neg]
    ring
  · rw [if_neg (by simpa using neg), Nat.cast_mul, Int.natCast_natAbs, abs_of_nonneg (not_lt.mp neg)]

theorem lt_ofInt_ofInt {a b : ℤ} (ha : a.natAbs ≤ 2 ^ 53) (hb : b.natAbs ≤ 2 ^ 53) :
    lt (ofInt a) (ofInt b) = decide (a < b) := by
  rw [ofInt_eq_finite ha, ofInt_eq_finite hb, lt_finite, signed_ofInt, signed_ofInt]
  have pos : (0 : ℤ) < unit := by exact_mod_cast unit_pos
  simp only [decide_eq_decide]
  exact mul_lt_mul_iff_of_pos_right pos

theorem ofInt_add_ofInt {a b : ℤ} (ha : a.natAbs ≤ 2 ^ 53) (hb : b.natAbs ≤ 2 ^ 53)
    (hab : (a + b).natAbs ≤ 2 ^ 53) : ofInt a + ofInt b = ofInt (a + b) := by
  rw [ofInt_eq_finite ha, ofInt_eq_finite hb, ofInt_eq_finite hab, finite_add_finite, addFinite]
  have pos := unit_pos
  simp only [decide_eq_decide]
  split_ifs with same equal smaller
  · -- one sign: the magnitudes add
    rw [← Nat.add_mul, ofRatUnits_whole _ (by omega), finite.injEq]
    exact ⟨by simp only [decide_eq_decide]; omega, by congr 1; omega⟩
  · -- opposite signs and one magnitude: the sum is zero
    have cancel : a + b = 0 := by
      have magnitude := Nat.eq_of_mul_eq_mul_right pos equal
      omega
    rw [cancel]
    simp
  · have less : b.natAbs < a.natAbs := Nat.lt_of_mul_lt_mul_right smaller
    rw [← Nat.sub_mul, ofRatUnits_whole _ (by omega), finite.injEq]
    exact ⟨by simp only [decide_eq_decide]; omega, by congr 1; omega⟩
  · have less : a.natAbs < b.natAbs := by
      have le := Nat.le_of_mul_le_mul_right (Nat.not_lt.mp smaller) pos
      have ne : a.natAbs ≠ b.natAbs := fun same => equal (by rw [same])
      omega
    rw [← Nat.sub_mul, ofRatUnits_whole _ (by omega), finite.injEq]
    exact ⟨by simp only [decide_eq_decide]; omega, by congr 1; omega⟩

theorem ofInt_sub_ofInt {a b : ℤ} (ha : a.natAbs ≤ 2 ^ 53) (hb : b.natAbs ≤ 2 ^ 53)
    (hab : (a - b).natAbs ≤ 2 ^ 53) : ofInt a - ofInt b = ofInt (a - b) := by
  by_cases zero : b = 0
  · -- subtracting `+0` adds `-0`, which keeps every value
    subst zero
    have zero : ofInt 0 = finite false 0 := by
      rw [ofInt_eq_finite (by simp)]
      simp
    rw [zero, ofInt_eq_finite ha, finite_sub_finite, addFinite, Int.sub_zero, ofInt_eq_finite ha]
    split_ifs with same equal smaller
    · rw [Nat.add_zero, ofRatUnits_whole _ ha]
    · have : a = 0 := by
        rcases Nat.mul_eq_zero.mp equal with none | none
        · omega
        · exact absurd none unit_pos.ne'
      subst this
      simp
    · rw [Nat.sub_zero, ofRatUnits_whole _ ha]
    · exact absurd (Nat.pos_of_ne_zero equal) smaller
  · -- otherwise the difference adds the negation
    have flip : ofInt a - ofInt b = ofInt a + ofInt (-b) := by
      rw [ofInt_eq_finite hb, ofInt_eq_finite (a := -b) (by simpa using hb), Int.natAbs_neg]
      have sign : (!decide (b < 0)) = decide (-b < 0) := by
        have flipped : b < 0 ↔ ¬(-b < 0) := by omega
        simp only [flipped, decide_not, Bool.not_not]
      rw [← sign]
      rfl
    rw [flip, ofInt_add_ofInt ha (by simpa using hb) (by simpa [← Int.sub_eq_add_neg] using hab),
      ← Int.sub_eq_add_neg]

end Binary64

namespace Bot

open Binary64 (ofInt ofNat)

/-! ### Windows of a log of hits -/

/-- The clock readings of the hits of a log on a key inside the window of `interval`
milliseconds that ends at `now`, in the order of the log. -/
def window (interval : ℕ) (log : List (ℤ × Binary64)) (now : ℤ) (key : Binary64) : List ℤ :=
  (log.filter fun h => Binary64.sameValueZero h.2 key && decide (now - interval < h.1) &&
    decide (h.1 ≤ now)).map (·.1)

/-- A count below a limit, `n < x`, as points of the extended line. -/
def CountBelow (n : ℕ) (x : Binary64) : Prop :=
  ((((n * Binary64.unit : ℕ) : ℤ) : WithTop ℤ) : WithBot (WithTop ℤ)) < x.point

/-- Limits as the settings give them: a positive whole interval in milliseconds, and a burst of at
least one and at most `2^53`. -/
structure Limits (I : ℕ) (B : Binary64) : Prop where
  positive : 0 < I
  least : Binary64.le 1 B = true
  most : Binary64.le B (ofNat (2 ^ 53)) = true

/-- Clock readings that never go back, each far enough inside the safe integers that the start of
its window and the end of a wait are exact. -/
structure Clocked (interval : ℕ) (hits : List (ℤ × Binary64)) : Prop where
  ordered : (hits.map (·.1)).Pairwise (· ≤ ·)
  safe : ∀ h ∈ hits, h.1.natAbs + interval ≤ 2 ^ 53

section Window

variable {I : ℕ} {now : ℤ} {key : Binary64}

theorem window_append (log log' : List (ℤ × Binary64)) :
    window I (log ++ log') now key = window I log now key ++ window I log' now key := by
  simp [window, List.filter_append]

theorem window_singleton (t : ℤ) (k : Binary64) :
    window I [(t, k)] now key =
      if Binary64.sameValueZero k key = true ∧ now - I < t ∧ t ≤ now then [t] else [] := by
  unfold window
  split_ifs with inside <;> simp_all

theorem window_of_other {log : List (ℤ × Binary64)} (other : ∀ h ∈ log, Binary64.sameValueZero h.2 key = false) :
    window I log now key = [] := by
  unfold window
  rw [List.map_eq_nil_iff, List.filter_eq_nil_iff]
  intro h mem
  simp [other h mem]

theorem window_congr (log : List (ℤ × Binary64)) {a b : Binary64} (same : Binary64.sameValueZero a b = true) :
    window I log now a = window I log now b := by
  unfold window
  congr 1
  apply List.filter_congr
  intro h _
  congr 2
  rw [Bool.eq_iff_iff]
  exact ⟨fun ha => Binary64.sameValueZero_trans ha same,
    fun hb => Binary64.sameValueZero_trans hb (by rw [Binary64.sameValueZero_comm]; exact same)⟩

theorem mem_window {log : List (ℤ × Binary64)} {t : ℤ} (mem : t ∈ window I log now key) :
    now - I < t ∧ t ≤ now := by
  obtain ⟨h, inside, rfl⟩ := List.mem_map.mp mem
  simp only [List.mem_filter, Bool.and_eq_true, decide_eq_true_eq] at inside
  exact ⟨inside.2.1.2, inside.2.2⟩

theorem window_sublist (log : List (ℤ × Binary64)) : (window I log now key).Sublist (log.map (·.1)) :=
  (List.filter_sublist).map _

theorem window_later {log : List (ℤ × Binary64)} (upTo : ∀ h ∈ log, h.1 ≤ now) {now' : ℤ} (later : now ≤ now') :
    window I log now' key = (window I log now key).filter fun t => decide (now' - I < t) := by
  unfold window
  rw [List.filter_map, List.filter_filter]
  congr 1
  apply List.filter_congr
  intro h mem
  have before := upTo h mem
  simp only [Function.comp_apply]
  cases Binary64.sameValueZero h.2 key
  · simp
  · simp only [Bool.true_and, ← Bool.decide_and, decide_eq_decide]
    omega

theorem window_sublist_window {log : List (ℤ × Binary64)} (upTo : ∀ h ∈ log, h.1 ≤ now) {t : ℤ} {key' : Binary64}
    (same : Binary64.sameValueZero key key' = true) (ends : now ≤ t) :
    (window I log t key').Sublist (window I log now key) := by
  unfold window
  -- every hit of the later window passes the earlier window's test
  have narrower : log.filter (fun h => Binary64.sameValueZero h.2 key' && decide (t - I < h.1) && decide (h.1 ≤ t)) =
      (log.filter fun h => Binary64.sameValueZero h.2 key && decide (now - I < h.1) && decide (h.1 ≤ now)).filter
        fun h => Binary64.sameValueZero h.2 key' && decide (t - I < h.1) && decide (h.1 ≤ t) := by
    rw [List.filter_filter]
    apply List.filter_congr
    intro h mem
    have before := upTo h mem
    cases inside : Binary64.sameValueZero h.2 key'
    · simp
    · have onKey := Binary64.sameValueZero_trans inside (by rw [Binary64.sameValueZero_comm]; exact same)
      simp only [onKey, Bool.true_and, ← Bool.decide_and, decide_eq_decide]
      omega
  rw [narrower]
  exact List.filter_sublist.map _

end Window

theorem Clocked.tail {I : ℕ} {h : ℤ × Binary64} {hits : List (ℤ × Binary64)} (clocked : Clocked I (h :: hits)) :
    Clocked I hits :=
  ⟨(List.pairwise_cons.mp clocked.ordered).2, fun x mem => clocked.safe x (List.mem_cons_of_mem h mem)⟩

theorem Clocked.head_le {I : ℕ} {h : ℤ × Binary64} {hits : List (ℤ × Binary64)} (clocked : Clocked I (h :: hits)) :
    ∀ x ∈ hits, h.1 ≤ x.1 :=
  fun x mem => (List.pairwise_cons.mp clocked.ordered).1 x.1 (List.mem_map_of_mem mem)

/-! ### Counts below the burst -/

section Count

variable {B : Binary64}

theorem point_ofNat {n : ℕ} (small : n ≤ 2 ^ 53) :
    (ofNat n).point = ((((n * Binary64.unit : ℕ) : ℤ) : WithTop ℤ) : WithBot (WithTop ℤ)) := by
  rw [Binary64.ofNat_eq_finite small]
  rfl

theorem countBelow_iff {n : ℕ} (small : n ≤ 2 ^ 53) (number : B.isNaN = false) :
    CountBelow n B ↔ Binary64.lt (ofNat n) B = true := by
  rw [Binary64.lt_iff_point_lt (isNaN_ofNat n) number, point_ofNat small]
  rfl

theorem CountBelow.mono {m n : ℕ} (le : m ≤ n) (below : CountBelow n B) : CountBelow m B :=
  lt_of_le_of_lt (WithBot.coe_le_coe.mpr (WithTop.coe_le_coe.mpr
    (Int.ofNat_le.mpr (Nat.mul_le_mul_right _ le)))) below

theorem isNaN_of_le_nan (x : Binary64) : Binary64.le x .nan = false := by
  cases x <;> rfl

theorem isNaN_of_atLeast {x : Binary64} (least : Binary64.le x B = true) : B.isNaN = false := by
  cases B with
  | nan => rw [isNaN_of_le_nan] at least; cases least
  | infinity => rfl
  | finite => rfl

theorem countBelow_zero (least : Binary64.le 1 B = true) : CountBelow 0 B := by
  have one := (Binary64.le_iff_point_le (isNaN_ofNat 1) (isNaN_of_atLeast least)).mp least
  rw [point_ofNat (by norm_num)] at one
  refine lt_of_lt_of_le ?_ one
  exact WithBot.coe_lt_coe.mpr (WithTop.coe_lt_coe.mpr
    (Int.ofNat_lt.mpr (by rw [Nat.zero_mul, Nat.one_mul]; exact Binary64.unit_pos)))

theorem lt_of_countBelow (most : Binary64.le B (ofNat (2 ^ 53)) = true) {n : ℕ} (below : CountBelow n B) :
    n < 2 ^ 53 := by
  have number : B.isNaN = false := by
    cases B with
    | nan => cases most
    | infinity => rfl
    | finite => rfl
  have top := (Binary64.le_iff_point_le number (isNaN_ofNat _)).mp most
  rw [point_ofNat le_rfl] at top
  have scaled := Int.ofNat_lt.mp (WithTop.coe_lt_coe.mp (WithBot.coe_lt_coe.mp (lt_of_lt_of_le below top)))
  exact Nat.lt_of_mul_lt_mul_right scaled

end Count

namespace Limiter

/-! ### One hit -/

section Hit

variable {l : Limiter} {now key : Binary64}

theorem recent_set_of_other (ts : List Binary64) {key' : Binary64}
    (other : Binary64.sameValueZero key' key = false) :
    ({ l with hits := l.hits.set key ts } : Limiter).recent now key' = l.recent now key' := by
  unfold recent
  rw [KeyMap.get?_set_of_other _ _ other]

theorem recent_congr (l : Limiter) {a b : Binary64} (same : Binary64.sameValueZero a b = true) :
    l.recent now a = l.recent now b := by
  unfold recent
  rw [KeyMap.get?_congr _ same]

theorem hit_of_recent_nil (none : l.recent now key = []) :
    l.hit now key = (.allowed, { l with hits := l.hits.set key (l.recent now key ++ [now]) }) := by
  unfold hit
  rw [none]
  rfl

theorem hit_of_recent_cons {oldest : Binary64} {rest : List Binary64} (some : l.recent now key = oldest :: rest) :
    l.hit now key =
      if Binary64.le l.burst (ofNat (l.recent now key).length) then
        (.denied (oldest + l.interval - now), { l with hits := l.hits.set key (l.recent now key) })
      else (.allowed, { l with hits := l.hits.set key (l.recent now key ++ [now]) }) := by
  unfold hit
  rw [some]

end Hit

/-- Lets a hit at a whole clock reading through the limiter, or not, and adds it to the log of
the hits let through when it passes. -/
def offer (acc : List (ℤ × Binary64) × Limiter) (h : ℤ × Binary64) : List (ℤ × Binary64) × Limiter :=
  let r := acc.2.hit (ofInt h.1) h.2
  (if r.1 = .allowed then acc.1 ++ [h] else acc.1, r.2)

/-- Feeds hits one after another: the log of the hits let through, and the limiter after. -/
def feed (acc : List (ℤ × Binary64) × Limiter) (hits : List (ℤ × Binary64)) : List (ℤ × Binary64) × Limiter :=
  hits.foldl offer acc

/-! ### The invariant -/

/-- The limiter holds, for every key and every reading from `last` on, the readings of the hits of
`log` on the key still inside the window. The log is what it let through: no hit later than
`last`, in order, within the safe integers, and fewer than `burst + 1` hits in any window. -/
structure Tracks (I : ℕ) (B : Binary64) (log : List (ℤ × Binary64)) (last : ℤ) (l : Limiter) : Prop where
  interval_eq : l.interval = ofNat I
  burst_eq : l.burst = B
  ordered : (log.map (·.1)).Pairwise (· ≤ ·)
  safe : ∀ h ∈ log, h.1.natAbs + I ≤ 2 ^ 53
  upTo : ∀ h ∈ log, h.1 ≤ last
  bounded : ∀ t key, CountBelow ((window I log t key).length - 1) B
  recent_eq : ∀ now key, last ≤ now → now.natAbs + I ≤ 2 ^ 53 →
    l.recent (ofInt now) key = (window I log now key).map ofInt

section Tracks

variable {I : ℕ} {B : Binary64} {log : List (ℤ × Binary64)} {last now : ℤ} {l : Limiter} {key : Binary64}

theorem Tracks.raise (tracks : Tracks I B log last l) {last' : ℤ} (later : last ≤ last') :
    Tracks I B log last' l where
  interval_eq := tracks.interval_eq
  burst_eq := tracks.burst_eq
  ordered := tracks.ordered
  safe := tracks.safe
  upTo h mem := (tracks.upTo h mem).trans later
  bounded := tracks.bounded
  recent_eq now key fromLast := tracks.recent_eq now key (later.trans fromLast)

theorem tracks_create (least : Binary64.le 1 B = true) (last : ℤ) : Tracks I B [] last (create (ofNat I) B) where
  interval_eq := rfl
  burst_eq := rfl
  ordered := List.Pairwise.nil
  safe _ mem := nomatch mem
  upTo _ mem := nomatch mem
  bounded _ _ := countBelow_zero least
  recent_eq _ _ _ _ := rfl

theorem Tracks.safe_window (tracks : Tracks I B log last l) {t : ℤ} (mem : t ∈ window I log now key) :
    t.natAbs + I ≤ 2 ^ 53 := by
  obtain ⟨h, inLog, rfl⟩ := List.mem_map.mp ((window_sublist log).subset mem)
  exact tracks.safe h inLog

theorem recent_of_get? {ts : List ℤ} (interval_eq : l.interval = ofNat I)
    (stored : l.hits.get? key = some (ts.map ofInt)) (safe : ∀ t ∈ ts, t.natAbs + I ≤ 2 ^ 53)
    (safeNow : now.natAbs + I ≤ 2 ^ 53) :
    l.recent (ofInt now) key = (ts.filter fun t => decide (now - I < t)).map ofInt := by
  unfold recent
  rw [stored, Option.getD_some, interval_eq, ← Binary64.ofInt_natCast,
    Binary64.ofInt_sub_ofInt (by omega) (by omega) (by omega), List.filter_map]
  congr 1
  apply List.filter_congr
  intro t mem
  have small := safe t mem
  rw [Function.comp_apply, Binary64.lt_ofInt_ofInt (by omega) (by omega)]

theorem Tracks.store (tracks : Tracks I B log last l) (later : last ≤ now)
    (safeNow : now.natAbs + I ≤ 2 ^ 53) {log' : List (ℤ × Binary64)}
    (grown : log' = log ∨ log' = log ++ [(now, key)])
    (bounded : ∀ t key', CountBelow ((window I log' t key').length - 1) B) :
    Tracks I B log' now { l with hits := l.hits.set key ((window I log' now key).map ofInt) } := by
  have upTo : ∀ h ∈ log', h.1 ≤ now := by
    rcases grown with rfl | rfl
    · exact fun h mem => (tracks.upTo h mem).trans later
    · intro h mem
      rcases List.mem_append.mp mem with old | new
      · exact (tracks.upTo h old).trans later
      · rw [List.mem_singleton.mp new]
  have safe : ∀ h ∈ log', h.1.natAbs + I ≤ 2 ^ 53 := by
    rcases grown with rfl | rfl
    · exact tracks.safe
    · intro h mem
      rcases List.mem_append.mp mem with old | new
      · exact tracks.safe h old
      · rw [List.mem_singleton.mp new]
        exact safeNow
  -- the other keys keep their windows
  have other : ∀ key', Binary64.sameValueZero key' key = false → ∀ t, window I log' t key' = window I log t key' := by
    intro key' apart t
    rcases grown with rfl | rfl
    · rfl
    · rw [window_append, window_singleton, if_neg (by simp [Binary64.sameValueZero_comm key, apart]),
        List.append_nil]
  refine ⟨tracks.interval_eq, tracks.burst_eq, ?_, safe, upTo, bounded, ?_⟩
  · rcases grown with rfl | rfl
    · exact tracks.ordered
    · rw [List.map_append, List.pairwise_append]
      refine ⟨tracks.ordered, List.pairwise_singleton _ _, fun a mem b memb => ?_⟩
      obtain ⟨h, inLog, rfl⟩ := List.mem_map.mp mem
      rw [List.map_singleton, List.mem_singleton] at memb
      rw [memb]
      exact (tracks.upTo h inLog).trans later
  · intro now' key' fromNow safe'
    by_cases same : Binary64.sameValueZero key' key = true
    · -- the key hit now reads back the window it was given, less what has left it since
      have stored : ({ l with hits := l.hits.set key ((window I log' now key).map ofInt) } : Limiter).hits.get? key =
          some ((window I log' now key).map ofInt) := KeyMap.get?_set_self _ _ _
      have safeWindow : ∀ t ∈ window I log' now key, t.natAbs + I ≤ 2 ^ 53 := by
        intro t mem
        obtain ⟨h, inLog, rfl⟩ := List.mem_map.mp ((window_sublist log').subset mem)
        exact safe h inLog
      rw [recent_congr _ same, window_congr _ same, recent_of_get? (l := { l with hits := l.hits.set key ((window I log' now key).map ofInt) })
          tracks.interval_eq stored safeWindow safe',
        window_later upTo fromNow]
    · have apart : Binary64.sameValueZero key' key = false := by simpa using same
      rw [recent_set_of_other _ apart, tracks.recent_eq now' key' (later.trans fromNow) safe', other key' apart]

theorem Tracks.hit_allowed (tracks : Tracks I B log last l) (limits : Limits I B) (later : last ≤ now)
    (safeNow : now.natAbs + I ≤ 2 ^ 53) (below : CountBelow (window I log now key).length B) :
    l.hit (ofInt now) key =
      (.allowed, { l with hits := l.hits.set key ((window I (log ++ [(now, key)]) now key).map ofInt) }) := by
  have recent := tracks.recent_eq now key later safeNow
  have grown : window I (log ++ [(now, key)]) now key = window I log now key ++ [now] := by
    rw [window_append, window_singleton,
      if_pos ⟨Binary64.sameValueZero_self key, by have := limits.positive; omega, le_rfl⟩]
  rw [grown, List.map_append, List.map_singleton, ← recent]
  cases w : window I log now key with
  | nil =>
    rw [w, List.map_nil] at recent
    exact hit_of_recent_nil recent
  | cons e rest =>
    rw [w] at recent below
    -- the count is below `2^53`, so binary64 compares it exactly
    have small := lt_of_countBelow limits.most (tracks.bounded now key)
    rw [w] at small
    have fewer := (countBelow_iff (by simp at small ⊢; omega) (isNaN_of_atLeast limits.least)).mp below
    have notFull : Binary64.le l.burst (ofNat (l.recent (ofInt now) key).length) = false := by
      rw [recent, List.length_map, tracks.burst_eq,
        Binary64.le_eq_not_lt (isNaN_of_atLeast limits.least) (isNaN_ofNat _), fewer]
      rfl
    rw [hit_of_recent_cons recent, notFull, if_neg Bool.false_ne_true]

theorem Tracks.hit_denied (tracks : Tracks I B log last l) (limits : Limits I B) (later : last ≤ now)
    (safeNow : now.natAbs + I ≤ 2 ^ 53) (full : ¬CountBelow (window I log now key).length B) :
    ∃ e rest, window I log now key = e :: rest ∧
      l.hit (ofInt now) key =
        (.denied (ofInt (e + I - now)), { l with hits := l.hits.set key ((window I log now key).map ofInt) }) := by
  have recent := tracks.recent_eq now key later safeNow
  cases w : window I log now key with
  | nil =>
    rw [w] at full
    exact absurd (countBelow_zero limits.least) full
  | cons e rest =>
    refine ⟨e, rest, rfl, ?_⟩
    have inside := mem_window (w ▸ List.mem_cons_self : e ∈ window I log now key)
    have safeE := tracks.safe_window (w ▸ List.mem_cons_self : e ∈ window I log now key)
    have small := lt_of_countBelow limits.most (tracks.bounded now key)
    rw [w] at recent full small
    have atBurst : Binary64.lt (ofNat (e :: rest).length) B = false := by
      rw [← Bool.not_eq_true, ← countBelow_iff (by simp at small ⊢; omega) (isNaN_of_atLeast limits.least)]
      exact full
    have isFull : Binary64.le l.burst (ofNat (l.recent (ofInt now) key).length) = true := by
      rw [recent, List.length_map, tracks.burst_eq,
        Binary64.le_eq_not_lt (isNaN_of_atLeast limits.least) (isNaN_ofNat _), atBurst]
      rfl
    -- the wait is exact: every reading in it is within the safe integers
    rw [hit_of_recent_cons recent, isFull, if_pos rfl, recent, tracks.interval_eq, ← Binary64.ofInt_natCast,
      Binary64.ofInt_add_ofInt (by omega) (by omega) (by omega),
      Binary64.ofInt_sub_ofInt (by omega) (by omega) (by omega)]

theorem Tracks.hit_allowed_iff (tracks : Tracks I B log last l) (limits : Limits I B) (later : last ≤ now)
    (safeNow : now.natAbs + I ≤ 2 ^ 53) :
    (l.hit (ofInt now) key).1 = .allowed ↔ CountBelow (window I log now key).length B := by
  by_cases below : CountBelow (window I log now key).length B
  · rw [tracks.hit_allowed limits later safeNow below]
    simp [below]
  · obtain ⟨e, rest, -, denied⟩ := tracks.hit_denied limits later safeNow below
    rw [denied]
    simp [below]

theorem Tracks.bounded_append (tracks : Tracks I B log last l) (later : last ≤ now)
    (below : CountBelow (window I log now key).length B) :
    ∀ t key', CountBelow ((window I (log ++ [(now, key)]) t key').length - 1) B := by
  intro t key'
  rw [window_append, window_singleton]
  split_ifs with inside
  · obtain ⟨same, -, ends⟩ := inside
    rw [List.length_append, List.length_singleton, Nat.add_sub_cancel]
    exact below.mono (window_sublist_window (fun h mem => (tracks.upTo h mem).trans later) same ends).length_le
  · rw [List.append_nil]
    exact tracks.bounded t key'

theorem Tracks.offer (tracks : Tracks I B log last l) (limits : Limits I B) {h : ℤ × Binary64}
    (later : last ≤ h.1) (safeH : h.1.natAbs + I ≤ 2 ^ 53) :
    ∃ extra, extra.Sublist [h] ∧ (Limiter.offer (log, l) h).1 = log ++ extra ∧
      Tracks I B (Limiter.offer (log, l) h).1 h.1 (Limiter.offer (log, l) h).2 := by
  obtain ⟨now, key⟩ := h
  unfold Limiter.offer
  by_cases below : CountBelow (window I log now key).length B
  · rw [tracks.hit_allowed limits later safeH below]
    exact ⟨[(now, key)], List.Sublist.refl _, rfl,
      tracks.store later safeH (.inr rfl) (tracks.bounded_append later below)⟩
  · obtain ⟨e, rest, -, denied⟩ := tracks.hit_denied limits later safeH below
    rw [denied]
    exact ⟨[], List.nil_sublist _, (List.append_nil log).symm, tracks.store later safeH (.inl rfl) tracks.bounded⟩

theorem Tracks.feed (tracks : Tracks I B log last l) (limits : Limits I B) {hits : List (ℤ × Binary64)}
    (clocked : Clocked I hits) (after : ∀ h ∈ hits, last ≤ h.1) :
    ∃ added, added.Sublist hits ∧ (Limiter.feed (log, l) hits).1 = log ++ added ∧
      ∀ t, last ≤ t → (∀ h ∈ hits, h.1 ≤ t) → Tracks I B (Limiter.feed (log, l) hits).1 t (Limiter.feed (log, l) hits).2 := by
  induction hits generalizing log last l with
  | nil => exact ⟨[], List.Sublist.slnil, (List.append_nil log).symm, fun t later _ => tracks.raise later⟩
  | cons h rest ih =>
    obtain ⟨extra, sub, grown, tracks'⟩ :=
      tracks.offer limits (after h List.mem_cons_self) (clocked.safe h List.mem_cons_self)
    obtain ⟨added, sub', grown', tracks''⟩ := ih tracks' clocked.tail clocked.head_le
    refine ⟨extra ++ added, sub.append sub', ?_, fun t _ upTo => ?_⟩
    · show (Limiter.feed (Limiter.offer (log, l) h) rest).1 = _
      rw [grown', grown, List.append_assoc]
    · exact tracks'' t (upTo h List.mem_cons_self) fun x mem => upTo x (List.mem_cons_of_mem h mem)

end Tracks

theorem countBelow_after_wait {I : ℕ} {B : Binary64} {e : ℤ} {rest : List ℤ} (sorted : (e :: rest).Pairwise (· ≤ ·))
    (bounded : CountBelow ((e :: rest).length - 1) B) (full : ¬CountBelow (e :: rest).length B) (t : ℤ) :
    CountBelow ((e :: rest).filter fun x => decide (t - I < x)).length B ↔ e + I ≤ t := by
  by_cases gone : e + I ≤ t
  · -- the earliest hit has left the window
    simp only [gone, iff_true]
    refine bounded.mono ?_
    rw [List.filter_cons, if_neg (by simp; omega), List.length_cons, Nat.add_sub_cancel]
    exact List.length_filter_le _ _
  · -- every hit is still inside
    simp only [gone, iff_false]
    rw [List.filter_eq_self.mpr]
    · exact full
    · intro x mem
      have earliest : e ≤ x := by
        rcases List.mem_cons.mp mem with rfl | later
        · exact le_rfl
        · exact List.rel_of_pairwise_cons sorted later
      simp only [decide_eq_true_eq]
      omega

/-- From a fresh limiter, after hits `before` at whole readings that never go back and stay
within the safe integers, a hit at `now` on `k` is let through exactly when fewer than `burst`
of the hits let through on `k` lie in its window `(now - interval, now]`; every window holds
fewer than `burst + 1` of them on any key; and a refused hit answers `e + interval - now > 0`,
where `e` is the earliest hit of its window, and the next hit on `k`, after any hits on other
keys, is let through exactly when it comes at or after `e + interval`. -/
theorem keeps_window {I : ℕ} {B : Binary64} (limits : Limits I B) {before : List (ℤ × Binary64)} {now : ℤ}
    {k : Binary64} (clocked : Clocked I (before ++ [(now, k)])) :
    let run := feed ([], create (ofNat I) B) before
    let w := window I run.1 now k
    ((run.2.hit (ofInt now) k).1 = .allowed ↔ CountBelow w.length B) ∧
    (∀ t key, CountBelow ((window I run.1 t key).length - 1) B) ∧
    ∀ r, (run.2.hit (ofInt now) k).1 = .denied r →
      ∃ e ∈ w, (∀ x ∈ w, e ≤ x) ∧ r = ofInt (e + I - now) ∧ 0 < e + I - now ∧
        ∀ between t', Clocked I ((now, k) :: between ++ [(t', k)]) →
          (∀ h ∈ between, Binary64.sameValueZero h.2 k = false) →
          (((feed (run.1, (run.2.hit (ofInt now) k).2) between).2.hit (ofInt t') k).1 = .allowed ↔
            e + I ≤ t') := by
  intro run w
  have safeNow : now.natAbs + I ≤ 2 ^ 53 := clocked.safe (now, k) (by simp)
  have upToNow : ∀ h ∈ before, h.1 ≤ now := fun h mem =>
    List.rel_of_pairwise_cons (List.pairwise_reverse.mp (by simpa using clocked.ordered))
      (List.mem_reverse.mpr (List.mem_map_of_mem mem))
  -- the run so far keeps the invariant up to `now`
  have clockedBefore : Clocked I before :=
    ⟨(List.pairwise_append.mp (by simpa using clocked.ordered)).1,
      fun h mem => clocked.safe h (List.mem_append_left _ mem)⟩
  obtain ⟨-, -, -, tracksRun⟩ := (tracks_create (I := I) limits.least (-(2 ^ 53))).feed limits clockedBefore
    (fun h mem => by have := clockedBefore.safe h mem; omega)
  have tracks : Tracks I B run.1 now run.2 := tracksRun now (by omega) upToNow
  refine ⟨tracks.hit_allowed_iff limits le_rfl safeNow, tracks.bounded, fun r denied => ?_⟩
  have full : ¬CountBelow w.length B := fun below => by
    rw [(tracks.hit_allowed_iff limits le_rfl safeNow).mpr below] at denied
    cases denied
  obtain ⟨e, rest, split, refused⟩ := tracks.hit_denied limits le_rfl safeNow full
  replace split : w = e :: rest := split
  rw [refused] at denied ⊢
  have sorted : (e :: rest).Pairwise (· ≤ ·) := split ▸ tracks.ordered.sublist (window_sublist run.1)
  have inside := mem_window (split ▸ List.mem_cons_self : e ∈ w)
  refine ⟨e, split ▸ List.mem_cons_self, fun x mem => ?_, (RateDecision.denied.inj denied).symm, by omega,
    fun between t' clockedAfter other => ?_⟩
  · rw [split] at mem
    rcases List.mem_cons.mp mem with rfl | later
    · exact le_rfl
    · exact List.rel_of_pairwise_cons sorted later
  · -- after the refusal the key keeps its window, and the hits between add nothing on it
    have stored : Tracks I B run.1 now { run.2 with hits := run.2.hits.set k ((window I run.1 now k).map ofInt) } :=
      tracks.store le_rfl safeNow (.inl rfl) tracks.bounded
    have clockedBetween : Clocked I (between ++ [(t', k)]) := clockedAfter.tail
    obtain ⟨added, sub, grown, tracksBetween⟩ := stored.feed limits
      ⟨(List.pairwise_append.mp (by simpa using clockedBetween.ordered)).1,
        fun h mem => clockedBetween.safe h (List.mem_append_left _ mem)⟩
      (fun h mem => clockedAfter.head_le h (List.mem_append_left _ mem))
    have safeLast : t'.natAbs + I ≤ 2 ^ 53 := clockedAfter.safe (t', k) (by simp)
    have afterNow : now ≤ t' := clockedAfter.head_le (t', k) (by simp)
    have upToLast : ∀ h ∈ between, h.1 ≤ t' := fun h mem =>
      List.rel_of_pairwise_cons (List.pairwise_reverse.mp (by simpa using clockedBetween.ordered))
        (List.mem_reverse.mpr (List.mem_map_of_mem mem))
    have final := tracksBetween t' afterNow upToLast
    rw [final.hit_allowed_iff limits le_rfl safeLast, grown, window_append,
      window_of_other (fun h mem => other h (sub.subset mem)), List.append_nil,
      window_later tracks.upTo afterNow]
    show CountBelow (w.filter _).length B ↔ _
    rw [split] at full ⊢
    exact countBelow_after_wait sorted (split ▸ tracks.bounded now k) full t'

/-- Two hits a second apart of a burst of two, then a third at `700`: the window `(-300, 700]`
holds both earlier ones. -/
theorem keeps_window_burst_two :
    Limits 1000 2 ∧ Clocked 1000 ([(0, 1), (400, 1)] ++ [(700, 1)]) ∧
      let run := feed ([], create (ofNat 1000) 2) [(0, 1), (400, 1)]
      let w := window 1000 run.1 700 1
      ((run.2.hit (ofInt 700) 1).1 = .allowed ↔ CountBelow w.length 2) ∧
      (∀ t key, CountBelow ((window 1000 run.1 t key).length - 1) 2) ∧
      ∀ r, (run.2.hit (ofInt 700) 1).1 = .denied r →
        ∃ e ∈ w, (∀ x ∈ w, e ≤ x) ∧ r = ofInt (e + (1000 : ℕ) - 700) ∧ 0 < e + (1000 : ℕ) - 700 ∧
          ∀ between t', Clocked 1000 ((700, 1) :: between ++ [(t', 1)]) →
            (∀ h ∈ between, Binary64.sameValueZero h.2 1 = false) →
            (((feed (run.1, (run.2.hit (ofInt 700) 1).2) between).2.hit (ofInt t') 1).1 = .allowed ↔
              e + (1000 : ℕ) ≤ t') := by
  have limits : Limits 1000 2 := ⟨by decide, by decide +kernel, by decide +kernel⟩
  have clocked : Clocked 1000 ([(0, 1), (400, 1)] ++ [(700, 1)]) := ⟨by decide, by decide⟩
  exact ⟨limits, clocked, keeps_window limits clocked⟩

/-- Far out on the clock, at `2^60`, the window of one millisecond starts at the reading itself,
so a burst of one lets a second hit at the same instant through; and a burst of `1.5` lets two
hits into one window. -/
theorem window_overruns :
    ((create 1 1).hit (ofInt (2 ^ 60)) 1).1 = .allowed ∧
      (((create 1 1).hit (ofInt (2 ^ 60)) 1).2.hit (ofInt (2 ^ 60)) 1).1 = .allowed ∧
    ((create 1000 (Binary64.ofRat false 3 2)).hit 0 1).1 = .allowed ∧
      (((create 1000 (Binary64.ofRat false 3 2)).hit 0 1).2.hit 0 1).1 = .allowed := by
  decide +kernel

end Limiter

end Bot

end GuildRegistry
