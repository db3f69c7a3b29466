import GuildRegistry.Proofs.Store.StatusGraph

/-! Admin profiles.

Adding an admin merges the details given into the profile known for them: a username is trimmed,
loses one leading `@` and is trimmed again, a full name is trimmed, and a detail that is blank after
that keeps the one known (`Registry.profile_addAdmin`). Removing an admin drops the profile
(`Registry.profile_removeAdmin`).
-/

set_option autoImplicit false

namespace GuildRegistry

namespace Binary64

theorem eq_eq_sameValueZero (a b : Binary64) : eq a b = (sameValueZero a b && !a.isNaN) := by
  cases a <;> simp [sameValueZero, isNaN, eq, compare?]

theorem sameValueZero_of_eq {a b : Binary64} (equal : eq a b = true) : sameValueZero a b = true := by
  rw [eq_eq_sameValueZero, Bool.and_eq_true] at equal
  exact equal.1

theorem isNaN_of_eq {a b : Binary64} (equal : eq a b = true) : a.isNaN = false := by
  rw [eq_eq_sameValueZero, Bool.and_eq_true, Bool.not_eq_true'] at equal
  exact equal.2

theorem sameValueZero_eq_eq {a b : Binary64} (number : a.isNaN = false) : sameValueZero a b = eq a b := by
  rw [eq_eq_sameValueZero, number, Bool.not_false, Bool.and_true]

theorem isNaN_eq_of_sameValueZero {a b : Binary64} (same : sameValueZero a b = true) : a.isNaN = b.isNaN := by
  rw [sameValueZero_iff] at same
  cases a <;> cases b <;> simp_all [isNaN]

theorem sameValueZero_congr_left {a b : Binary64} (same : sameValueZero a b = true) (c : Binary64) :
    sameValueZero a c = sameValueZero b c := by
  rw [sameValueZero_iff] at same
  rw [sameValueZero_eq_decide, sameValueZero_eq_decide, same]

theorem eq_congr_left {a b : Binary64} (same : sameValueZero a b = true) (c : Binary64) : eq a c = eq b c := by
  rw [eq_eq_sameValueZero, eq_eq_sameValueZero, sameValueZero_congr_left same, isNaN_eq_of_sameValueZero same]

theorem eq_comm (a b : Binary64) : eq a b = eq b a := by
  rw [eq_eq_sameValueZero, eq_eq_sameValueZero, sameValueZero_comm]
  cases same : sameValueZero b a
  · rfl
  · rw [isNaN_eq_of_sameValueZero same]

theorem eq_self_of_number {a : Binary64} (number : a.isNaN = false) : eq a a = true := by
  rw [eq_eq_sameValueZero, sameValueZero_self, number]
  rfl

end Binary64

namespace KeyMap

variable {α : Type}

theorem get?_erase (m : KeyMap α) (k k' : Binary64) :
    (m.erase k).get? k' = if Binary64.sameValueZero k' k then none else m.get? k' := by
  unfold erase get?
  rw [List.find?_filter]
  split
  · rename_i same
    -- every entry of `k'` is an entry of `k`, and those are gone
    rw [List.find?_eq_none.mpr]
    · rfl
    · intro e _ kept
      simp only [Bool.not_eq_true', decide_eq_true_eq] at kept
      have gone := Binary64.sameValueZero_trans kept.2 same
      rw [kept.1] at gone
      exact Bool.false_ne_true gone
  · rename_i other
    congr 2
    funext e
    by_cases atK' : Binary64.sameValueZero e.1 k' = true
    · have apart : Binary64.sameValueZero e.1 k = false := by
        cases atK : Binary64.sameValueZero e.1 k
        · rfl
        · rw [Binary64.sameValueZero_comm] at atK'
          exact absurd (Binary64.sameValueZero_trans atK' atK) other
      simp [atK', apart]
    · simp [atK']

end KeyMap

/-! ### What a call gives -/

namespace ProfileUpdate

/-- The username an update gives: trimmed, without one leading `@`, trimmed again, and none when
that leaves it blank. -/
def givenUsername (p : ProfileUpdate) : Option String := Text.clean (p.username.map bareUsername)

/-- The full name an update gives: trimmed, and none when that leaves it blank. -/
def givenFullName (p : ProfileUpdate) : Option String := Text.clean p.fullName

end ProfileUpdate

namespace AdminProfile

/-- A profile with the details an update gives put over the ones it has. -/
def merge (current : AdminProfile) (p : ProfileUpdate) : AdminProfile :=
  ⟨p.givenUsername.or current.username, p.givenFullName.or current.fullName⟩

theorem merge_merge (current : AdminProfile) (p : ProfileUpdate) : (current.merge p).merge p = current.merge p := by
  unfold merge
  cases p.givenUsername <;> cases p.givenFullName <;> rfl

end AdminProfile

/-- A call on the admin list: an addition with profile details, or a removal. -/
inductive AdminCall where
  | add (u : Binary64) (p : ProfileUpdate)
  | remove (u : Binary64)
  deriving DecidableEq, Repr

namespace AdminCall

/-- The user a call names. -/
def user : AdminCall → Binary64
  | .add u _ => u
  | .remove u => u

/-- Whether a call removes `u`: a removal of a number equal to `u`, so never of NaN. -/
def removes (u : Binary64) : AdminCall → Bool
  | .add .. => false
  | .remove v => Binary64.eq v u

/-- Whether a call adds `u`. -/
def adds (u : Binary64) : AdminCall → Bool
  | .add v _ => Binary64.sameValueZero v u
  | .remove _ => false

/-- The detail, read from its update by `detail`, that a call gives for `u`. -/
def gives (detail : ProfileUpdate → Option String) (u : Binary64) : AdminCall → Option String
  | .add v p => if Binary64.sameValueZero v u then detail p else none
  | .remove _ => none

/-- The call made on a store. -/
def run (f : SnapshotFile) : AdminCall → StoreM Bool
  | .add u p => Store.addAdmin f u p
  | .remove u => Store.removeAdmin f u

theorem gives_of_not_adds {detail : ProfileUpdate → Option String} {u : Binary64} {c : AdminCall}
    (other : c.adds u = false) : c.gives detail u = none := by
  cases c with
  | add v p => simp only [adds] at other; simp [gives, other]
  | remove v => rfl

end AdminCall

/-! ### The profile the calls leave -/

/-- The calls made since `u` was last removed, or all of them if `u` never was. -/
def sinceRemoval (u : Binary64) (calls : List AdminCall) : List AdminCall :=
  (calls.reverse.takeWhile fun c => !c.removes u).reverse

/-- The last detail, read by `detail`, given for `u` by the calls since `u` was last removed. -/
def lastGiven (detail : ProfileUpdate → Option String) (u : Binary64) (calls : List AdminCall) : Option String :=
  ((sinceRemoval u calls).filterMap (AdminCall.gives detail u)).getLast?

/-- Whether the calls leave `u` an admin: `u` was added since it was last removed. -/
def addedSince (calls : List AdminCall) (u : Binary64) : Bool :=
  (sinceRemoval u calls).any (AdminCall.adds u)

/-- The profile the calls leave for `u`: for each detail, the last one given since `u` was last
removed, none when there is none. -/
def profileOf (calls : List AdminCall) (u : Binary64) : AdminProfile :=
  ⟨lastGiven ProfileUpdate.givenUsername u calls, lastGiven ProfileUpdate.givenFullName u calls⟩

section Spec

variable (u : Binary64) (calls : List AdminCall)

theorem sinceRemoval_append (c : AdminCall) :
    sinceRemoval u (calls ++ [c]) = if c.removes u then [] else sinceRemoval u calls ++ [c] := by
  unfold sinceRemoval
  rw [List.reverse_append, List.reverse_singleton, List.singleton_append, List.takeWhile_cons]
  cases c.removes u <;> simp

theorem lastGiven_append_add (detail : ProfileUpdate → Option String) (v : Binary64) (p : ProfileUpdate) :
    lastGiven detail u (calls ++ [.add v p]) =
      if Binary64.sameValueZero v u then (detail p).or (lastGiven detail u calls) else lastGiven detail u calls := by
  unfold lastGiven
  rw [sinceRemoval_append, if_neg (by simp [AdminCall.removes]), List.filterMap_append, List.getLast?_append]
  by_cases same : Binary64.sameValueZero v u = true
  · simp [AdminCall.gives, same]
  · simp [AdminCall.gives, same]

theorem lastGiven_append_remove (detail : ProfileUpdate → Option String) (v : Binary64) :
    lastGiven detail u (calls ++ [.remove v]) = if Binary64.eq v u then none else lastGiven detail u calls := by
  unfold lastGiven
  rw [sinceRemoval_append]
  by_cases equal : Binary64.eq v u = true
  · simp [AdminCall.removes, equal]
  · simp [AdminCall.removes, equal, AdminCall.gives]

theorem addedSince_append_add (v : Binary64) (p : ProfileUpdate) :
    addedSince (calls ++ [.add v p]) u = (addedSince calls u || Binary64.sameValueZero v u) := by
  unfold addedSince
  rw [sinceRemoval_append, if_neg (by simp [AdminCall.removes]), List.any_append]
  simp [AdminCall.adds]

theorem addedSince_append_remove (v : Binary64) :
    addedSince (calls ++ [.remove v]) u = (addedSince calls u && !Binary64.eq v u) := by
  unfold addedSince
  rw [sinceRemoval_append]
  by_cases equal : Binary64.eq v u = true
  · simp [AdminCall.removes, equal]
  · simp [AdminCall.removes, equal, AdminCall.adds]

theorem profileOf_append_add (v : Binary64) (p : ProfileUpdate) :
    profileOf (calls ++ [.add v p]) u =
      if Binary64.sameValueZero v u then (profileOf calls u).merge p else profileOf calls u := by
  unfold profileOf
  rw [lastGiven_append_add, lastGiven_append_add]
  split <;> rfl

theorem profileOf_append_remove (v : Binary64) :
    profileOf (calls ++ [.remove v]) u = if Binary64.eq v u then .blank else profileOf calls u := by
  unfold profileOf
  rw [lastGiven_append_remove, lastGiven_append_remove]
  split <;> rfl

theorem profileOf_of_not_added (absent : addedSince calls u = false) : profileOf calls u = .blank := by
  -- none of the calls since the last removal adds the user, so none gives a detail
  have none : ∀ detail, (sinceRemoval u calls).filterMap (AdminCall.gives detail u) = [] := by
    intro detail
    rw [List.filterMap_eq_nil_iff]
    intro c mem
    have other : c.adds u = false := by simpa using List.any_eq_false.mp absent c mem
    exact AdminCall.gives_of_not_adds other
  simp only [profileOf, lastGiven, none, List.getLast?_nil]
  rfl

end Spec

/-! ### One addition, one removal -/

namespace Ledger

/-- The profile an admin record shows for `u`: the one kept, or a blank one. -/
def profile (l : Ledger) (u : Binary64) : AdminProfile := (l.profiles.get? u).getD .blank

theorem adminDetails_eq (l : Ledger) : l.adminDetails = l.admins.map fun u => ⟨u, l.profile u⟩ := rfl

theorem profile_congr (l : Ledger) {a b : Binary64} (same : Binary64.sameValueZero a b = true) :
    l.profile a = l.profile b := by
  rw [profile, profile, l.profiles.get?_congr same]

end Ledger

namespace Registry

variable (r : Registry) (u : Binary64)

section AddAdmin

variable (p : ProfileUpdate)

theorem addAdmin_admins :
    (r.addAdmin u p).after.ledger.admins = if r.ledger.isAdmin u then r.ledger.admins else r.ledger.admins ++ [u] := by
  show (if (!r.ledger.isAdmin u) = true then _ else _) = _
  cases r.ledger.isAdmin u <;> rfl

theorem addAdmin_profiles :
    (r.addAdmin u p).after.ledger.profiles =
      if (r.ledger.profile u).merge p = r.ledger.profile u then r.ledger.profiles
      else r.ledger.profiles.set u ((r.ledger.profile u).merge p) := by
  show (if ((r.ledger.profile u).merge p != r.ledger.profile u) = true then _ else _) = _
  by_cases same : (r.ledger.profile u).merge p = r.ledger.profile u
  · rw [if_pos same, if_neg (by simp [same])]
  · rw [if_neg same, if_pos (by simpa using same)]
    rfl

theorem addAdmin_after :
    (r.addAdmin u p).after =
      { r with ledger := { r.ledger with
        admins := (r.addAdmin u p).after.ledger.admins
        profiles := (r.addAdmin u p).after.ledger.profiles } } := rfl

theorem addAdmin_result :
    (r.addAdmin u p).result = (!r.ledger.isAdmin u || (r.ledger.profile u).merge p != r.ledger.profile u) := rfl

theorem addAdmin_changed : (r.addAdmin u p).changed = (r.addAdmin u p).result := rfl

theorem isAdmin_addAdmin (w : Binary64) :
    (r.addAdmin u p).after.ledger.isAdmin w = (r.ledger.isAdmin w || Binary64.sameValueZero u w) := by
  rw [Ledger.isAdmin, addAdmin_admins]
  cases held : r.ledger.isAdmin u
  · simp [Ledger.isAdmin, List.any_append]
  · by_cases same : Binary64.sameValueZero u w = true
    · -- `w` is the same key as `u`, which is already an admin
      rw [if_pos rfl, same, Bool.or_true, ← Ledger.isAdmin, ← r.ledger.isAdmin_congr same, held]
    · simp [Ledger.isAdmin, same]

theorem profile_addAdmin (w : Binary64) :
    (r.addAdmin u p).after.ledger.profile w =
      if Binary64.sameValueZero u w then (r.ledger.profile u).merge p else r.ledger.profile w := by
  rw [Ledger.profile, addAdmin_profiles]
  by_cases kept : (r.ledger.profile u).merge p = r.ledger.profile u
  · rw [if_pos kept, ← Ledger.profile]
    split
    · rename_i same
      rw [kept, r.ledger.profile_congr same]
    · rfl
  · rw [if_neg kept]
    split
    · rename_i same
      rw [KeyMap.get?_congr _ (by rw [Binary64.sameValueZero_comm]; exact same), KeyMap.get?_set_self]
      rfl
    · rename_i other
      rw [KeyMap.get?_set_of_other _ _ (by rw [Binary64.sameValueZero_comm]; simpa using other)]
      rfl

theorem addAdmin_result_iff :
    (r.addAdmin u p).result = true ↔
      r.ledger.isAdmin u = false ∨
        ((r.addAdmin u p).after.ledger.profile u).username ≠ (r.ledger.profile u).username ∨
        ((r.addAdmin u p).after.ledger.profile u).fullName ≠ (r.ledger.profile u).fullName := by
  rw [addAdmin_result, profile_addAdmin, if_pos (Binary64.sameValueZero_self u)]
  cases r.ledger.isAdmin u
  · simp
  · simp only [Bool.not_true, Bool.false_or, bne_iff_ne, ne_eq, Bool.true_eq_false, false_or]
    cases (r.ledger.profile u).merge p
    cases r.ledger.profile u
    simp only [AdminProfile.mk.injEq]
    tauto

theorem addAdmin_again : (r.addAdmin u p).after.addAdmin u p = ⟨false, (r.addAdmin u p).after, false⟩ := by
  generalize made : (r.addAdmin u p).after = r'
  have admin : r'.ledger.isAdmin u = true := by
    rw [← made, isAdmin_addAdmin, Binary64.sameValueZero_self, Bool.or_true]
  have merged : (r'.ledger.profile u).merge p = r'.ledger.profile u := by
    rw [← made, profile_addAdmin, if_pos (Binary64.sameValueZero_self u), AdminProfile.merge_merge]
  -- neither a new admin nor a new profile: the change answers `false` and keeps the memory
  have result : (r'.addAdmin u p).result = false := by
    rw [addAdmin_result, admin, merged]
    simp
  have after : (r'.addAdmin u p).after = r' := by
    rw [addAdmin_after, addAdmin_admins, addAdmin_profiles, if_pos admin, if_pos merged]
  show (⟨(r'.addAdmin u p).result, (r'.addAdmin u p).after, (r'.addAdmin u p).changed⟩ : Change Bool) = _
  rw [addAdmin_changed, result, after]

end AddAdmin

section RemoveAdmin

theorem removeAdmin_of_found {i : Nat} (found : r.ledger.admins.findIdx? (Binary64.eq · u) = some i) :
    r.removeAdmin u =
      ⟨true, { r with ledger := { r.ledger with
        admins := r.ledger.admins.eraseIdx i
        profiles := r.ledger.profiles.erase u } }, true⟩ := by
  simp only [removeAdmin, found]

theorem removeAdmin_of_not_found (missing : r.ledger.admins.findIdx? (Binary64.eq · u) = none) :
    r.removeAdmin u = r.unchanged false := by
  simp only [removeAdmin, missing]

theorem split_of_found {i : Nat} (found : r.ledger.admins.findIdx? (Binary64.eq · u) = some i) :
    ∃ pre a post, r.ledger.admins = pre ++ a :: post ∧ r.ledger.admins.eraseIdx i = pre ++ post ∧
      Binary64.eq a u = true := by
  obtain ⟨lt, hit, -⟩ := List.findIdx?_eq_some_iff_getElem.mp found
  refine ⟨r.ledger.admins.take i, r.ledger.admins[i], r.ledger.admins.drop (i + 1), ?_,
    List.eraseIdx_eq_take_drop_succ _ _, hit⟩
  rw [List.getElem_cons_drop lt, List.take_append_drop]

theorem isAdmin_of_not_found (missing : r.ledger.admins.findIdx? (Binary64.eq · u) = none) {w : Binary64}
    (equal : Binary64.eq u w = true) : r.ledger.isAdmin w = false := by
  rw [List.findIdx?_eq_none_iff] at missing
  rw [Ledger.isAdmin, List.any_eq_false]
  intro a mem same
  -- an admin that is `w`'s key equals `u`, and the removal would have found it
  have found : Binary64.eq a u = true := by
    rw [Binary64.eq_congr_left same, Binary64.eq_comm]
    exact equal
  rw [missing a mem] at found
  exact Bool.false_ne_true found

theorem isAdmin_removeAdmin (distinct : r.ledger.admins.Pairwise fun a b => Binary64.sameValueZero a b = false)
    (w : Binary64) :
    (r.removeAdmin u).after.ledger.isAdmin w = (r.ledger.isAdmin w && !Binary64.eq u w) := by
  cases found : r.ledger.admins.findIdx? (Binary64.eq · u) with
  | none =>
    rw [removeAdmin_of_not_found r u found]
    show r.ledger.isAdmin w = _
    by_cases equal : Binary64.eq u w = true
    · rw [equal, r.isAdmin_of_not_found u found equal]
      rfl
    · simp [equal]
  | some i =>
    obtain ⟨pre, a, post, split, erased, hit⟩ := r.split_of_found u found
    rw [removeAdmin_of_found r u found]
    show (r.ledger.admins.eraseIdx i).any _ = (r.ledger.admins.any _ && _)
    rw [erased, split]
    rw [split, List.pairwise_append, List.pairwise_cons] at distinct
    obtain ⟨-, ⟨apartAfter, -⟩, apartBefore⟩ := distinct
    -- the admin found is `w`'s key exactly when `u` equals `w`
    have found_w : Binary64.sameValueZero a w = Binary64.eq u w := by
      rw [Binary64.sameValueZero_eq_eq (Binary64.isNaN_of_eq hit),
        Binary64.eq_congr_left (Binary64.sameValueZero_of_eq hit)]
    simp only [List.any_append, List.any_cons, found_w]
    by_cases equal : Binary64.eq u w = true
    · -- no admin before or after the one found is `w`'s key
      rw [← found_w] at equal
      have before : pre.any (Binary64.sameValueZero · w) = false := by
        rw [List.any_eq_false]
        intro x mem same
        have apart := apartBefore x mem a List.mem_cons_self
        rw [Binary64.sameValueZero_congr_left same, Binary64.sameValueZero_comm, equal] at apart
        exact absurd apart.symm Bool.false_ne_true
      have after : post.any (Binary64.sameValueZero · w) = false := by
        rw [List.any_eq_false]
        intro y mem same
        have apart := apartAfter y mem
        rw [Binary64.sameValueZero_comm, Binary64.sameValueZero_congr_left same, Binary64.sameValueZero_comm,
          equal] at apart
        exact absurd apart.symm Bool.false_ne_true
      rw [found_w] at equal
      simp [before, after, equal]
    · simp [equal]

theorem profile_removeAdmin (w : Binary64) :
    (r.removeAdmin u).after.ledger.profile w =
      if Binary64.eq u w && r.ledger.isAdmin w then .blank else r.ledger.profile w := by
  cases found : r.ledger.admins.findIdx? (Binary64.eq · u) with
  | none =>
    rw [removeAdmin_of_not_found r u found]
    show r.ledger.profile w = _
    by_cases equal : Binary64.eq u w = true
    · rw [equal, r.isAdmin_of_not_found u found equal]
      rfl
    · simp [equal]
  | some i =>
    obtain ⟨pre, a, post, split, -, hit⟩ := r.split_of_found u found
    rw [removeAdmin_of_found r u found]
    have toU := Binary64.sameValueZero_of_eq hit
    have number : u.isNaN = false := by
      rw [← Binary64.isNaN_eq_of_sameValueZero toU]
      exact Binary64.isNaN_of_eq hit
    show ((r.ledger.profiles.erase u).get? w).getD _ = _
    rw [KeyMap.get?_erase, Binary64.sameValueZero_comm, Binary64.sameValueZero_eq_eq number]
    by_cases equal : Binary64.eq u w = true
    · -- the user removed was an admin: the admin found is theirs
      have held : r.ledger.isAdmin w = true := List.any_eq_true.mpr
        ⟨a, by rw [split]; exact List.mem_append_right pre List.mem_cons_self,
          Binary64.sameValueZero_trans toU (Binary64.sameValueZero_of_eq equal)⟩
      simp [equal, held]
    · simp [equal, Ledger.profile]

theorem removeAdmin_again (distinct : r.ledger.admins.Pairwise fun a b => Binary64.sameValueZero a b = false) :
    (r.removeAdmin u).after.removeAdmin u = ⟨false, (r.removeAdmin u).after, false⟩ := by
  apply removeAdmin_of_not_found
  rw [List.findIdx?_eq_none_iff]
  intro a mem
  cases equal : Binary64.eq a u
  · rfl
  · -- an admin equal to `u` would keep `u` an admin after its removal
    have still : (r.removeAdmin u).after.ledger.isAdmin u = true :=
      List.any_eq_true.mpr ⟨a, mem, Binary64.sameValueZero_of_eq equal⟩
    have number : u.isNaN = false := by
      rw [← Binary64.isNaN_eq_of_sameValueZero (Binary64.sameValueZero_of_eq equal)]
      exact Binary64.isNaN_of_eq equal
    rw [isAdmin_removeAdmin r u distinct, Binary64.eq_self_of_number number, Bool.not_true, Bool.and_false] at still
    exact absurd still Bool.false_ne_true

end RemoveAdmin

end Registry

/-! ### Runs of admin calls -/

namespace Ledger

/-- A ledger holds what admin calls made: it is consistent, its admins are the users added since
they were last removed, and every user's profile is the one the calls left. -/
structure Follows (l : Ledger) (calls : List AdminCall) : Prop where
  consistent : l.Consistent
  admin : ∀ u, l.isAdmin u = addedSince calls u
  profile : ∀ u, l.profile u = profileOf calls u

theorem follows_empty : empty.Follows [] where
  consistent := consistent_empty
  admin _ := rfl
  profile _ := rfl

variable {l : Ledger} {calls : List AdminCall}

theorem Follows.reload (follows : l.Follows calls) : l.reload.Follows calls where
  consistent := consistent_reload follows.consistent
  admin u := by
    rw [isAdmin, reload_admins follows.consistent]
    exact follows.admin u
  profile u := by
    rw [Ledger.profile, (reload_equiv follows.consistent).profile_eq (consistent_reload follows.consistent) u]
    exact follows.profile u

end Ledger

namespace Registry

variable {r : Registry} {calls : List AdminCall}

theorem Follows.addAdmin (follows : r.ledger.Follows calls) {u : Binary64} (hu : u.Representable)
    (p : ProfileUpdate) : (r.addAdmin u p).after.ledger.Follows (calls ++ [.add u p]) where
  consistent := consistent_addAdmin u p follows.consistent hu
  admin w := by rw [isAdmin_addAdmin, addedSince_append_add, follows.admin w]
  profile w := by
    rw [profile_addAdmin, profileOf_append_add, ← follows.profile w]
    split
    · rename_i same
      rw [r.ledger.profile_congr same]
    · rfl

theorem Follows.removeAdmin (follows : r.ledger.Follows calls) (u : Binary64) :
    (r.removeAdmin u).after.ledger.Follows (calls ++ [.remove u]) where
  consistent := consistent_removeAdmin u follows.consistent
  admin w := by
    rw [isAdmin_removeAdmin r u follows.consistent.admins_distinct, addedSince_append_remove, follows.admin w]
  profile w := by
    rw [profile_removeAdmin, profileOf_append_remove, follows.admin w, ← follows.profile w]
    by_cases equal : Binary64.eq u w = true
    · cases added : addedSince calls w
      · -- a user who was no admin had a blank profile already
        rw [follows.profile w, profileOf_of_not_added w calls added]
        simp
      · simp [equal]
    · simp [equal]

end Registry

namespace Store

variable {f : SnapshotFile} {u : Binary64} {p : ProfileUpdate} {s s' : Store} {b : Bool}

theorem addAdmin_ok (run : addAdmin f u p s = .ok b s') :
    b = (s.registry.addAdmin u p).result ∧ s'.registry = (s.registry.addAdmin u p).after := by
  obtain ⟨c, made, rfl, kept⟩ := mutate_ok run
  cases made
  refine ⟨rfl, ?_⟩
  rcases kept with ⟨-, rfl⟩ | ⟨-, w, -, rfl⟩ <;> rfl

theorem removeAdmin_ok (run : removeAdmin f u s = .ok b s') :
    b = (s.registry.removeAdmin u).result ∧ s'.registry = (s.registry.removeAdmin u).after := by
  obtain ⟨c, made, rfl, kept⟩ := mutate_ok run
  cases made
  refine ⟨rfl, ?_⟩
  rcases kept with ⟨-, rfl⟩ | ⟨-, w, -, rfl⟩ <;> rfl

theorem addAdmin_again (run : addAdmin f u p s = .ok b s') : addAdmin f u p s' = .ok false s' := by
  obtain ⟨-, after⟩ := addAdmin_ok run
  have again : s'.registry.addAdmin u p = ⟨false, s'.registry, false⟩ := by
    rw [after]
    exact s.registry.addAdmin_again u p
  exact mutate_of_unchanged "addAdmin" (c := ⟨false, s'.registry, false⟩) (congrArg Except.ok again) rfl

theorem removeAdmin_again (c : s.registry.ledger.Consistent) (run : removeAdmin f u s = .ok b s') :
    removeAdmin f u s' = .ok false s' := by
  obtain ⟨-, after⟩ := removeAdmin_ok run
  have again : s'.registry.removeAdmin u = ⟨false, s'.registry, false⟩ := by
    rw [after]
    exact s.registry.removeAdmin_again u c.admins_distinct
  exact mutate_of_unchanged "removeAdmin" (c := ⟨false, s'.registry, false⟩) (congrArg Except.ok again) rfl

/-- Admin calls made one after another on a store, each settled before the next: the answer of
each, and the store at the end. -/
def runCalls (f : SnapshotFile) : List AdminCall → Store → List (Except StoreError Bool) × Store
  | [], s => ([], s)
  | c :: rest, s =>
    let first := Session.settle (c.run f) s
    let more := runCalls f rest first.2
    (first.1 :: more.1, more.2)

/-- The calls that returned, in order. -/
def returned (calls : List AdminCall) (answers : List (Except StoreError Bool)) : List AdminCall :=
  (calls.zip answers).filterMap fun p => p.2.toOption.map fun _ => p.1

end Store

namespace Ledger

open Store

variable {f : SnapshotFile} {s : Store}

theorem Follows.settle {calls : List AdminCall} (follows : s.registry.ledger.Follows calls) {c : AdminCall}
    (hc : c.user.Representable) :
    (Session.settle (c.run f) s).2.registry.ledger.Follows
      (calls ++ ((Session.settle (c.run f) s).1.toOption.map fun _ => c).toList) := by
  cases c with
  | add u p =>
    cases run : addAdmin f u p s with
    | ok b s' =>
      obtain ⟨-, after⟩ := addAdmin_ok run
      simp only [AdminCall.run, Session.settle, run, Except.toOption, Option.map_some, Option.toList_some]
      rw [after]
      exact Registry.Follows.addAdmin follows hc p
    | error e s' =>
      simp only [AdminCall.run, Session.settle, run, Except.toOption, Option.map_none, Option.toList_none,
        List.append_nil]
      rw [(mutate_error run).1]
      exact follows.reload
  | remove u =>
    cases run : removeAdmin f u s with
    | ok b s' =>
      obtain ⟨-, after⟩ := removeAdmin_ok run
      simp only [AdminCall.run, Session.settle, run, Except.toOption, Option.map_some, Option.toList_some]
      rw [after]
      exact Registry.Follows.removeAdmin follows u
    | error e s' =>
      simp only [AdminCall.run, Session.settle, run, Except.toOption, Option.map_none, Option.toList_none,
        List.append_nil]
      rw [(mutate_error run).1]
      exact follows.reload

theorem Follows.runCalls {log : List AdminCall} (follows : s.registry.ledger.Follows log) {calls : List AdminCall}
    (ids : ∀ c ∈ calls, c.user.Representable) :
    (runCalls f calls s).2.registry.ledger.Follows (log ++ returned calls (runCalls f calls s).1) := by
  induction calls generalizing s log with
  | nil => simpa [runCalls, returned] using follows
  | cons c rest ih =>
    have first := Follows.settle (f := f) follows (ids c List.mem_cons_self)
    have more := ih first fun c' mem => ids c' (List.mem_cons_of_mem c mem)
    simp only [runCalls, returned, List.zip_cons_cons, List.filterMap_cons] at more ⊢
    cases answer : (Session.settle (c.run f) s).1 with
    | ok b => simpa [answer, Except.toOption] using more
    | error e => simpa [answer, Except.toOption] using more

end Ledger

namespace Store

variable {f : SnapshotFile}

/-- Admin calls from an empty store, any of whose saves may fail: a call that fails counts as not
made. After them every admin's profile holds, for the username and the full name, the last one
given since the admin was last removed that is not blank once cleaned, and none when there is
none; the admins are the users added since they were last removed. The next addition answers
`true` exactly when it makes the user an admin or changes their username or full name, and when
it returns, the same addition made again answers `false` and leaves the store as it is; so does a
removal made twice. -/
theorem admin_calls_merge_profiles (calls : List AdminCall) {s₀ : Store} (fresh : s₀.registry = Registry.empty)
    (ids : ∀ c ∈ calls, c.user.Representable) :
    let s := (runCalls f calls s₀).2
    let made := returned calls (runCalls f calls s₀).1
    (∀ a ∈ s.registry.ledger.adminDetails, a.profile = profileOf made a.userId) ∧
    (∀ u, s.registry.ledger.isAdmin u = addedSince made u) ∧
    (∀ u p b s', addAdmin f u p s = .ok b s' →
      (b = true ↔ s.registry.ledger.isAdmin u = false ∨
        (s'.registry.ledger.profile u).username ≠ (s.registry.ledger.profile u).username ∨
        (s'.registry.ledger.profile u).fullName ≠ (s.registry.ledger.profile u).fullName) ∧
      addAdmin f u p s' = .ok false s') ∧
    (∀ u b s', removeAdmin f u s = .ok b s' → removeAdmin f u s' = .ok false s') := by
  intro s made
  have follows : s.registry.ledger.Follows made := by
    have start : s₀.registry.ledger.Follows [] := by
      rw [fresh]
      exact Ledger.follows_empty
    simpa using start.runCalls ids
  refine ⟨?_, follows.admin, ?_, ?_⟩
  · intro a mem
    rw [Ledger.adminDetails_eq, List.mem_map] at mem
    obtain ⟨u, -, rfl⟩ := mem
    exact follows.profile u
  · intro u p b s' run
    obtain ⟨answer, after⟩ := addAdmin_ok run
    rw [answer, after]
    exact ⟨s.registry.addAdmin_result_iff u p, addAdmin_again run⟩
  · intro u b s' run
    exact removeAdmin_again follows.consistent run

set_option maxRecDepth 20000 in
/-- A keeper added with a username and a full name, then given a blank username, a bare `@` and a
new full name, all on a store with nothing loaded. -/
theorem keeper_calls_merge_profiles :
    let f : SnapshotFile := ⟨"data/storage.enc", ⟨[], []⟩⟩
    let s₀ := Session.start f 0 none none
    let calls := [AdminCall.add 7 ⟨some "@keeper", some "Gate Keeper"⟩, .add 7 ⟨some "", none⟩,
      .add 7 ⟨some "@", none⟩, .add 7 ⟨none, some "Head Keeper"⟩]
    s₀.registry = Registry.empty ∧ (∀ c ∈ calls, c.user.Representable) ∧
      let s := (runCalls f calls s₀).2
      let made := returned calls (runCalls f calls s₀).1
      (∀ a ∈ s.registry.ledger.adminDetails, a.profile = profileOf made a.userId) ∧
      (∀ u, s.registry.ledger.isAdmin u = addedSince made u) ∧
      (∀ u p b s', addAdmin f u p s = .ok b s' →
        (b = true ↔ s.registry.ledger.isAdmin u = false ∨
          (s'.registry.ledger.profile u).username ≠ (s.registry.ledger.profile u).username ∨
          (s'.registry.ledger.profile u).fullName ≠ (s.registry.ledger.profile u).fullName) ∧
        addAdmin f u p s' = .ok false s') ∧
      (∀ u b s', removeAdmin f u s = .ok b s' → removeAdmin f u s' = .ok false s') := by
  intro f s₀ calls
  have ids : ∀ c ∈ calls, c.user.Representable := by
    intro c mem
    simp only [calls, List.mem_cons, List.not_mem_nil, or_false] at mem
    rcases mem with rfl | rfl | rfl | rfl <;> exact Binary64.representable_ofNat 7
  exact ⟨rfl, ids, admin_calls_merge_profiles calls rfl ids⟩

end Store

end GuildRegistry
