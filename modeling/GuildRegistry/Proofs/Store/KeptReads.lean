import GuildRegistry.Proofs.Store.Leaderboard

/-! What a failed call keeps.

A failed change leaves its memory reread from its own document, which may put a map's keys in
another order. Every read whose answer does not depend on that order answers as before: the reads
by key, and the leaderboard, whose ranking is total on tables of numbers.
-/

set_option autoImplicit false

namespace GuildRegistry

namespace Request

/-- The read-only calls whose answers do not depend on the order a map holds its keys: the
reads by key and the leaderboard, as opposed to the pending queue and the statistics. -/
def orderFree : Request → Bool
  | .snapshot | .isAdmin _ | .listAdmins | .adminDetails | .status _ | .getApplication _
  | .hasApplication _ | .isUnderReview _ | .cups .. | .leaderboard .. => true
  | _ => false

end Request

namespace Ledger

variable {l l' : Ledger} {chat : Binary64}

theorem Equiv.standings_perm (c : l.Consistent) (c' : l'.Consistent) (h : l.Equiv l') :
    (l.standings chat).Perm (l'.standings chat) := by
  have found : (l.xp.get? chat).map KeyMap.reread = (l'.xp.get? chat).map KeyMap.reread := by
    rw [← KeyMap.get?_mapValues, ← KeyMap.get?_mapValues]
    exact h.xp.get?_eq (c.xp.mapValues _) chat
  unfold standings
  cases here : l.xp.get? chat with
  | none =>
    rw [here, Option.map_none, eq_comm, Option.map_eq_none_iff] at found
    rw [found]
  | some t =>
    rw [here, Option.map_some, eq_comm, Option.map_eq_some_iff] at found
    obtain ⟨t', there, reread⟩ := found
    rw [there]
    -- both tables are their reread form up to order, and that form is the same
    have valid := c.scores t (Registry.mem_values_of_get? c.xp here)
    have valid' := c'.scores t' (Registry.mem_values_of_get? c'.xp there)
    have perm : t.entries.Perm t'.entries :=
      valid.similar_reread.perm.symm.trans (reread ▸ valid'.similar_reread.perm)
    exact perm.map _

theorem Equiv.leaderboard_eq (c : l.Consistent) (c' : l'.Consistent) (n : l.XpNumbers) (n' : l'.XpNumbers)
    (h : l.Equiv l') (chat limit : Binary64) : l.leaderboard chat limit = l'.leaderboard chat limit := by
  obtain ⟨⟨L, ranks⟩, board⟩ : (∃ L, l.Ranks chat L) ∧
      ∀ L, l.Ranks chat L → l.leaderboard chat limit = allowedBy limit L :=
    leaderboard_ranked c (n.standings c) limit
  have ranks' : l'.Ranks chat L := ⟨ranks.1.trans (h.standings_perm c c'), ranks.2⟩
  rw [board L ranks, (leaderboard_ranked c' (n'.standings c') limit).2 L ranks']

end Ledger

namespace Request

variable {f : SnapshotFile}

theorem orderFree_reads_alike {q : Request} (free : q.orderFree = true) {s s₁ : Store}
    (c : s.registry.ledger.Consistent) (c₁ : s₁.registry.ledger.Consistent)
    (n : s.registry.ledger.XpNumbers) (n₁ : s₁.registry.ledger.XpNumbers)
    (h : Registry.Equiv s.registry s₁.registry) :
    (Session.settle (q.run f) s).1.map Json.render = (Session.settle (q.run f) s₁).1.map Json.render := by
  have same := h.ledger
  -- each read answers from the memory alone, so each case compares two answers
  cases q with
  | snapshot =>
    show Except.ok (Json.render s.registry.ledger.toDocument.toJson) =
      .ok (Json.render s₁.registry.ledger.toDocument.toJson)
    rw [same.render_snapshot c c₁]
  | isAdmin u =>
    show Except.ok (Json.render (.bool (s.registry.ledger.isAdmin u))) =
      .ok (Json.render (.bool (s₁.registry.ledger.isAdmin u)))
    rw [same.isAdmin_eq u]
  | listAdmins =>
    show Except.ok (Json.render (ids s.registry.ledger.admins)) =
      .ok (Json.render (ids s₁.registry.ledger.admins))
    rw [same.admins]
  | adminDetails =>
    show Except.ok (Json.render (.arr (s.registry.ledger.adminDetails.map AdminRecord.toJson))) =
      .ok (Json.render (.arr (s₁.registry.ledger.adminDetails.map AdminRecord.toJson)))
    rw [same.adminDetails_eq c]
  | status u =>
    show Except.ok (Json.render (orNull HistoryEntry.toJson (s.registry.ledger.history.get? u))) =
      .ok (Json.render (orNull HistoryEntry.toJson (s₁.registry.ledger.history.get? u)))
    rw [same.history_eq c u]
  | getApplication u =>
    show Except.ok (Json.render (orNull Application.toJson (s.registry.ledger.applications.get? u))) =
      .ok (Json.render (orNull Application.toJson (s₁.registry.ledger.applications.get? u)))
    -- the stored identifiers may differ in the sign of zero, which prints alike
    rw [← render_orNull_normId, same.application_eq c u, render_orNull_normId]
  | hasApplication u =>
    show Except.ok (Json.render (.bool (s.registry.ledger.applications.contains u))) =
      .ok (Json.render (.bool (s₁.registry.ledger.applications.contains u)))
    rw [same.contains_application c u]
  | isUnderReview u =>
    show Except.ok (Json.render (.bool (s.registry.isUnderReview u))) =
      .ok (Json.render (.bool (s₁.registry.isUnderReview u)))
    rw [Registry.isUnderReview_eq h u]
  | cups chat limit =>
    show Except.ok (Json.render (.arr ((s.registry.ledger.cupHistory chat limit).map Cup.toJson))) =
      .ok (Json.render (.arr ((s₁.registry.ledger.cupHistory chat limit).map Cup.toJson)))
    rw [same.cupHistory_eq c chat limit]
  | leaderboard chat limit =>
    show Except.ok (Json.render (.arr ((s.registry.ledger.leaderboard chat limit).map Standing.toJson))) =
      .ok (Json.render (.arr ((s₁.registry.ledger.leaderboard chat limit).map Standing.toJson)))
    rw [same.leaderboard_eq c c₁ n n₁ chat limit]
  | _ => simp [orderFree] at free

end Request

/-- A change that fails, part-way or in its save, leaves the snapshot file's bytes as they
were, and every read free of map order gives the same text as before. -/
theorem failed_change_keeps_keyed_reads {f : SnapshotFile} {req : Request} (changing : req.changes = true)
    {s s' : Store} {e : StoreError} (c : s.registry.ledger.Consistent) (n : s.registry.ledger.XpNumbers)
    (failed : req.run f s = .error e s') :
    s'.world.disk.read? f.path = s.world.disk.read? f.path ∧
      ∀ q : Request, q.orderFree = true →
        (Session.settle (q.run f) s').1.map Json.render = (Session.settle (q.run f) s).1.map Json.render := by
  obtain ⟨back, kept⟩ := Request.rollsBack_run changing s s' e failed
  refine ⟨kept, fun q free => ?_⟩
  -- the memory is as it was, or reread, which is consistent, holds numbers and answers alike
  have alike : s'.registry.ledger.Consistent ∧ s'.registry.ledger.XpNumbers ∧
      Registry.Equiv s'.registry s.registry := by
    rcases back with same | reread
    · rw [same]
      exact ⟨c, n, .refl _⟩
    · rw [reread]
      exact ⟨Ledger.consistent_reload c, n.reload c, ⟨Ledger.reload_equiv c, rfl⟩⟩
  exact q.orderFree_reads_alike free alike.1 c alike.2.1 n alike.2.2

set_option maxRecDepth 20000 in
/-- A grant to a chat with two users tied at 10 points whose save fails at the rename. -/
theorem failed_grant_keeps_reads :
    let f : SnapshotFile := ⟨"data/storage.enc", ⟨[], []⟩⟩
    let d : Document := { Document.empty with xp := [("7", [("5", 10), ("3", 10)])] }
    let s : Store := ⟨⟨Ledger.ofDocument d, []⟩, ⟨Disk.empty.plant .rename 1 "EIO", []⟩, 0⟩
    let s' := (Session.settle ((Request.addXp 7 3 5).run f) s).2
    (Session.settle ((Request.addXp 7 3 5).run f) s).1.toBool = false ∧
      s'.world.disk.read? f.path = s.world.disk.read? f.path ∧
      ∀ q : Request, q.orderFree = true →
        (Session.settle (q.run f) s').1.map Json.render = (Session.settle (q.run f) s).1.map Json.render := by
  intro f d s s'
  have accepted : Document.check (.obj [("xp", .obj [("7", .obj [("5", .num 10), ("3", .num 10)])])]) = .ok d := by
    rfl
  have refused : (Session.settle ((Request.addXp 7 3 5).run f) s).1.toBool = false := by decide +kernel
  obtain ⟨e, failed⟩ := Session.error_of_settle refused
  exact ⟨refused, failed_change_keeps_keyed_reads rfl (Ledger.consistent_ofDocument d)
    (Ledger.xpNumbers_ofDocument (Document.check_xp accepted)) failed⟩

end GuildRegistry
