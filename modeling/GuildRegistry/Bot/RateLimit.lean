import GuildRegistry.Ledger.KeyMap

/-! A sliding-window rate limiter.

Each key may have at most `burst` hits within any span of `interval` milliseconds. Only hits
strictly inside the window ending now count. A refused hit is not recorded, so a key recovers as
soon as its oldest counted hit leaves the window, which is when the refusal says to retry. A key
with no hit at all is always let through, whatever the burst.
-/

set_option autoImplicit false

namespace GuildRegistry.Bot

/-- Whether a hit is let through, and if not, how long until one would be. -/
inductive RateDecision where
  | allowed
  | denied (retryAfterMs : Binary64)
  deriving DecidableEq, Repr, Inhabited

/-- The limits and the hits recorded per key, oldest first. -/
structure Limiter where
  interval : Binary64
  burst : Binary64
  hits : KeyMap (List Binary64)
  deriving Repr, Inhabited

namespace Limiter

def create (interval burst : Binary64) : Limiter := ⟨interval, burst, KeyMap.empty⟩

/-- The hits of a key still inside the window ending at `now`. -/
def recent (l : Limiter) (now key : Binary64) : List Binary64 :=
  ((l.hits.get? key).getD []).filter (Binary64.lt (now - l.interval) ·)

/-- Counts a hit of a key at `now`, unless the key is at its limit. -/
def hit (l : Limiter) (now key : Binary64) : RateDecision × Limiter :=
  let recent := l.recent now key
  match recent with
  | oldest :: _ =>
    if Binary64.le l.burst (Binary64.ofNat recent.length) then
      (.denied (oldest + l.interval - now), { l with hits := l.hits.set key recent })
    else (.allowed, { l with hits := l.hits.set key (recent ++ [now]) })
  | [] => (.allowed, { l with hits := l.hits.set key [now] })

/-- Forgets the keys with no hit inside the window ending at `now`. -/
def prune (l : Limiter) (now : Binary64) : Limiter :=
  { l with hits := ⟨l.hits.entries.filter fun (_, times) => times.any (Binary64.lt (now - l.interval) ·)⟩ }

end Limiter

end GuildRegistry.Bot
