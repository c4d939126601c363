/-
# OwnerCache.Sweep -- deleting what has expired

A sweep deletes the ranges whose time to live is over and keeps all identities.
-/
import OwnerCache.Resolver.Event
import OwnerCache.Store.Basic

namespace OwnerCache.Sweep

set_option autoImplicit false

/-- The default time to live: 180 days. -/
def defaultTtl : Duration := .ofSeconds (180 * 24 * 60 * 60)

variable {σ : Type} [RangeStore σ]

/-- One sweep at a time: how many ranges went, what is logged, and the store after it. -/
def run (ttl : Duration) (now : Instant) (s : σ) : Except StoreError Nat × List Event × σ :=
  match RangeStore.deleteExpired ttl now s with
  | (.ok n, s) => (.ok n, [.pruned n], s)
  | (.error e, s) => (.error e, [], s)

/-- A sweep on its own, whose failure is logged and otherwise ignored. -/
def runDetached (ttl : Duration) (now : Instant) (s : σ) : List Event × σ :=
  match run ttl now s with
  | (.ok _, events, s) => (events, s)
  | (.error e, events, s) => (events ++ [.sweepFailed e], s)

end OwnerCache.Sweep
