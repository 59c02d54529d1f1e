import TierSched.Statistics.WaitTally
import TierSched.Tier.Table

/-!
# Counters

What a scheduler counts: dispatches, enqueues, changes of tier, waits and kicks. An occurrence is one
thing worth counting, and `Counters.record` says which counters it advances. Counters are words that
wrap around.
-/

namespace TierSched

/-- Something that the statistics count. -/
inductive Occurrence where
  /-- A task was handed to a unit, directly when it was woken or from a queue. -/
  | dispatch (tier : Tier) (direct : Bool)
  /-- A task was queued, after a genuine wake-up or for another reason. -/
  | enqueue (wakeup : Bool)
  /-- A task that stopped was classified anew. -/
  | reclassification (source target : Tier)
  /-- A task was demoted because it had waited too long. -/
  | waitDemotion
  /-- A task that started had waited in a tier. -/
  | wait (tier : Tier) (duration : Nanos)
  /-- A unit was kicked because its task of a tier exceeded the ceiling. -/
  | starvationKick (tier : Tier)
  /-- A unit was kicked for a waiting task. -/
  | victimKick
  /-- A task could not be tracked. -/
  | fallback
deriving DecidableEq, Repr

/-- The counters of one shard. -/
@[ext]
structure Counters where
  dispatches : UInt64 := 0
  directDispatches : UInt64 := 0
  tierDispatches : Tier.Table UInt64 := .replicate 0
  wakeupEnqueues : UInt64 := 0
  requeueEnqueues : UInt64 := 0
  promotions : UInt64 := 0
  demotions : UInt64 := 0
  waitDemotions : UInt64 := 0
  waits : Tier.Table WaitTally := .replicate .zero
  starvationKicks : Tier.Table UInt64 := .replicate 0
  victimKicks : UInt64 := 0
  fallbacks : UInt64 := 0
deriving DecidableEq, Repr

namespace Counters

/-- The counters before anything was counted. -/
def zero : Counters := {}

/-- The counters after one more occurrence. -/
def record (counters : Counters) : Occurrence → Counters
  | .dispatch tier direct =>
      { counters with
        dispatches := counters.dispatches + 1
        tierDispatches := counters.tierDispatches.modify tier (· + 1)
        directDispatches :=
          if direct then counters.directDispatches + 1 else counters.directDispatches }
  | .enqueue true => { counters with wakeupEnqueues := counters.wakeupEnqueues + 1 }
  | .enqueue false => { counters with requeueEnqueues := counters.requeueEnqueues + 1 }
  | .reclassification source target =>
      if target < source then { counters with promotions := counters.promotions + 1 }
      else if source < target then { counters with demotions := counters.demotions + 1 }
      else counters
  | .waitDemotion =>
      { counters with
        waitDemotions := counters.waitDemotions + 1
        demotions := counters.demotions + 1 }
  | .wait tier duration =>
      { counters with waits := counters.waits.modify tier (·.record duration) }
  | .starvationKick tier =>
      { counters with starvationKicks := counters.starvationKicks.modify tier (· + 1) }
  | .victimKick => { counters with victimKicks := counters.victimKicks + 1 }
  | .fallback => { counters with fallbacks := counters.fallbacks + 1 }

/-- The counters of two shards together. -/
def merge (left right : Counters) : Counters where
  dispatches := left.dispatches + right.dispatches
  directDispatches := left.directDispatches + right.directDispatches
  tierDispatches := .zipWith (· + ·) left.tierDispatches right.tierDispatches
  wakeupEnqueues := left.wakeupEnqueues + right.wakeupEnqueues
  requeueEnqueues := left.requeueEnqueues + right.requeueEnqueues
  promotions := left.promotions + right.promotions
  demotions := left.demotions + right.demotions
  waitDemotions := left.waitDemotions + right.waitDemotions
  waits := .zipWith .merge left.waits right.waits
  starvationKicks := .zipWith (· + ·) left.starvationKicks right.starvationKicks
  victimKicks := left.victimKicks + right.victimKicks
  fallbacks := left.fallbacks + right.fallbacks

/-- All kicks, for whatever reason. -/
def kicks (counters : Counters) : UInt64 :=
  counters.victimKicks + counters.starvationKicks.toList.foldl (· + ·) 0

end Counters

end TierSched
