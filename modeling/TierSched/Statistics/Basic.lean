import TierSched.Statistics.Counters

/-!
# Statistics

The counters are spread over one shard for each unit, and a hint selects the shard that counts an
occurrence. Nothing that the scheduler decides reads them back; `Statistics.summary` adds the shards
up for the host. Disabled statistics count nothing.
-/

namespace TierSched

/-- The sharded counters. -/
structure Statistics where
  enabled : Bool
  shards : Array Counters
  shards_nonempty : 0 < shards.size
deriving DecidableEq, Repr

/-- The counters of all shards, and the number of all kicks. -/
structure Summary extends Counters where
  forcedKicks : UInt64
deriving DecidableEq, Repr

namespace Statistics

/-- Statistics in which nothing was counted, with one shard for each unit and one at least. -/
def initial (units : Nat) (enabled : Bool) : Statistics where
  enabled
  shards := .replicate (max units 1) .zero
  shards_nonempty := by simp only [Array.size_replicate]; omega

/-- The shard that a hint selects. -/
def shardOf (statistics : Statistics) (hint : Nat) : Fin statistics.shards.size :=
  ⟨hint % statistics.shards.size, Nat.mod_lt hint statistics.shards_nonempty⟩

/-- Counts an occurrence. -/
def record (statistics : Statistics) (hint : Nat) (occurrence : Occurrence) : Statistics :=
  if statistics.enabled then
    let shard := statistics.shardOf hint
    { statistics with
      shards := statistics.shards.set shard (statistics.shards[shard].record occurrence)
      shards_nonempty := by simpa using statistics.shards_nonempty }
  else
    statistics

/-- The sum of all shards. -/
def summary (statistics : Statistics) : Summary :=
  let counters := statistics.shards.foldl Counters.merge Counters.zero
  { toCounters := counters, forcedKicks := counters.kicks }

theorem enabled_record (statistics : Statistics) (hint : Nat) (occurrence : Occurrence) :
    (statistics.record hint occurrence).enabled = statistics.enabled := by
  unfold record
  split <;> rfl

theorem record_of_disabled {statistics : Statistics} (disabled : statistics.enabled = false)
    (hint : Nat) (occurrence : Occurrence) : statistics.record hint occurrence = statistics := by
  simp [record, disabled]

end Statistics

end TierSched
