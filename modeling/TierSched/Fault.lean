import TierSched.Clock

/-!
# Faults

The reasons for which a configuration or a topology is refused, and the two conditions that can
arise while a scheduler runs. Each fault carries what its message needs; a fault of the second kind
is recoverable, because the scheduler goes on with a substitute.
-/

namespace TierSched

/-- The two settings that name a tier. -/
inductive TierSetting where
  /-- The highest tier whose units may be kicked. -/
  | victim
  /-- The lowest tier that kicks a unit when it is enqueued. -/
  | kicking
deriving DecidableEq, Repr

/-- The name under which a setting appears in messages and documents. -/
def TierSetting.name : TierSetting → String
  | victim => "preempt_tier"
  | kicking => "high_priority_tier"

/-- A reason to refuse a request. -/
inductive Fault where
  /-- The quantum is zero or above the limit. -/
  | quantumOutOfRange (quantum limit : Nanos)
  /-- The bonus of new tasks is above the limit. -/
  | bonusOutOfRange (bonus limit : Nanos)
  /-- The threshold of short runs is no share between 1 and 1000 thousandths of the quantum. -/
  | sparseShareOutOfRange (share : UInt64)
  /-- The general run ceiling is shorter than the quantum. -/
  | ceilingBelowQuantum (ceiling quantum : Nanos)
  /-- The number of units is zero or above the limit. -/
  | unitCountOutOfRange (units limit : Nat)
  /-- The low tiers would be served first by every dispatch. -/
  | intervalTooShort (interval : UInt64)
  /-- The victim tier or the kicking tier is too high or too low. -/
  | tierOutOfOrder (setting : TierSetting) (rank : UInt8)
  /-- A unit could be kicked twice at the same moment. -/
  | cooldownMissing
  /-- The number of breaches or the penalty of a demotion is out of range. -/
  | waitBudgetOutOfRange (violations penalty : UInt8)
  /-- No task could ever be tracked. -/
  | capacityMissing
  /-- A unit with this number does not exist. -/
  | unitUnknown (unit units : Nat)
  /-- As many tasks are tracked as the capacity permits. -/
  | rosterFull (capacity : Nat)
deriving DecidableEq, Repr

namespace Fault

/-- The message that describes a fault. -/
def message : Fault → String
  | quantumOutOfRange quantum limit => s!"Invalid quantum: {quantum}ns (must be 1..={limit}ns)"
  | bonusOutOfRange bonus limit => s!"Invalid new-flow bonus: {bonus}ns (max {limit}ns)"
  | sparseShareOutOfRange share => s!"Invalid sparse threshold: {share}‰ (must be 1..=1000)"
  | ceilingBelowQuantum ceiling quantum =>
      s!"Starvation ceiling {ceiling}ns shorter than quantum {quantum}ns"
  | unitCountOutOfRange units limit => s!"Invalid unit count: {units} (must be 1..={limit})"
  | intervalTooShort interval => s!"Invalid low-tier check interval: {interval} (must be >= 2)"
  | tierOutOfOrder setting rank => s!"Invalid tier {rank} for {setting.name}"
  | cooldownMissing => "InvalidCooldown"
  | waitBudgetOutOfRange violations penalty =>
      s!"InvalidWaitBudget \x7b violations: {violations}, penalty: {penalty} \x7d"
  | capacityMissing => "InvalidCapacity"
  | unitUnknown unit units => s!"Unit {unit} out of range ({units} units)"
  | rosterFull capacity => s!"Task context store full ({capacity} contexts)"

/-- What the host can do about a fault. -/
def advice : Fault → String
  | quantumOutOfRange .. => "Use a quantum between 1ns and 1s (default 2ms)"
  | sparseShareOutOfRange .. => "Use a permille value in 1..=1000 (default 50)"
  | ceilingBelowQuantum .. => "Raise the starvation ceiling above the quantum"
  | unitCountOutOfRange .. => "Run with at most 64 execution units"
  | intervalTooShort .. => "Use an interval of 2 or more (default 16)"
  | tierOutOfOrder .. => "High-priority cutoff must be above the preemptible tier"
  | rosterFull .. => "Increase max_tasks; tasks fall back to Interactive"
  | unitUnknown .. => "Host passed a unit id beyond nr_units"
  | bonusOutOfRange .. | cooldownMissing | waitBudgetOutOfRange .. | capacityMissing =>
      "Check scheduler configuration"

/-- Whether a running scheduler goes on after the fault. -/
def recoverable : Fault → Bool
  | unitUnknown .. | rosterFull .. => true
  | _ => false

end Fault

end TierSched
