import TierSched.Fault
import TierSched.Host
import TierSched.Tier.Score
import TierSched.Tier.Timing

/-!
# Configuration

A configuration fixes the timing and the limits of a scheduler once and for all. It can be written
down with any values; `Config.fault?` finds the first reason to refuse it, and there is none exactly
if the configuration is `Config.Accepted`, that is, if every parameter lies within its limits.
-/

namespace TierSched

/-- The parameters of a scheduler. -/
structure Config where
  /-- The base slice. -/
  quantum : Nanos := 2000000
  /-- What a task gets on top of the quantum until it stops for the first time. -/
  newTaskBonus : Nanos := 8000000
  /-- The threshold of short runs in thousandths of the quantum. -/
  sparseShare : UInt64 := 50
  /-- The run ceiling that caps the ceiling of every tier. -/
  starvationLimit : Nanos := 100000000
  /-- Whether statistics are kept. -/
  statisticsEnabled : Bool := true
  /-- The number of execution units. -/
  units : Nat := unitLimit
  /-- The average runtime below which a task with the maximal score gets the highest tier. -/
  criticalGate : Nanos := 50000
  /-- A unit that runs this tier or a lower one may be kicked. -/
  victimTier : Tier := .interactive
  /-- A woken task of this tier or a higher one kicks a unit when it is enqueued. -/
  kickingTier : Tier := .realtime
  /-- The least time between two kicks of the same unit for a waiting task. -/
  kickCooldown : Nanos := 200000
  /-- Every dispatch whose number is a multiple of this serves the two lowest tiers first. -/
  lowTierInterval : UInt64 := 16
  /-- The number of consecutive breaches of the wait budget after which a task is demoted. -/
  violationLimit : UInt8 := 4
  /-- The points that a demoted task loses. -/
  demotionPenalty : UInt8 := 30
  /-- The number of tasks that can be tracked at the same time. -/
  capacity : Nat := 65536
deriving DecidableEq, Repr

namespace Config

/-- The default configuration for a number of units. -/
def forUnits (units : Nat) : Config := { units }

/-- The greatest quantum and the greatest bonus, one second. -/
def quantumLimit : Nanos := 1000000000

/-- The first reason to refuse the configuration. -/
def fault? (config : Config) : Option Fault :=
  if config.quantum = 0 ∨ quantumLimit < config.quantum then
    some (.quantumOutOfRange config.quantum quantumLimit)
  else if quantumLimit < config.newTaskBonus then
    some (.bonusOutOfRange config.newTaskBonus quantumLimit)
  else if config.sparseShare = 0 ∨ 1000 < config.sparseShare then
    some (.sparseShareOutOfRange config.sparseShare)
  else if config.starvationLimit < config.quantum then
    some (.ceilingBelowQuantum config.starvationLimit config.quantum)
  else if config.units = 0 ∨ unitLimit < config.units then
    some (.unitCountOutOfRange config.units unitLimit)
  else if config.lowTierInterval < 2 then
    some (.intervalTooShort config.lowTierInterval)
  else if config.victimTier ≤ .realtime then
    some (.tierOutOfOrder .victim (.ofNat config.victimTier.rank))
  else if config.victimTier ≤ config.kickingTier then
    some (.tierOutOfOrder .kicking (.ofNat config.kickingTier.rank))
  else if config.kickCooldown = 0 then
    some .cooldownMissing
  else if config.violationLimit = 0 ∨ Score.maximum < config.demotionPenalty then
    some (.waitBudgetOutOfRange config.violationLimit config.demotionPenalty)
  else if config.capacity = 0 then
    some .capacityMissing
  else
    none

/-- Every parameter lies within its limits. -/
structure Accepted (config : Config) : Prop where
  quantum_ne_zero : config.quantum ≠ 0
  quantum_le : config.quantum ≤ quantumLimit
  newTaskBonus_le : config.newTaskBonus ≤ quantumLimit
  sparseShare_ne_zero : config.sparseShare ≠ 0
  sparseShare_le : config.sparseShare ≤ 1000
  quantum_le_starvationLimit : config.quantum ≤ config.starvationLimit
  units_ne_zero : config.units ≠ 0
  units_le : config.units ≤ unitLimit
  two_le_lowTierInterval : 2 ≤ config.lowTierInterval
  victimTier_low : ¬config.victimTier ≤ .realtime
  kickingTier_high : ¬config.victimTier ≤ config.kickingTier
  kickCooldown_ne_zero : config.kickCooldown ≠ 0
  violationLimit_ne_zero : config.violationLimit ≠ 0
  demotionPenalty_le : config.demotionPenalty ≤ Score.maximum
  capacity_ne_zero : config.capacity ≠ 0

/-- The runtime below which a run counts as short. -/
def shortRunThreshold (config : Config) : Nanos :=
  Score.shortRunThreshold config.quantum config.sparseShare

/-- The slice of a task that has never stopped. -/
def newTaskSlice (config : Config) : Nanos :=
  config.quantum.clampedAdd config.newTaskBonus

/-- The longest uninterrupted run of a tier, capped by the general limit. -/
def runCeiling (config : Config) (tier : Tier) : Nanos :=
  if tier.runCeiling < config.starvationLimit then tier.runCeiling else config.starvationLimit

/-- A chain of checks finds nothing exactly if its first check passes and the others find nothing. -/
theorem ite_some_eq_none {Value : Type} {condition : Prop} [Decidable condition] {value : Value}
    {rest : Option Value} :
    (if condition then some value else rest) = none ↔ ¬condition ∧ rest = none := by
  split <;> simp_all

/-- There is no reason to refuse a configuration exactly if all its parameters are in range. -/
theorem fault?_eq_none_iff {config : Config} : config.fault? = none ↔ config.Accepted := by
  simp only [fault?, ite_some_eq_none, not_or, UInt64.not_lt, UInt8.not_lt, Nat.not_lt]
  constructor
  · rintro ⟨⟨_, _⟩, _, ⟨_, _⟩, _, ⟨_, _⟩, _, _, _, _, ⟨_, _⟩, _, _⟩
    constructor <;> assumption
  · intro accepted
    simp [accepted.quantum_ne_zero, accepted.quantum_le, accepted.newTaskBonus_le,
      accepted.sparseShare_ne_zero, accepted.sparseShare_le, accepted.quantum_le_starvationLimit,
      accepted.units_ne_zero, accepted.units_le, accepted.two_le_lowTierInterval,
      accepted.victimTier_low, accepted.kickingTier_high, accepted.kickCooldown_ne_zero,
      accepted.violationLimit_ne_zero, accepted.demotionPenalty_le, accepted.capacity_ne_zero]

instance (config : Config) : Decidable config.Accepted :=
  decidable_of_iff (config.fault? = none) fault?_eq_none_iff

theorem toNat_runCeiling (config : Config) (tier : Tier) :
    (config.runCeiling tier).toNat =
      min tier.runCeiling.toNat config.starvationLimit.toNat := by
  unfold runCeiling
  split
  case isTrue below =>
    rw [UInt64.lt_iff_toNat_lt] at below
    omega
  case isFalse below =>
    rw [UInt64.lt_iff_toNat_lt] at below
    omega

end Config

end TierSched
