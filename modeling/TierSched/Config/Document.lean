import TierSched.Config.Basic
import TierSched.Document

/-!
# Stored configurations

A configuration is stored as a record of all its parameters. Reading checks the form of every
parameter but not its value, which is the business of `Config.fault?`. What is stored reads back as
the same configuration.
-/

namespace TierSched.Config

/-- The names of the parameters in their usual order. -/
def parameterNames : List String :=
  [ "quantum_ns", "new_flow_bonus_ns", "sparse_permille", "starvation_ns", "stats_enabled",
    "nr_units", "critical_latency_gate_ns", TierSetting.victim.name, TierSetting.kicking.name,
    "preempt_cooldown_ns", "low_tier_interval", "wait_violations_demote", "wait_demote_penalty",
    "max_tasks" ]

/-- The stored form of a configuration. -/
def toDocument (config : Config) : Document :=
  .record <| parameterNames.zip
    [ .ofWord config.quantum, .ofWord config.newTaskBonus, .ofWord config.sparseShare,
      .ofWord config.starvationLimit, .truth config.statisticsEnabled, .ofNat config.units,
      .ofWord config.criticalGate, .ofTier config.victimTier, .ofTier config.kickingTier,
      .ofWord config.kickCooldown, .ofWord config.lowTierInterval, .ofByte config.violationLimit,
      .ofByte config.demotionPenalty, .ofNat config.capacity ]

/-- The configuration whose parameters are given in their usual order. -/
def ofRow? : List Document → Option Config
  | [ quantum, newTaskBonus, sparseShare, starvationLimit, statisticsEnabled, units, criticalGate,
      victimTier, kickingTier, kickCooldown, lowTierInterval, violationLimit, demotionPenalty,
      capacity ] => do
    return {
      quantum := ← quantum.word?
      newTaskBonus := ← newTaskBonus.word?
      sparseShare := ← sparseShare.word?
      starvationLimit := ← starvationLimit.word?
      statisticsEnabled := ← statisticsEnabled.truth?
      units := ← units.below? UInt64.size
      criticalGate := ← criticalGate.word?
      victimTier := ← victimTier.tier?
      kickingTier := ← kickingTier.tier?
      kickCooldown := ← kickCooldown.word?
      lowTierInterval := ← lowTierInterval.word?
      violationLimit := ← violationLimit.byte?
      demotionPenalty := ← demotionPenalty.byte?
      capacity := ← capacity.below? UInt64.size }
  | _ => none

/-- The configuration that a document holds. -/
def ofDocument? (document : Document) : Option Config :=
  (document.row? parameterNames).bind ofRow?

/-- A configuration whose counts are words reads back as it was stored. -/
theorem ofDocument?_toDocument (config : Config) (units_lt : config.units < UInt64.size)
    (capacity_lt : config.capacity < UInt64.size) : ofDocument? config.toDocument = some config := by
  have units_read := Document.below?_ofNat units_lt
  have capacity_read := Document.below?_ofNat capacity_lt
  have row_read : config.toDocument.row? parameterNames = some
      [ .ofWord config.quantum, .ofWord config.newTaskBonus, .ofWord config.sparseShare,
        .ofWord config.starvationLimit, .truth config.statisticsEnabled, .ofNat config.units,
        .ofWord config.criticalGate, .ofTier config.victimTier, .ofTier config.kickingTier,
        .ofWord config.kickCooldown, .ofWord config.lowTierInterval, .ofByte config.violationLimit,
        .ofByte config.demotionPenalty, .ofNat config.capacity ] := rfl
  rw [ofDocument?, row_read, Option.bind_some]
  simp only [ofRow?, Document.word?_ofWord, Document.byte?_ofByte, Document.tier?_ofTier,
    Document.truth?, units_read, capacity_read]
  rfl

end TierSched.Config
