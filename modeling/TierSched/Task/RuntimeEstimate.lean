import TierSched.Clock

/-!
# Estimates of the runtime

The estimate of the runtime of a task is a moving average in which a new sample weighs one eighth,
so about eight recent runs dominate it. The first sample is taken as it is. Samples are counted up
to the largest word, which keeps every later sample from being mistaken for a first one.
-/

namespace TierSched

/-- A moving average of runtimes. -/
structure RuntimeEstimate where
  average : Nanos := 0
  /-- The number of samples, or the largest word if there were more. -/
  samples : UInt32 := 0
deriving DecidableEq, Repr

namespace RuntimeEstimate

/-- The weight of a new sample. -/
def sampleWeight : Nat := 32

/-- The weight of a new sample and of the old average together. -/
def totalWeight : Nat := 256

/-- The average after one more sample. -/
def blend (average sample : Nanos) : Nanos :=
  .ofNat ((sampleWeight * sample.toNat + (totalWeight - sampleWeight) * average.toNat) / totalWeight)

/-- The estimate after one more sample. -/
def add (estimate : RuntimeEstimate) (sample : Nanos) : RuntimeEstimate where
  average := if estimate.samples = 0 then sample else blend estimate.average sample
  samples := .ofNatClamp (estimate.samples.toNat + 1)

/-- The average lies between words, so it is a word itself. -/
theorem toNat_blend (average sample : Nanos) :
    (blend average sample).toNat = (sample.toNat + 7 * average.toNat) / 8 := by
  have averageBound := average.toNat_lt
  have sampleBound := sample.toNat_lt
  simp only [blend, sampleWeight, totalWeight, UInt64.toNat_ofNat']
  rw [Nat.mod_eq_of_lt] <;> omega

theorem samples_add_ne_zero (estimate : RuntimeEstimate) (sample : Nanos) :
    (estimate.add sample).samples ≠ 0 := by
  intro none
  have size : UInt32.size = 4294967296 := rfl
  have zero : (UInt32.ofNatClamp (estimate.samples.toNat + 1)).toNat = 0 := by
    have := congrArg UInt32.toNat none
    simpa [add] using this
  by_cases fits : estimate.samples.toNat + 1 < UInt32.size
  · rw [UInt32.toNat_ofNatClamp_of_lt fits] at zero
    omega
  · rw [UInt32.toNat_ofNatClamp_of_le (Nat.le_of_not_lt fits)] at zero
    omega

end RuntimeEstimate

end TierSched
