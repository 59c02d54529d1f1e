import TierSched.Clock
import TierSched.Tier.Basic

/-!
# Timing of the tiers

Each tier scales the quantum into its own slice, tolerates a certain wait before it counts as a
breach, and lets a task run for a certain time before it counts as starving the others. Higher
tiers get shorter slices, so they yield sooner, and tighter limits.
-/

namespace TierSched.Tier

/-- The slice of a tier in thousandths of the quantum. -/
def quantumShare : Tier → UInt64
  | criticalLatency => 700
  | realtime => 800
  | critical => 900
  | gaming => 1000
  | interactive => 1100
  | batch => 1200
  | background => 1300

/-- The slice of a tier for a given quantum. -/
def slice (tier : Tier) (quantum : Nanos) : Nanos :=
  quantum.permille tier.quantumShare

/-- The longest wait that is no breach; the lowest tier may wait for ever. -/
def waitBudget? : Tier → Option Nanos
  | criticalLatency => some 100000
  | realtime => some 250000
  | critical => some 500000
  | gaming => some 1000000
  | interactive => some 2000000
  | batch => some 8000000
  | background => none

/-- The longest uninterrupted run that a tier permits by itself. -/
def runCeiling : Tier → Nanos
  | criticalLatency => 2000000
  | realtime => 5000000
  | critical => 10000000
  | gaming => 20000000
  | interactive => 40000000
  | batch => 80000000
  | background => 100000000

theorem waitBudget?_eq_none {tier : Tier} : tier.waitBudget? = none ↔ tier = background := by
  cases tier <;> decide

/-- There is a tier below every tier that limits the wait. -/
theorem rank_demoted_of_budgeted {tier : Tier} {allowed : Nanos}
    (budgeted : tier.waitBudget? = some allowed) :
    (tier.demoted.rank : Nat) = tier.rank + 1 := by
  cases tier with
  | background => contradiction
  | _ => rfl

theorem quantumShare_strictMono {left right : Tier} (below : left < right) :
    left.quantumShare < right.quantumShare := by
  revert below
  cases left <;> cases right <;> decide

end TierSched.Tier
