import TierSched.Clock
import TierSched.Tier.Basic

/-!
# Scores and classification

A score between 0 and 100 sums up how short the recent runs of a task were. A run below the
threshold gains 4 points and any other run loses 6, so one long run costs more than one short run
earns. The score selects the tier; at the maximum the average run decides between the two highest
tiers.
-/

namespace TierSched

/-- A score; values above the maximum are read as the maximum. -/
abbrev Score := UInt8

namespace Score

/-- The greatest score. -/
def maximum : Score := 100

/-- The score of a task that was never seen before. -/
def neutral : Score := 50

/-- The points gained by a short run. -/
def gain : Score := 4

/-- The points lost by a long run. -/
def loss : Score := 6

/-- The least score of a sparse task, which is also the least score of the gaming tier. -/
def sparseFloor : Score := 70

/-- The runtime below which a run counts as short, given in thousandths of the quantum. -/
def shortRunThreshold (quantum : Nanos) (share : UInt64) : Nanos :=
  quantum.permille share

/-- The score after a run of the given length. -/
def afterRun (score : Score) (runtime threshold : Nanos) : Score :=
  if runtime < threshold then
    .ofNat (min (score.toNat + gain.toNat) maximum.toNat)
  else
    .ofNat (min score.toNat maximum.toNat - loss.toNat)

/-- The score after a penalty, zero at the least. -/
def penalized (score penalty : Score) : Score :=
  .ofNat (score.toNat - penalty.toNat)

/-- The tier that a score and an average runtime select. -/
def tier (score : Score) (average gate : Nanos) : Tier :=
  if maximum ≤ score then
    if average < gate then .criticalLatency else .realtime
  else if 90 ≤ score then .critical
  else if sparseFloor ≤ score then .gaming
  else if neutral ≤ score then .interactive
  else if 30 ≤ score then .batch
  else .background

theorem toNat_afterRun (score : Score) (runtime threshold : Nanos) :
    (score.afterRun runtime threshold).toNat =
      if runtime < threshold then min (score.toNat + 4) 100 else min score.toNat 100 - 6 := by
  unfold afterRun
  split
  · simp only [UInt8.toNat_ofNat', gain, maximum]
    exact Nat.mod_eq_of_lt (by simp only [UInt8.reduceToNat]; omega)
  · simp only [UInt8.toNat_ofNat', loss, maximum]
    exact Nat.mod_eq_of_lt (by simp only [UInt8.reduceToNat]; omega)

theorem afterRun_le_maximum (score : Score) (runtime threshold : Nanos) :
    score.afterRun runtime threshold ≤ maximum := by
  rw [UInt8.le_iff_toNat_le, toNat_afterRun]
  simp only [maximum, UInt8.reduceToNat]
  split <;> omega

@[simp]
theorem toNat_penalized (score penalty : Score) :
    (score.penalized penalty).toNat = score.toNat - penalty.toNat := by
  have bound := score.toNat_lt
  simp only [penalized, UInt8.toNat_ofNat']
  exact Nat.mod_eq_of_lt (by omega)

theorem penalized_le (score penalty : Score) : score.penalized penalty ≤ score := by
  rw [UInt8.le_iff_toNat_le, toNat_penalized]
  exact Nat.sub_le _ _

end Score

end TierSched
