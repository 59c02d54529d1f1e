import Mathlib.Data.List.Forall2
import TierSched.Task.Lifecycle

/-!
# Ratings

The score and the runtime estimate of a task are its rating. When a run ends, the next rating and with
it the next tier depend on the rating before and on the length of the run alone, so ratings can be
followed along a list of run lengths without the rest of the profile.

A rating outranks another one if its score is at least as high and its average at most as long. A
shorter run never loses this lead, because a short run gains points where a long one loses them, and
because the average moves towards the length of the run from both sides. The numbers of samples have to
agree as well: the first sample replaces the average and all later ones are blended into it.
-/

namespace TierSched

namespace Score

/-- The least score with which a task can be in a tier. -/
def floor : Tier → Score
  | .criticalLatency | .realtime => maximum
  | .critical => 90
  | .gaming => sparseFloor
  | .interactive => neutral
  | .batch => 30
  | .background => 0

/-- Only the highest tier depends on more than the score. -/
theorem tier_le_iff {score : Score} {average gate : Nanos} {lowest : Tier}
    (ungated : lowest ≠ .criticalLatency) :
    score.tier average gate ≤ lowest ↔ floor lowest ≤ score := by
  unfold tier
  cases lowest with
  | criticalLatency => contradiction
  | _ =>
      simp only [floor, maximum, sparseFloor, neutral, UInt8.le_iff_toNat_le, UInt8.reduceToNat,
        Tier.le_def, Tier.rank]
      grind

theorem tier_eq_criticalLatency_iff {score : Score} {average gate : Nanos} :
    score.tier average gate = .criticalLatency ↔ maximum ≤ score ∧ average < gate := by
  unfold tier
  grind

/-- A higher score and a shorter average never lead to a lower tier. -/
theorem tier_le_tier {better worse : Score} {short long : Nanos} (gate : Nanos)
    (score_le : worse ≤ better) (average_le : short ≤ long) :
    better.tier short gate ≤ worse.tier long gate := by
  by_cases gated : worse.tier long gate = .criticalLatency
  · rcases tier_eq_criticalLatency_iff.mp gated with ⟨full, quick⟩
    rw [gated, tier_eq_criticalLatency_iff.mpr
      ⟨UInt8.le_trans full score_le, UInt64.lt_of_le_of_lt average_le quick⟩]
    exact Nat.le_refl _
  · apply (tier_le_iff gated).mpr
    exact UInt8.le_trans ((tier_le_iff gated).mp (Nat.le_refl _)) score_le

/-- A shorter run after a higher score leads to a higher score. -/
theorem afterRun_le_afterRun {better worse : Score} {short long : Nanos} (threshold : Nanos)
    (score_le : worse ≤ better) (run_le : short ≤ long) :
    worse.afterRun long threshold ≤ better.afterRun short threshold := by
  rw [UInt8.le_iff_toNat_le] at score_le ⊢
  rw [toNat_afterRun, toNat_afterRun]
  by_cases gains : long < threshold
  · rw [if_pos gains, if_pos (UInt64.lt_of_le_of_lt run_le gains)]
    omega
  · rw [if_neg gains]
    split
    · omega
    · omega

end Score

namespace RuntimeEstimate

theorem blend_le_blend {short long quick slow : Nanos} (average_le : short ≤ long)
    (sample_le : quick ≤ slow) : blend short quick ≤ blend long slow := by
  rw [UInt64.le_iff_toNat_le] at average_le sample_le ⊢
  rw [toNat_blend, toNat_blend]
  exact Nat.div_le_div_right (Nat.add_le_add sample_le (Nat.mul_le_mul_left 7 average_le))

theorem average_add_le {first second : RuntimeEstimate} {quick slow : Nanos}
    (samples_eq : first.samples = second.samples) (average_le : first.average ≤ second.average)
    (sample_le : quick ≤ slow) : (first.add quick).average ≤ (second.add slow).average := by
  simp only [add, samples_eq]
  split
  · exact sample_le
  · exact blend_le_blend average_le sample_le

end RuntimeEstimate

/-- What the runs of a task have made of it. -/
structure Rating where
  score : Score
  runtime : RuntimeEstimate
deriving DecidableEq, Repr

def Profile.rating (profile : Profile) : Rating :=
  ⟨profile.score, profile.runtime⟩

namespace Rating

/-- The rating after one more run. -/
def afterRun (threshold : Nanos) (rating : Rating) (run : Nanos) : Rating :=
  ⟨rating.score.afterRun run threshold, rating.runtime.add run⟩

/-- The rating after several runs, in order. -/
def afterRuns (threshold : Nanos) (rating : Rating) (runs : List Nanos) : Rating :=
  runs.foldl (afterRun threshold) rating

/-- The tier that a rating selects. -/
def tier (gate : Nanos) (rating : Rating) : Tier :=
  rating.score.tier rating.runtime.average gate

theorem afterRuns_concat (threshold : Nanos) (rating : Rating) (runs : List Nanos) (last : Nanos) :
    rating.afterRuns threshold (runs ++ [last]) =
      (rating.afterRuns threshold runs).afterRun threshold last := by
  simp [afterRuns]

/-- The score is at least as high, and the average at most as long. -/
structure Outranks (better worse : Rating) : Prop where
  score_le : worse.score ≤ better.score
  average_le : better.runtime.average ≤ worse.runtime.average
  samples_eq : better.runtime.samples = worse.runtime.samples

theorem outranks_self (rating : Rating) : rating.Outranks rating :=
  ⟨UInt8.le_refl _, UInt64.le_refl _, rfl⟩

namespace Outranks

variable {better worse : Rating} (outranks : better.Outranks worse)
include outranks

theorem tier_le (gate : Nanos) : better.tier gate ≤ worse.tier gate :=
  Score.tier_le_tier gate outranks.score_le outranks.average_le

theorem afterRun (threshold : Nanos) {quick slow : Nanos} (run_le : quick ≤ slow) :
    (better.afterRun threshold quick).Outranks (worse.afterRun threshold slow) where
  score_le := Score.afterRun_le_afterRun threshold outranks.score_le run_le
  average_le :=
    RuntimeEstimate.average_add_le outranks.samples_eq outranks.average_le run_le
  samples_eq := by
    simp only [Rating.afterRun, RuntimeEstimate.add, outranks.samples_eq]

theorem afterRuns (threshold : Nanos) {quick slow : List Nanos}
    (runs_le : List.Forall₂ (· ≤ ·) quick slow) :
    (better.afterRuns threshold quick).Outranks (worse.afterRuns threshold slow) := by
  induction runs_le generalizing better worse with
  | nil => exact outranks
  | cons run_le _ ih => exact ih (outranks.afterRun threshold run_le)

end Outranks

/-- If every run of one sequence is at most as long as its counterpart in another sequence, then after
any number of runs from a common rating the first score is at least as high, the first average at most
as long, and the first tier at least as high. -/
theorem shorter_runs_never_hurt (threshold gate : Nanos) (rating : Rating) {quick slow : List Nanos}
    (runs_le : List.Forall₂ (· ≤ ·) quick slow) (steps : Nat) :
    let better := rating.afterRuns threshold (quick.take steps)
    let worse := rating.afterRuns threshold (slow.take steps)
    worse.score ≤ better.score ∧ better.runtime.average ≤ worse.runtime.average ∧
      better.tier gate ≤ worse.tier gate := by
  intro better worse
  have outranks : better.Outranks worse :=
    rating.outranks_self.afterRuns threshold (List.forall₂_take steps runs_le)
  exact ⟨outranks.score_le, outranks.average_le, outranks.tier_le gate⟩

/-- After two runs both scores are at the maximum, and the averages put the tiers apart. A third run at
the threshold costs points, while a shorter one keeps the highest tier. -/
theorem shorter_runs_never_hurt_at_maximum :
    let quick : List Nanos := [40000, 40000, 60000]
    let slow : List Nanos := [90000, 90000, 100000]
    let better := afterRuns 100000 ⟨94, {}⟩ quick
    let worse := afterRuns 100000 ⟨94, {}⟩ slow
    better.tier 50000 = .criticalLatency ∧ worse.tier 50000 = .critical ∧
      worse.score ≤ better.score ∧ better.runtime.average ≤ worse.runtime.average ∧
        better.tier 50000 ≤ worse.tier 50000 := by
  intro quick slow better worse
  have runs_le : List.Forall₂ (· ≤ ·) quick slow := by
    refine .cons ?_ (.cons ?_ (.cons ?_ .nil))
    · decide
    · decide
    · decide
  exact ⟨by decide, by decide, shorter_runs_never_hurt 100000 50000 ⟨94, {}⟩ runs_le 3⟩

end Rating

/-- The end of a run changes the rating of a task by the length of the run, and the tier follows from
the rating. -/
theorem Profile.rating_account (profile : Profile) (config : Config) (run : Nanos) :
    (profile.account config run).rating = profile.rating.afterRun config.shortRunThreshold run ∧
      (profile.account config run).tier =
        (profile.account config run).rating.tier config.criticalGate :=
  ⟨rfl, rfl⟩

end TierSched
