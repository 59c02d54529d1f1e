import Mathlib.Tactic.Ring
import TierSched.Proofs.RunLengths

/-!
# Tasks with steady runs

If all runs of a task have the same length, its score walks to one of its two ends and the average of
its runs walks towards this length. From above the average arrives. From below it can stop up to 7
nanoseconds short, because the blend of the average and the sample is rounded down. These two cases are
one: `RuntimeEstimate.excess` is the distance to the band that reaches from 7 nanoseconds below the
length up to the length, and every run takes away at least an eighth of it. Since distances are words,
`settlingRuns` many runs use up any of them, and they are more than enough for the score.
-/

namespace TierSched

/-- The number of equal runs after which nothing is left of the runs before. -/
def settlingRuns : Nat := 333

theorem pow_mul_size_le {count : Nat} (enough : settlingRuns ≤ count) :
    7 ^ count * UInt64.size ≤ 8 ^ count := by
  have least : 7 ^ settlingRuns * UInt64.size ≤ 8 ^ settlingRuns := by decide +kernel
  rcases Nat.exists_eq_add_of_le enough with ⟨more, rfl⟩
  calc
    7 ^ (settlingRuns + more) * UInt64.size = 7 ^ more * (7 ^ settlingRuns * UInt64.size) := by
      ring
    _ ≤ 8 ^ more * 8 ^ settlingRuns :=
      Nat.mul_le_mul (Nat.pow_le_pow_left (by decide) more) least
    _ = 8 ^ (settlingRuns + more) := by ring

namespace RuntimeEstimate

/-- How far an average is outside the band in which it settles. -/
def excess (length average : Nanos) : Nat :=
  (average.toNat - length.toNat) + (length.toNat - 7 - average.toNat)

theorem excess_lt (length average : Nanos) : excess length average < UInt64.size := by
  have lengthBound := length.toNat_lt
  have averageBound := average.toNat_lt
  simp only [excess, UInt64.size]
  omega

theorem excess_add_le (estimate : RuntimeEstimate) (length : Nanos) :
    8 * excess length (estimate.add length).average ≤ 7 * excess length estimate.average := by
  simp only [add, excess]
  split
  · omega
  · rw [toNat_blend]
    omega

/-- The average does not lie below the length of the runs to come, or the first of them replaces it. -/
def Covers (estimate : RuntimeEstimate) (length : Nanos) : Prop :=
  estimate.samples = 0 ∨ length ≤ estimate.average

theorem Covers.le_average_add {estimate : RuntimeEstimate} {length : Nanos}
    (covers : estimate.Covers length) : length ≤ (estimate.add length).average := by
  simp only [add]
  split
  · exact UInt64.le_refl _
  · rename_i sampled
    have above := covers.resolve_left sampled
    rw [UInt64.le_iff_toNat_le] at above ⊢
    rw [toNat_blend]
    omega

end RuntimeEstimate

open RuntimeEstimate (excess)

namespace Rating

variable {threshold length : Nanos} (rating : Rating) (count : Nat)

theorem afterRuns_replicate_succ :
    rating.afterRuns threshold (List.replicate (count + 1) length) =
      (rating.afterRuns threshold (List.replicate count length)).afterRun threshold length := by
  rw [List.replicate_succ', afterRuns_concat]

theorem le_score_of_short (short : length < threshold) :
    min (rating.score.toNat + 4 * count) 100 ≤
      (rating.afterRuns threshold (List.replicate count length)).score.toNat := by
  induction count with
  | zero => exact Nat.min_le_left _ _
  | succ count ih =>
      rw [afterRuns_replicate_succ, afterRun, Score.toNat_afterRun, if_pos short]
      omega

theorem score_le_of_long (long : ¬length < threshold) :
    (rating.afterRuns threshold (List.replicate count length)).score.toNat ≤
      rating.score.toNat - 6 * count := by
  induction count with
  | zero => exact Nat.le_refl _
  | succ count ih =>
      rw [afterRuns_replicate_succ, afterRun, Score.toNat_afterRun, if_neg long]
      omega

theorem excess_afterRuns_le :
    8 ^ count * excess length
        (rating.afterRuns threshold (List.replicate count length)).runtime.average ≤
      7 ^ count * excess length rating.runtime.average := by
  induction count with
  | zero => exact Nat.le_refl _
  | succ count ih =>
      rw [afterRuns_replicate_succ]
      set earlier := rating.afterRuns threshold (List.replicate count length)
      have shrinks := RuntimeEstimate.excess_add_le earlier.runtime length
      calc
        8 ^ (count + 1) * excess length (earlier.runtime.add length).average =
            8 ^ count * (8 * excess length (earlier.runtime.add length).average) := by ring
        _ ≤ 8 ^ count * (7 * excess length earlier.runtime.average) :=
          Nat.mul_le_mul_left _ shrinks
        _ = 7 * (8 ^ count * excess length earlier.runtime.average) := by ring
        _ ≤ 7 * (7 ^ count * excess length rating.runtime.average) := Nat.mul_le_mul_left 7 ih
        _ = 7 ^ (count + 1) * excess length rating.runtime.average := by ring

variable {rating count}

theorem covers_afterRuns (covers : rating.runtime.Covers length) :
    (rating.afterRuns threshold (List.replicate count length)).runtime.Covers length := by
  induction count with
  | zero => exact covers
  | succ count ih =>
      rw [afterRuns_replicate_succ]
      exact Or.inr ih.le_average_add

/-- What a rating comes to under runs of one length. -/
structure Settled (threshold length : Nanos) (rating : Rating) : Prop where
  score_eq : rating.score = if length < threshold then Score.maximum else 0
  average_le : rating.runtime.average ≤ length
  le_average : length.toNat - 7 ≤ rating.runtime.average.toNat

theorem settled_afterRuns (enough : settlingRuns ≤ count) :
    (rating.afterRuns threshold (List.replicate count length)).Settled threshold length := by
  have shrunk := @excess_afterRuns_le threshold length rating count
  have gone : excess length
      (rating.afterRuns threshold (List.replicate count length)).runtime.average = 0 := by
    by_contra left
    have bound := Nat.mul_lt_mul_of_pos_left (RuntimeEstimate.excess_lt length
      rating.runtime.average) (Nat.pow_pos (n := count) (by decide : 0 < 7))
    have atLeast := Nat.le_mul_of_pos_right (8 ^ count) (Nat.pos_of_ne_zero left)
    have contracted := pow_mul_size_le enough
    omega
  simp only [excess] at gone
  have many : 333 ≤ count := enough
  refine ⟨?_, UInt64.le_iff_toNat_le.mpr (by omega), by omega⟩
  apply UInt8.toNat_inj.mp
  split
  · rename_i short
    have high := rating.le_score_of_short count short
    rcases Nat.exists_eq_succ_of_ne_zero (by omega : count ≠ 0) with ⟨earlier, rfl⟩
    rw [Nat.succ_eq_add_one, afterRuns_replicate_succ] at high ⊢
    have low := UInt8.le_iff_toNat_le.mp (Score.afterRun_le_maximum
      (rating.afterRuns threshold (List.replicate earlier length)).score length threshold)
    change _ ≤ 100 at low
    change _ = 100
    simp only [afterRun] at high ⊢
    omega
  · rename_i long
    have low := rating.score_le_of_long count long
    have scoreBound := rating.score.toNat_lt
    change _ = 0
    omega

theorem average_eq_of_covers (covers : rating.runtime.Covers length)
    (enough : settlingRuns ≤ count) :
    (rating.afterRuns threshold (List.replicate count length)).runtime.average = length := by
  have many : 333 ≤ count := enough
  have settled : (rating.afterRuns threshold (List.replicate count length)).Settled threshold
    length := settled_afterRuns enough
  apply UInt64.le_antisymm settled.average_le
  rcases Nat.exists_eq_succ_of_ne_zero (by omega : count ≠ 0) with ⟨earlier, rfl⟩
  rw [Nat.succ_eq_add_one, afterRuns_replicate_succ]
  exact (covers_afterRuns covers).le_average_add

namespace Settled

variable {gate : Nanos} (settled : rating.Settled threshold length)
include settled

theorem tier_of_long (long : threshold ≤ length) : rating.tier gate = .background := by
  have score_eq := settled.score_eq
  rw [if_neg (UInt64.not_lt.mpr long)] at score_eq
  rw [tier, score_eq]
  rfl

theorem tier_of_quick (short : length < threshold) (quick : length < gate) :
    rating.tier gate = .criticalLatency := by
  have score_eq := settled.score_eq
  rw [if_pos short] at score_eq
  apply Score.tier_eq_criticalLatency_iff.mpr
  exact ⟨score_eq ▸ UInt8.le_refl _, UInt64.lt_of_le_of_lt settled.average_le quick⟩

/-- The average settles at most 7 nanoseconds below the length, so it does not get below the gate. -/
theorem tier_of_gated (short : length < threshold) (gated : gate.toNat + 7 ≤ length.toNat) :
    rating.tier gate = .realtime := by
  have score_eq := settled.score_eq
  have le_average := settled.le_average
  rw [if_pos short] at score_eq
  have slow : ¬rating.runtime.average < gate := by
    rw [UInt64.lt_iff_toNat_lt]
    omega
  rw [tier, score_eq, Score.tier, if_pos (UInt8.le_refl _), if_neg slow]

end Settled

end Rating

namespace Execution

/-- If the runs of a task all have the same length from some state on, and the task is neither demoted
nor exits, then after `settlingRuns` runs its score is at one of its ends and its average is at most 7
nanoseconds below this length; it is this very length if it was not below it before. So the tier is the
lowest one for long runs and one of the two highest ones for short runs, which the gate tells apart. -/
theorem steady_runs_settle (execution : Execution) (task : TaskId) (profile : Profile)
    (tracked : execution.scheduler.profile? task = some profile) (length : Nanos)
    (later : List (Nanos × Event)) (spares : execution.scheduler.Spares task later)
    (steady : ∀ run ∈ execution.scheduler.runLengths task later, run = length)
    (enough : settlingRuns ≤ (execution.scheduler.runLengths task later).length) :
    let threshold := execution.config.shortRunThreshold
    let gate := execution.config.criticalGate
    ∃ next, (execution.extend later).scheduler.profile? task = some next ∧
      next.score = (if length < threshold then Score.maximum else 0) ∧
      next.runtime.average ≤ length ∧ length.toNat - 7 ≤ next.runtime.average.toNat ∧
      (profile.runtime.samples = 0 ∨ length ≤ profile.runtime.average →
        next.runtime.average = length) ∧
      (threshold ≤ length → next.tier = .background) ∧
      (length < threshold → length < gate → next.tier = .criticalLatency) ∧
      (length < threshold → gate.toNat + 7 ≤ length.toNat → next.tier = .realtime) := by
  intro threshold gate
  rcases Scheduler.tracked_after spares tracked with ⟨next, nextTracked⟩
  have lengths_eq := List.eq_replicate_iff.mpr ⟨rfl, steady⟩
  have rated := Scheduler.ratedBy_after spares
  rw [execution.config_eq, lengths_eq] at rated
  simp only [TaskView.known, Scheduler.view, tracked, nextTracked, Option.getD_some] at rated
  rcases rated with ⟨rating_eq, tier_eq⟩
  have settled : next.rating.Settled threshold length := by
    rw [rating_eq]
    exact Rating.settled_afterRuns enough
  have some_run : List.replicate (execution.scheduler.runLengths task later).length length ≠ [] := by
    intro none
    rw [List.replicate_eq_nil_iff] at none
    rw [none] at enough
    contradiction
  rw [if_neg some_run] at tier_eq
  refine ⟨next, ?_, settled.score_eq, settled.average_le, settled.le_average, ?_, ?_, ?_, ?_⟩
  · rw [execution.scheduler_extend]
    exact nextTracked
  · intro covers
    have average_eq : next.rating.runtime.average = length := by
      rw [rating_eq]
      exact Rating.average_eq_of_covers covers enough
    exact average_eq
  · intro long
    exact tier_eq.trans (settled.tier_of_long long)
  · intro short quick
    exact tier_eq.trans (settled.tier_of_quick short quick)
  · intro short gated
    exact tier_eq.trans (settled.tier_of_gated short gated)

/-- A task has run once, for no time at all. Under runs of 60 microseconds it settles in the tier of
tasks whose runs are short, but longer than the gate. -/
theorem steady_runs_settle_from_below :
    let execution := ofHistory [(1000, .start 0 1), (1000, .stop 0 1 false)]
    let later := Scheduler.cycles 0 1 1000 61000 400
    ∃ profile next, execution.scheduler.profile? 1 = some profile ∧ profile.runtime.average = 0 ∧
      execution.scheduler.Spares 1 later ∧
      (∀ run ∈ execution.scheduler.runLengths 1 later, run = 60000) ∧
      settlingRuns ≤ (execution.scheduler.runLengths 1 later).length ∧
      (execution.extend later).scheduler.profile? 1 = some next ∧ next.score = 100 ∧
      next.runtime.average ≤ 60000 ∧ 59993 ≤ next.runtime.average.toNat ∧ next.tier = .realtime := by
  intro execution later
  have ran : (execution.scheduler.profile? 1).map
      (fun profile => (profile.runtime.average, profile.phase)) = some (0, .sleeping) := by
    decide +kernel
  rcases Option.map_eq_some_iff.mp ran with ⟨profile, tracked, state_eq⟩
  have sleeps : execution.scheduler.Sleeps 1 :=
    ⟨profile, Scheduler.observed?_of_profile? tracked, (Prod.mk.inj state_eq).2⟩
  rcases sleeps.after_cycles 0 1000 61000 400 with ⟨_, spares, lengths_eq⟩
  have steady : ∀ run ∈ execution.scheduler.runLengths 1 later, run = 60000 := by
    intro run member
    rw [lengths_eq] at member
    exact List.eq_of_mem_replicate member
  have enough : settlingRuns ≤ (execution.scheduler.runLengths 1 later).length := by
    rw [lengths_eq, List.length_replicate]
    decide
  rcases execution.steady_runs_settle 1 profile tracked 60000 later spares steady enough with
    ⟨next, nextTracked, score_eq, average_le, le_average, _, _, _, realtime⟩
  have short : (60000 : Nanos) < execution.config.shortRunThreshold := by decide
  rw [if_pos short] at score_eq
  exact ⟨profile, next, tracked, (Prod.mk.inj state_eq).1, spares, steady, enough, nextTracked,
    score_eq, average_le, le_average, realtime short (by decide)⟩

end Execution

end TierSched
