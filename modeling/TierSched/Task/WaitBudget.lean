import TierSched.Task.Profile

/-!
# Wait budgets

Whenever a task starts to run, the time it waited is compared with the budget of its tier. A longer
wait is a breach. After enough consecutive breaches the task is demoted by one tier and loses points;
any wait within the budget forgives all breaches before it.
-/

namespace TierSched

/-- What became of one wait. -/
inductive Judgement where
  /-- The wait was no breach. -/
  | tolerated
  /-- The wait was a breach, the latest of so many in a row. -/
  | breach (count : UInt8)
  /-- The wait was one breach too many. -/
  | demotion (source target : Tier)
  /-- The tier permits any wait. -/
  | unlimited
deriving DecidableEq, Repr

/-- The rule for demotions. -/
structure WaitBudget where
  /-- The number of consecutive breaches that lead to a demotion. -/
  limit : UInt8
  /-- The points that a demotion costs. -/
  penalty : Score
  quantum : Nanos
deriving DecidableEq, Repr

/-- The rule for demotions of a configuration; a limit of zero counts as one. -/
def Config.waitBudget (config : Config) : WaitBudget where
  limit := if config.violationLimit = 0 then 1 else config.violationLimit
  penalty := config.demotionPenalty
  quantum := config.quantum

namespace WaitBudget

/-- The number of breaches in a row after one more, or the largest word if that does not fit. -/
def countBreach (violations : UInt8) : UInt8 :=
  .ofNatClamp (violations.toNat + 1)

/-- Judges one wait of a task. -/
def judge (budget : WaitBudget) (profile : Profile) (wait : Nanos) : Judgement × Profile :=
  match profile.tier.waitBudget? with
  | none => (.unlimited, { profile with violations := 0 })
  | some allowed =>
    if wait ≤ allowed then
      (.tolerated, { profile with violations := 0 })
    else
      let violations := countBreach profile.violations
      if violations < budget.limit then
        (.breach violations, { profile with violations })
      else
        let target := profile.tier.demoted
        (.demotion profile.tier target,
          { profile.assign target budget.quantum with
            score := profile.score.penalized budget.penalty
            violations := 0 })

theorem toNat_countBreach (violations : UInt8) :
    (countBreach violations).toNat = min (violations.toNat + 1) 255 := by
  have size : UInt8.size = 256 := rfl
  by_cases fits : violations.toNat + 1 < UInt8.size
  · rw [countBreach, UInt8.toNat_ofNatClamp_of_lt fits]
    omega
  · rw [countBreach, UInt8.toNat_ofNatClamp_of_le (Nat.le_of_not_lt fits)]
    omega

/-- Judging a wait changes nothing but the standing of the task. -/
theorem judge_eq (budget : WaitBudget) (profile : Profile) (wait : Nanos) :
    ∃ score tier slice violations,
      (budget.judge profile wait).2 = { profile with score, tier, slice, violations } := by
  unfold judge
  split
  · exact ⟨profile.score, profile.tier, profile.slice, 0, rfl⟩
  · split
    · exact ⟨profile.score, profile.tier, profile.slice, 0, rfl⟩
    · dsimp only
      split
      · exact ⟨profile.score, profile.tier, profile.slice, _, rfl⟩
      · exact ⟨_, _, _, 0, rfl⟩

end WaitBudget

end TierSched
