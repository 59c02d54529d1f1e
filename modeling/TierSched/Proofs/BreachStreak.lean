import Mathlib.Data.List.DropRight
import TierSched.Proofs.TierMove

/-!
# Streaks of breaches

A wait is judged by a counter that other judgements have left in the profile. Here the counter is
traced back to the waits themselves: as long as nothing but judgements touches it, it is the length of
the streak of waits that were judged as breaches in a row, and a breach demotes the task exactly when it
completes a streak of the length that the budget demands. A task may be assigned to other tiers in the
middle of a streak, so each wait of the streak is held against the budget of the tier in which it was
spent.

`WaitBudget.Traces` is the invariant, and `WaitBudget.Traces.perform` says that every call keeps it. A
streak never grows to the length that is demanded, because the wait that completes it ends it.
-/

namespace TierSched

/-- The judgement ends a streak of breaches. -/
def Judgement.endsStreak : Judgement → Bool
  | breach _ => false
  | tolerated | demotion _ _ | unlimited => true

/-- The tier limits the wait, and this wait is longer. -/
def Tier.ExceededBy (tier : Tier) (wait : Nanos) : Prop :=
  ∃ allowed, tier.waitBudget? = some allowed ∧ allowed < wait

namespace WaitBudget

open Profile (Wait)

section Judge

variable {budget : WaitBudget} {profile : Profile} {wait : Nanos}

theorem countBreach_lt_iff (violations limit : UInt8) :
    countBreach violations < limit ↔ violations.toNat + 1 < limit.toNat := by
  have limitBound := limit.toNat_lt
  rw [UInt8.lt_iff_toNat_lt, toNat_countBreach]
  omega

theorem judge_of_not_exceeded (within : ¬profile.tier.ExceededBy wait) :
    budget.judge profile wait =
      (if profile.tier = .background then .unlimited else .tolerated,
        { profile with violations := 0 }) := by
  unfold judge
  split
  · rename_i unlimited
    rw [if_pos (Tier.waitBudget?_eq_none.mp unlimited)]
  · rename_i allowed limited
    have limits : profile.tier ≠ .background := by
      intro lowest
      rw [Tier.waitBudget?_eq_none.mpr lowest] at limited
      contradiction
    have wait_le : wait ≤ allowed := by
      rw [← UInt64.not_lt]
      intro exceeds
      exact within ⟨allowed, limited, exceeds⟩
    rw [if_pos wait_le, if_neg limits]

theorem judge_of_breach (exceeded : profile.tier.ExceededBy wait)
    (bearable : profile.violations.toNat + 1 < budget.limit.toNat) :
    budget.judge profile wait =
      (.breach (countBreach profile.violations),
        { profile with violations := countBreach profile.violations }) := by
  rcases exceeded with ⟨allowed, limited, exceeds⟩
  simp only [judge, limited, if_neg (UInt64.not_le.mpr exceeds),
    if_pos ((countBreach_lt_iff _ _).mpr bearable)]

theorem judge_of_due (exceeded : profile.tier.ExceededBy wait)
    (due : budget.limit.toNat ≤ profile.violations.toNat + 1) :
    budget.judge profile wait =
      (.demotion profile.tier profile.tier.demoted,
        { profile.assign profile.tier.demoted budget.quantum with
          score := profile.score.penalized budget.penalty
          violations := 0 }) := by
  rcases exceeded with ⟨allowed, limited, exceeds⟩
  have unbearable : ¬countBreach profile.violations < budget.limit := by
    rw [countBreach_lt_iff]
    omega
  simp only [judge, limited, if_neg (UInt64.not_le.mpr exceeds), if_neg unbearable]

/-- A judgement that does not demote the task changes nothing but the counter. -/
theorem judge_of_spared
    (spared : ∀ source target, (budget.judge profile wait).1 ≠ .demotion source target) :
    (budget.judge profile wait).2 =
      { profile with violations := (budget.judge profile wait).2.violations } := by
  by_cases exceeded : profile.tier.ExceededBy wait
  · by_cases bearable : profile.violations.toNat + 1 < budget.limit.toNat
    · rw [judge_of_breach exceeded bearable]
    · have demotion := congrArg Prod.fst (judge_of_due exceeded (Nat.le_of_not_lt bearable))
      exact absurd demotion (spared _ _)
  · rw [judge_of_not_exceeded exceeded]

end Judge

/-- What can be done to the standing of a task. -/
inductive Call where
  /-- The task starts after this wait. -/
  | judge (wait : Nanos)
  /-- The task is assigned to another tier, with the slice for this quantum. -/
  | assign (tier : Tier) (quantum : Nanos)
deriving DecidableEq, Repr

variable (budget : WaitBudget) (profile : Profile)

def perform (profile : Profile) : Call → Profile
  | .judge wait => (budget.judge profile wait).2
  | .assign tier quantum => profile.assign tier quantum

/-- The profile after several calls, in order. -/
def performAll (calls : List Call) : Profile :=
  calls.foldl budget.perform profile

/-- The wait that a call judges, with the tier in which the task waited. -/
def judged? (profile : Profile) : Call → Option Wait
  | .judge wait => some ⟨wait, profile.tier, (budget.judge profile wait).1⟩
  | .assign _ _ => none

/-- The waits that were judged since the last judgement that ended a streak. -/
def streak (judged : List Wait) : List Wait :=
  judged.rtakeWhile fun wait => !wait.judgement.endsStreak

theorem streak_concat (judged : List Wait) (wait : Wait) :
    streak (judged ++ [wait]) =
      if wait.judgement.endsStreak then [] else streak judged ++ [wait] := by
  rw [streak, List.rtakeWhile_concat]
  cases wait.judgement.endsStreak with
  | false => rfl
  | true => rfl

/-- The counter of the profile is the length of the current streak. -/
structure Traces (profile : Profile) (judged : List Wait) : Prop where
  violations_eq : profile.violations.toNat = (streak judged).length
  violations_lt : profile.violations.toNat < budget.limit.toNat
  exceeded : ∀ wait ∈ streak judged, wait.tier.ExceededBy wait.duration

variable {budget profile}

theorem Traces.judge {judged : List Wait} (traces : budget.Traces profile judged) (wait : Nanos) :
    budget.Traces (budget.judge profile wait).2
      (judged ++ [⟨wait, profile.tier, (budget.judge profile wait).1⟩]) := by
  have ended {settled : Wait} (ends : settled.judgement.endsStreak = true) {next : Profile}
      (cleared : next.violations = 0) : budget.Traces next (judged ++ [settled]) := by
    have streak_eq : streak (judged ++ [settled]) = [] := by rw [streak_concat, if_pos ends]
    refine ⟨?_, ?_, ?_⟩
    · simp [streak_eq, cleared]
    · rw [cleared]
      exact Nat.lt_of_le_of_lt (Nat.zero_le _) traces.violations_lt
    · simp [streak_eq]
  by_cases exceeded : profile.tier.ExceededBy wait
  · by_cases bearable : profile.violations.toNat + 1 < budget.limit.toNat
    · rw [judge_of_breach exceeded bearable]
      have limitBound := budget.limit.toNat_lt
      have count_eq := toNat_countBreach profile.violations
      have longer := streak_concat judged
        ⟨wait, profile.tier, .breach (countBreach profile.violations)⟩
      rw [if_neg (by simp [Judgement.endsStreak])] at longer
      refine ⟨?_, ?_, ?_⟩
      · rw [longer, List.length_append, ← traces.violations_eq, List.length_singleton]
        dsimp only
        omega
      · dsimp only
        omega
      · intro breach member
        rw [longer] at member
        rcases List.mem_append.mp member with old | last
        · exact traces.exceeded breach old
        · rw [List.mem_singleton.mp last]
          exact exceeded
    · rw [judge_of_due exceeded (Nat.le_of_not_lt bearable)]
      exact ended rfl rfl
  · rw [judge_of_not_exceeded exceeded]
    refine ended ?_ rfl
    dsimp only
    split
    · rfl
    · rfl

theorem Traces.perform {judged : List Wait} (traces : budget.Traces profile judged) (call : Call) :
    budget.Traces (budget.perform profile call)
      (judged ++ (budget.judged? profile call).toList) := by
  cases call with
  | judge wait => exact traces.judge wait
  | assign tier quantum =>
      rw [judged?, Option.toList_none, List.append_nil]
      exact ⟨traces.violations_eq, traces.violations_lt, traces.exceeded⟩

end WaitBudget

end TierSched
