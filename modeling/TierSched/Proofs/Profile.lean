import TierSched.Task.Lifecycle

/-!
# What the life of a task does to its profile

The fields of a profile that decide what waits for its task are the phase, the tier in whose lane the
task waits, the generation, the tier and the slice. Here it is said what each event in the life of a
task does to these fields. An enqueue issues an entry unless the task waits already; a start ends
every wait; a stop moves the task to another tier only if it ran.
-/

namespace TierSched

namespace Generation

theorem toNat_next_le (generation : Generation) :
    generation.next.toNat ≤ generation.toNat + 1 := by
  rw [toNat_next]
  split
  · omega
  · omega

theorem lt_next {generation : Generation} (small : generation.toNat < UInt32.size - 1) :
    generation < generation.next := by
  rw [UInt32.lt_iff_toNat_lt, toNat_next]
  split
  · omega
  · omega

theorem untracked_lt_next (generation : Generation) : untracked < generation.next := by
  rw [UInt32.lt_iff_toNat_lt, toNat_next]
  change 0 < _
  split
  · omega
  · omega

end Generation

namespace Profile

variable (profile : Profile)

/-- The profile of a task whose current entry was claimed. -/
def claimed : Profile :=
  { profile with waitsIn := none }

variable {profile}

theorem claim_of_owns {generation : Generation} (owns : profile.Owns generation) :
    (profile.claim generation).2 = profile.claimed := by
  rw [claim, if_pos owns]
  rfl

theorem claim_of_not_owns {generation : Generation} (foreign : ¬profile.Owns generation) :
    (profile.claim generation).2 = profile := by
  rw [claim, if_neg foreign]

theorem enqueue_of_queued (queued : profile.phase = .queued) (now : Nanos) :
    profile.enqueue now = (none, profile) := by
  simp [enqueue, queued, Phase.isQueued]

theorem isQueued_eq_false {phase : Phase} (different : phase ≠ .queued) :
    phase.isQueued = false := by
  cases phase with
  | queued => contradiction
  | sleeping => rfl
  | waking => rfl
  | running => rfl
  | stopping => rfl

/-- A task that is not queued is pushed to the lane of its tier, with its slice and the next
generation. -/
theorem enqueue_of_not_queued (different : profile.phase ≠ .queued) (now : Nanos) :
    profile.enqueue now =
      (some ⟨profile.tier, profile.slice, profile.generation.next, profile.kickedOnWake⟩,
        { profile with
          phase := .queued
          runnableSince := if profile.phase.isRunnable then profile.runnableSince else now
          generation := profile.generation.next
          waitsIn := some profile.tier }) := by
  simp only [enqueue, isQueued_eq_false different, Bool.false_eq_true, if_false, moveTo, issueEntry]

variable (profile)

/-- A judgement reads and changes nothing but the standing of the task. -/
theorem judge_congr (budget : WaitBudget)
    (wait startedAt runnableSince totalRuntime : Nanos) (wakes runs : UInt32) :
    budget.judge { profile with startedAt, runnableSince, totalRuntime, wakes, runs } wait =
      ((budget.judge profile wait).1,
        { (budget.judge profile wait).2 with
          startedAt, runnableSince, totalRuntime, wakes, runs }) := by
  simp only [WaitBudget.judge]
  cases profile.tier.waitBudget? with
  | none => rfl
  | some allowed =>
      dsimp only
      split
      · rfl
      · split <;> rfl

/-- A start changes what belongs to the run, and what the judgement of the wait changes. -/
theorem start_eq (budget : WaitBudget) (now : Nanos) :
    ∃ score tier slice violations, (profile.start budget now).2 =
      { profile with
        phase := .running, waitsIn := none, startedAt := now, kickedInRun := false
        kickedOnWake := false, runs := profile.runs + 1, score, tier, slice, violations } := by
  simp only [start]
  split
  · rcases WaitBudget.judge_eq budget _ (Nanos.elapsed profile.runnableSince now) with
      ⟨score, tier, slice, violations, judged_eq⟩
    exact ⟨score, tier, slice, violations, judged_eq⟩
  · exact ⟨profile.score, profile.tier, profile.slice, profile.violations, rfl⟩

theorem start_frame (budget : WaitBudget) (now : Nanos) :
    (profile.start budget now).2.phase = .running ∧
      (profile.start budget now).2.waitsIn = none ∧
        (profile.start budget now).2.generation = profile.generation := by
  rcases profile.start_eq budget now with ⟨score, tier, slice, violations, start_eq⟩
  rw [start_eq]
  exact ⟨rfl, rfl, rfl⟩

/-- The profile of a task that has just started, before its wait is judged. -/
def begun (now : Nanos) : Profile :=
  { profile.moveTo .running with
    waitsIn := none
    startedAt := now
    kickedInRun := false
    kickedOnWake := false
    runs := profile.runs + 1 }

/-- If the task could run, its start judges how long it waited. -/
theorem start_of_runnable {profile : Profile} (runnable : profile.phase.isRunnable = true)
    (budget : WaitBudget) (now : Nanos) :
    profile.start budget now =
      (⟨(budget.judge (profile.begun now) (Nanos.elapsed profile.runnableSince now)).2.tier,
          some ⟨Nanos.elapsed profile.runnableSince now, profile.tier,
            (budget.judge (profile.begun now) (Nanos.elapsed profile.runnableSince now)).1⟩,
          profile.waitsIn, profile.phase.permits .running⟩,
        (budget.judge (profile.begun now) (Nanos.elapsed profile.runnableSince now)).2) := by
  rw [start, if_pos runnable]
  rfl

/-- If the task could not run, its start judges nothing. -/
theorem start_of_not_runnable {profile : Profile} (unready : ¬profile.phase.isRunnable = true)
    (budget : WaitBudget) (now : Nanos) :
    profile.start budget now =
      (⟨profile.tier, none, profile.waitsIn, profile.phase.permits .running⟩,
        profile.begun now) := by
  rw [start, if_neg unready]
  rfl

/-- A start reports the lane in which the task still waits. -/
theorem undispatched_start (budget : WaitBudget) (now : Nanos) :
    (profile.start budget now).1.undispatched = profile.waitsIn := by
  simp only [start]
  split <;> rfl

/-- A start reports the tier in which the task runs. -/
theorem tier_start (budget : WaitBudget) (now : Nanos) :
    (profile.start budget now).1.tier = (profile.start budget now).2.tier := by
  simp only [start]
  split <;> rfl

theorem stop_frame (config : Config) (now : Nanos) (requeue : Bool) :
    (profile.stop config now requeue).2.phase ≠ .running ∧
      (profile.stop config now requeue).2.phase ≠ .queued ∧
        (profile.stop config now requeue).2.waitsIn = profile.waitsIn ∧
          (profile.stop config now requeue).2.generation = profile.generation := by
  simp only [stop]
  split
  · cases requeue <;> simp [moveTo, account, assign]
  · cases requeue <;> simp [moveTo]

theorem stop_of_not_running {profile : Profile} (idle : profile.phase ≠ .running)
    (config : Config) (now : Nanos) (requeue : Bool) :
    (profile.stop config now requeue).2 =
      profile.moveTo (if requeue then .stopping else .sleeping) := by
  simp only [stop, if_neg idle]

theorem checkCeiling_eq (ceiling : Tier → Nanos) (now : Nanos) :
    ∃ kicked, (profile.checkCeiling ceiling now).2 = { profile with kickedInRun := kicked } := by
  simp only [checkCeiling]
  split
  · exact ⟨true, rfl⟩
  · exact ⟨profile.kickedInRun, rfl⟩

end Profile

end TierSched
