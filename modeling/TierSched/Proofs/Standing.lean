import TierSched.Proofs.Course
import TierSched.Proofs.TaskStep

/-!
# The standing of a task

The score, the tier, the slice and the number of breaches make up the standing of a task. They are
written when a task is first seen, when a wait is judged and when a run ends, each time together, and
`Profile.WellFormed` says what this keeps: the score and the breaches stay within their limits, and the
slice is the one that belongs to the tier. Only a new task that was never judged to be demoted has the
slice of new tasks.

`Profile.TierStep` says what an event does to the tier and to the mark of new tasks. The end of a run
classifies the task anew, a breach too many demotes it by one tier, and no other event moves it. The
mark is taken away when a run ends, so a task carries it exactly if no run of it has ended since it was
first seen or since it exited, which is followed through the history.
-/

namespace TierSched

namespace Profile

/-- The standing is within the limits of the configuration. -/
structure WellFormed (config : Config) (profile : Profile) : Prop where
  score_le : profile.score ≤ Score.maximum
  violations_lt : profile.violations < config.violationLimit
  /-- The slice is the one of the tier, or for a new task in its first tier the one of new tasks. -/
  slice_eq : profile.slice = profile.tier.slice config.quantum ∨
    profile.isNew = true ∧ profile.tier = .interactive ∧
      profile.slice.toNat = config.quantum.toNat + config.newTaskBonus.toNat

/-- The judgement of the wait that ends when the task starts, none if the task could not run. -/
def verdict? (profile : Profile) (config : Config) (now : Nanos) : Option Judgement :=
  (profile.start config.waitBudget now).1.wait.map Wait.judgement

/-- What an event does to the tier of a task and to the mark of new tasks. -/
inductive TierStep (config : Config) (now : Nanos) (task : TaskId) (event : Event)
    (before after : Profile) : Prop where
  | kept
      (unended : ∀ unit requeue, event = .stop unit task requeue → before.phase ≠ .running)
      (spared : ∀ unit, event = .start unit task →
        ∀ source target, before.verdict? config now ≠ some (.demotion source target))
      (tier_eq : after.tier = before.tier) (isNew_eq : after.isNew = before.isNew)
  | demoted (unit : Nat) (started : event = .start unit task)
      (judged : before.verdict? config now = some (.demotion before.tier after.tier))
      (tier_eq : after.tier = before.tier.demoted)
      (rank_eq : (after.tier.rank : Nat) = before.tier.rank + 1)
      (isNew_eq : after.isNew = before.isNew)
  | classified (unit : Nat) (requeue : Bool) (stopped : event = .stop unit task requeue)
      (running : before.phase = .running)
      (score_eq : after.score =
        before.score.afterRun (Nanos.elapsed before.startedAt now) config.shortRunThreshold)
      (runtime_eq : after.runtime =
        before.runtime.add (Nanos.elapsed before.startedAt now))
      (tier_eq : after.tier = after.score.tier after.runtime.average config.criticalGate)
      (isNew_eq : after.isNew = false)

end Profile

section Judging

variable {config : Config}

theorem Config.Accepted.limit_waitBudget (accepted : config.Accepted) :
    config.waitBudget.limit = config.violationLimit := by
  simp [Config.waitBudget, accepted.violationLimit_ne_zero]

theorem Config.Accepted.violationLimit_pos (accepted : config.Accepted) :
    0 < config.violationLimit := by
  have different := accepted.violationLimit_ne_zero
  rw [UInt8.lt_iff_toNat_lt]
  apply Nat.pos_of_ne_zero
  intro zero
  exact different (UInt8.toNat_inj.mp zero)

/-- A demotion moves a task down by exactly one tier, and no other judgement moves it. -/
theorem WaitBudget.tier_judge (budget : WaitBudget) (profile : Profile) (wait : Nanos) :
    ((budget.judge profile wait).1 =
        .demotion profile.tier (budget.judge profile wait).2.tier ∧
      (budget.judge profile wait).2.tier = profile.tier.demoted ∧
      ((budget.judge profile wait).2.tier.rank : Nat) = profile.tier.rank + 1) ∨
    ((∀ source target, (budget.judge profile wait).1 ≠ .demotion source target) ∧
      (budget.judge profile wait).2.tier = profile.tier) := by
  unfold judge
  split
  · exact Or.inr ⟨by simp, rfl⟩
  · rename_i allowed budgeted
    split
    · exact Or.inr ⟨by simp, rfl⟩
    · dsimp only
      split
      · exact Or.inr ⟨by simp, rfl⟩
      · exact Or.inl ⟨rfl, rfl, Tier.rank_demoted_of_budgeted budgeted⟩

end Judging

namespace Profile

variable {config : Config}

theorem wellFormed_fresh (accepted : config.Accepted) : (fresh config).WellFormed config := by
  have neutral_le : Score.neutral ≤ Score.maximum := by decide
  refine ⟨neutral_le, accepted.violationLimit_pos, Or.inr ⟨rfl, rfl, ?_⟩⟩
  have quantumBound := UInt64.le_iff_toNat_le.mp accepted.quantum_le
  have bonusBound := UInt64.le_iff_toNat_le.mp accepted.newTaskBonus_le
  simp only [fresh, Config.newTaskSlice, Nanos.toNat_clampedAdd]
  simp only [Config.quantumLimit, UInt64.reduceToNat] at quantumBound bonusBound
  apply Nat.min_eq_left
  simp only [UInt64.size]
  omega

namespace WellFormed

variable {profile : Profile}

theorem judge (wellFormed : profile.WellFormed config) (accepted : config.Accepted)
    (wait : Nanos) : (config.waitBudget.judge profile wait).2.WellFormed config := by
  have unbroken := accepted.violationLimit_pos
  unfold WaitBudget.judge
  split
  · exact ⟨wellFormed.score_le, unbroken, wellFormed.slice_eq⟩
  · split
    · exact ⟨wellFormed.score_le, unbroken, wellFormed.slice_eq⟩
    · dsimp only
      split
      · rename_i tolerated
        rw [accepted.limit_waitBudget] at tolerated
        exact ⟨wellFormed.score_le, tolerated, wellFormed.slice_eq⟩
      · refine ⟨?_, unbroken, Or.inl rfl⟩
        exact UInt8.le_trans (profile.score.penalized_le _) wellFormed.score_le

theorem start (wellFormed : profile.WellFormed config) (accepted : config.Accepted)
    (now : Nanos) : (profile.start config.waitBudget now).2.WellFormed config := by
  have begun : (profile.begun now).WellFormed config :=
    ⟨wellFormed.score_le, wellFormed.violations_lt, wellFormed.slice_eq⟩
  by_cases runnable : profile.phase.isRunnable = true
  · rw [start_of_runnable runnable]
    exact begun.judge accepted _
  · rw [start_of_not_runnable runnable]
    exact begun

theorem stop (wellFormed : profile.WellFormed config) (now : Nanos) (requeue : Bool) :
    (profile.stop config now requeue).2.WellFormed config := by
  simp only [Profile.stop]
  split
  · exact ⟨Score.afterRun_le_maximum _ _ _, wellFormed.violations_lt, Or.inl rfl⟩
  · exact ⟨wellFormed.score_le, wellFormed.violations_lt, wellFormed.slice_eq⟩

end WellFormed

/-- A running task has no wait to judge. -/
theorem verdict?_of_running (profile : Profile) (config : Config) (now : Nanos)
    (running : profile.phase = .running) : profile.verdict? config now = none := by
  have unready : ¬profile.phase.isRunnable = true := by simp [running, Phase.isRunnable]
  simp [verdict?, start_of_not_runnable unready]

theorem tierStep_start (profile : Profile) (now : Nanos) (unit : Nat) (task : TaskId) :
    profile.TierStep config now task (.start unit task)
      (profile.start config.waitBudget now).2 := by
  have unended : ∀ other requeue, Event.start unit task = .stop other task requeue →
      profile.phase ≠ .running := by
    simp
  rcases profile.start_eq config.waitBudget now with ⟨score, tier, slice, violations, start_eq⟩
  have isNew_eq : (profile.start config.waitBudget now).2.isNew = profile.isNew := by
    rw [start_eq]
  by_cases runnable : profile.phase.isRunnable = true
  · have verdict_eq : profile.verdict? config now = some (config.waitBudget.judge (profile.begun now)
        (Nanos.elapsed profile.runnableSince now)).1 := by
      rw [verdict?, start_of_runnable runnable]
      rfl
    rw [start_of_runnable runnable] at isNew_eq ⊢
    rcases config.waitBudget.tier_judge (profile.begun now)
      (Nanos.elapsed profile.runnableSince now) with ⟨demotion, tier_eq, rank_eq⟩ | ⟨spared, tier_eq⟩
    · exact .demoted unit rfl (verdict_eq.trans (congrArg some demotion)) tier_eq rank_eq isNew_eq
    · refine .kept unended ?_ tier_eq isNew_eq
      intro _ _ source target demoted
      exact spared source target (Option.some.inj (verdict_eq.symm.trans demoted))
  · rw [start_of_not_runnable runnable] at isNew_eq ⊢
    refine .kept unended ?_ rfl isNew_eq
    simp [verdict?, start_of_not_runnable runnable]

theorem tierStep_stop (profile : Profile) (now : Nanos) (unit : Nat) (task : TaskId)
    (requeue : Bool) :
    profile.TierStep config now task (.stop unit task requeue)
      (profile.stop config now requeue).2 := by
  by_cases running : profile.phase = .running
  · simp only [stop, if_pos running]
    exact .classified unit requeue rfl running rfl rfl rfl rfl
  · rw [stop_of_not_running running]
    exact .kept (fun _ _ _ => running) (by simp) rfl rfl

end Profile

namespace TaskView

variable {config : Config} {now : Nanos} {task : TaskId} {event : Event} {before after : TaskView}

theorem Observes.wellFormed {profile : Profile} (observed : before.Observes config profile)
    (accepted : config.Accepted)
    (wellFormed : ∀ profile, before.profile? = some profile → profile.WellFormed config) :
    profile.WellFormed config := by
  rcases observed with tracked | ⟨_, rfl⟩
  · exact wellFormed profile tracked
  · exact Profile.wellFormed_fresh accepted

theorem Step.wellFormed (step : Step config now task event before after)
    (accepted : config.Accepted)
    (wellFormed : ∀ profile, before.profile? = some profile → profile.WellFormed config)
    {next : Profile} (tracked : after.profile? = some next) : next.WellFormed config := by
  cases step with
  | unaffected untracked => exact wellFormed next tracked
  | wake previous previousUnit flags kicked observed =>
      rcases observed.wellFormed accepted wellFormed with ⟨score_le, violations_lt, slice_eq⟩
      rw [← Option.some.inj tracked]
      exact ⟨score_le, violations_lt, slice_eq⟩
  | enqueue previous flags observed unqueued =>
      rcases observed.wellFormed accepted wellFormed with ⟨score_le, violations_lt, slice_eq⟩
      rw [← Option.some.inj tracked, Profile.enqueue_of_not_queued unqueued]
      exact ⟨score_le, violations_lt, slice_eq⟩
  | refuse previous flags wasTracked queued => exact wellFormed next tracked
  | enqueueUntracked flags slice untracked => contradiction
  | pass unit left split => exact wellFormed next tracked
  | handOut unit source entry left live split =>
      rcases Option.map_eq_some_iff.mp tracked with ⟨previous, wasTracked, rfl⟩
      rcases wellFormed previous wasTracked with ⟨score_le, violations_lt, slice_eq⟩
      exact ⟨score_le, violations_lt, slice_eq⟩
  | start previous unit observed =>
      rw [← Option.some.inj tracked]
      exact (observed.wellFormed accepted wellFormed).start accepted now
  | stop previous unit requeue wasTracked =>
      rw [← Option.some.inj tracked]
      exact (wellFormed previous wasTracked).stop now requeue
  | tick previous unit wasTracked =>
      rcases previous.checkCeiling_eq config.runCeiling now with ⟨kicked, after_eq⟩
      rcases wellFormed previous wasTracked with ⟨score_le, violations_lt, slice_eq⟩
      rw [← Option.some.inj tracked, after_eq]
      exact ⟨score_le, violations_lt, slice_eq⟩
  | exit => contradiction

/-- Every event of a task that is tracked afterwards moves its tier as listed; a task that was not
tracked starts out with a fresh profile. -/
theorem Step.tierStep (step : Step config now task event before after) {next : Profile}
    (tracked : after.profile? = some next) :
    ∃ previous, before.Observes config previous ∧
      previous.TierStep config now task event next := by
  cases step with
  | unaffected untracked =>
      refine ⟨next, Or.inl tracked, .kept ?_ ?_ rfl rfl⟩
      · rintro unit requeue rfl
        rw [(untracked rfl).1] at tracked
        contradiction
      · rintro unit rfl
        rw [(untracked rfl).1] at tracked
        contradiction
  | wake previous previousUnit flags kicked observed =>
      rw [← Option.some.inj tracked]
      exact ⟨previous, observed, .kept (by simp) (by simp) rfl rfl⟩
  | enqueue previous flags observed unqueued =>
      rw [← Option.some.inj tracked, Profile.enqueue_of_not_queued unqueued]
      exact ⟨previous, observed, .kept (by simp) (by simp) rfl rfl⟩
  | refuse previous flags wasTracked queued =>
      exact ⟨next, Or.inl tracked, .kept (by simp) (by simp) rfl rfl⟩
  | enqueueUntracked flags slice untracked => contradiction
  | pass unit left split => exact ⟨next, Or.inl tracked, .kept (by simp) (by simp) rfl rfl⟩
  | handOut unit source entry left live split =>
      rcases Option.map_eq_some_iff.mp tracked with ⟨previous, wasTracked, rfl⟩
      exact ⟨previous, Or.inl wasTracked, .kept (by simp) (by simp) rfl rfl⟩
  | start previous unit observed =>
      rw [← Option.some.inj tracked]
      exact ⟨previous, observed, previous.tierStep_start now unit task⟩
  | stop previous unit requeue wasTracked =>
      rw [← Option.some.inj tracked]
      exact ⟨previous, Or.inl wasTracked, previous.tierStep_stop now unit task requeue⟩
  | tick previous unit wasTracked =>
      rcases previous.checkCeiling_eq config.runCeiling now with ⟨kicked, after_eq⟩
      rw [← Option.some.inj tracked, after_eq]
      exact ⟨previous, Or.inl wasTracked, .kept (by simp) (by simp) rfl rfl⟩
  | exit => contradiction

/-- A task that goes on running stays in its tier, even if it starts once more. -/
theorem Step.tier_of_running (step : Step config now task event before after)
    {previous next : Profile} (wasTracked : before.profile? = some previous)
    (wasRunning : previous.phase = .running) (tracked : after.profile? = some next)
    (running : next.phase = .running) : next.tier = previous.tier := by
  rcases step.tierStep tracked with ⟨origin, observed, moved⟩
  rw [observed.eq_of_tracked wasTracked] at moved
  cases moved with
  | kept unended spared tier_eq isNew_eq => exact tier_eq
  | demoted unit started judged tier_eq rank_eq isNew_eq =>
      rw [previous.verdict?_of_running config now wasRunning] at judged
      contradiction
  | classified unit requeue stopped _ score_eq runtime_eq tier_eq isNew_eq =>
      subst stopped
      cases step with
      | unaffected untracked =>
          rw [(untracked rfl).1] at tracked
          contradiction
      | stop origin _ _ _ =>
          rw [← Option.some.inj tracked] at running
          exact absurd running (origin.stop_frame config now requeue).1

/-- The task is tracked and does not carry the mark of new tasks. -/
def Seasoned (view : TaskView) : Prop :=
  ∃ profile, view.profile? = some profile ∧ profile.isNew = false

/-- The event ends a run of the task. -/
def EndsRun (view : TaskView) (task : TaskId) (event : Event) : Prop :=
  ∃ unit requeue profile, event = .stop unit task requeue ∧ view.profile? = some profile ∧
    profile.phase = .running

theorem EndsRun.seasoned (ends : before.EndsRun task event)
    (step : Step config now task event before after) : after.Seasoned := by
  rcases ends with ⟨unit, requeue, profile, rfl, tracked, running⟩
  rcases step.remains_tracked tracked (by simp) with ⟨next, nextTracked⟩
  rcases step.tierStep nextTracked with ⟨previous, observed, moved⟩
  rw [observed.eq_of_tracked tracked] at moved
  refine ⟨next, nextTracked, ?_⟩
  cases moved with
  | kept unended spared tier_eq isNew_eq => exact absurd running (unended unit requeue rfl)
  | demoted unit started judged tier_eq rank_eq isNew_eq => contradiction
  | classified unit requeue stopped running score_eq runtime_eq tier_eq isNew_eq => exact isNew_eq

theorem Seasoned.step (seasoned : before.Seasoned) (step : Step config now task event before after)
    (stays : event ≠ .exit task) : after.Seasoned := by
  rcases seasoned with ⟨profile, tracked, old⟩
  rcases step.remains_tracked tracked stays with ⟨next, nextTracked⟩
  rcases step.tierStep nextTracked with ⟨previous, observed, moved⟩
  rw [observed.eq_of_tracked tracked] at moved
  refine ⟨next, nextTracked, ?_⟩
  cases moved with
  | kept unended spared tier_eq isNew_eq => exact isNew_eq.trans old
  | demoted unit started judged tier_eq rank_eq isNew_eq => exact isNew_eq.trans old
  | classified unit requeue stopped running score_eq runtime_eq tier_eq isNew_eq => exact isNew_eq

/-- A task that has lost the mark had lost it before, or a run of it just ended. -/
theorem Seasoned.origin (seasoned : after.Seasoned)
    (step : Step config now task event before after) :
    (before.Seasoned ∧ event ≠ .exit task) ∨ before.EndsRun task event := by
  rcases seasoned with ⟨next, nextTracked, old⟩
  have stays : event ≠ .exit task := by
    rintro rfl
    cases step with
    | unaffected untracked =>
        rw [(untracked rfl).1] at nextTracked
        contradiction
    | exit => contradiction
  rcases step.tierStep nextTracked with ⟨previous, observed, moved⟩
  have kept (isNew_eq : next.isNew = previous.isNew) : before.Seasoned := by
    rcases observed with tracked | ⟨_, rfl⟩
    · exact ⟨previous, tracked, isNew_eq.symm.trans old⟩
    · rw [isNew_eq] at old
      contradiction
  cases moved with
  | kept unended spared tier_eq isNew_eq => exact Or.inl ⟨kept isNew_eq, stays⟩
  | demoted unit started judged tier_eq rank_eq isNew_eq => exact Or.inl ⟨kept isNew_eq, stays⟩
  | classified unit requeue stopped running score_eq runtime_eq tier_eq isNew_eq =>
      rcases observed with tracked | ⟨_, rfl⟩
      · exact Or.inr ⟨unit, requeue, previous, stopped, tracked, running⟩
      · contradiction

end TaskView

namespace Scheduler

/-- A run of the task ended in the history, and the task has not exited since. -/
def RanIn (initial : Scheduler) (history : List (Nanos × Event)) (task : TaskId) : Prop :=
  initial.Since (fun scheduler _ event => (scheduler.view task).EndsRun task event)
    (fun _ event => event ≠ .exit task) history

end Scheduler

namespace Execution

variable (execution : Execution) (task : TaskId)

/-- What every event preserves of the profile of a task, if there is one, holds of it at the end of
every execution. -/
theorem profile_induction {Holds : Profile → Prop}
    (step : ∀ now event before after,
      TaskView.Step execution.config now task event before after →
      (∀ profile, before.profile? = some profile → Holds profile) →
      ∀ profile, after.profile? = some profile → Holds profile)
    (profile : Profile) (tracked : execution.scheduler.profile? task = some profile) :
    Holds profile := by
  have holds := execution.induction (motive := fun _ scheduler =>
    scheduler.config = execution.config ∧
      ∀ profile, scheduler.profile? task = some profile → Holds profile) ?_ ?_
  · exact holds.2 profile tracked
  · refine ⟨rfl, ?_⟩
    intro profile tracked
    simp [Scheduler.profile?, Scheduler.initial] at tracked
  · rintro _ scheduler now event ⟨config_eq, held⟩
    have handled := scheduler.step_of_handle now task event
    rw [config_eq] at handled
    exact ⟨(scheduler.config_handle now event).trans config_eq, step now event _ _ handled held⟩

theorem wellFormed (profile : Profile) (tracked : execution.scheduler.profile? task = some profile) :
    profile.WellFormed execution.config := by
  apply execution.profile_induction task ?_ profile tracked
  intro now event before after step wellFormed next nextTracked
  exact step.wellFormed execution.accepted wellFormed nextTracked

theorem seasoned_iff :
    (execution.scheduler.view task).Seasoned ↔
      execution.initial.RanIn execution.history task := by
  apply Scheduler.holds_iff_since (motive := fun scheduler => (scheduler.view task).Seasoned)
  · rintro ⟨profile, tracked, _⟩
    cases (execution.profile?_initial task).symm.trans tracked
  · intro scheduler now event
    have step := scheduler.step_of_handle now task event
    constructor
    · intro seasoned
      exact (seasoned.origin step).symm
    · rintro (ends | ⟨seasoned, stays⟩)
      · exact ends.seasoned step
      · exact seasoned.step step stays

/-- The standing of every tracked task is within its limits. It carries the mark of new tasks until a
run of it ends, and its tier moves only when a run ends or when it is demoted by one tier at a start. -/
theorem standing (profile : Profile)
    (tracked : execution.scheduler.profile? task = some profile) :
    profile.WellFormed execution.config ∧
      (profile.isNew = false ↔ execution.initial.RanIn execution.history task) ∧
        ∀ now event next,
          (execution.scheduler.handle now event).scheduler.profile? task = some next →
            profile.TierStep execution.config now task event next := by
  refine ⟨execution.wellFormed task profile tracked, ?_, ?_⟩
  · rw [← seasoned_iff]
    constructor
    · intro old
      exact ⟨profile, tracked, old⟩
    · rintro ⟨same, same_eq, old⟩
      change execution.scheduler.profile? task = some same at same_eq
      rw [tracked] at same_eq
      rwa [Option.some.inj same_eq]
  · intro now event next nextTracked
    have step := execution.scheduler.step_of_handle now task event
    rw [execution.config_eq] at step
    rcases step.tierStep nextTracked with ⟨previous, observed, moved⟩
    rwa [observed.eq_of_tracked tracked] at moved

/-- A new task waits for too long before its first run. -/
def lateFirstRun : Execution :=
  ofConfig { violationLimit := 1 } (by decide)
    [(1000, .wake 1 none ⟨false, false⟩), (5000000, .start 0 1)]

/-- The late first run demotes the task, which is still new but has the slice of its tier. The end of
the run moves it again. -/
theorem standing_of_late_first_run :
    ∃ profile, lateFirstRun.scheduler.profile? 1 = some profile ∧ profile.isNew = true ∧
      profile.tier = .batch ∧ profile.slice = 2400000 ∧
        profile.WellFormed lateFirstRun.config ∧
          ¬lateFirstRun.initial.RanIn lateFirstRun.history 1 ∧
            ∃ next, (lateFirstRun.scheduler.handle 5000100 (.stop 0 1 false)).scheduler.profile? 1 =
                some next ∧ next.tier = .background ∧
              profile.TierStep lateFirstRun.config 5000100 1 (.stop 0 1 false) next := by
  have demoted : (lateFirstRun.scheduler.profile? 1).map
      (fun profile => (profile.isNew, profile.tier, profile.slice)) =
        some (true, .batch, 2400000) := by
    decide +kernel
  have stopped : ((lateFirstRun.scheduler.handle 5000100 (.stop 0 1 false)).scheduler.profile?
      1).map Profile.tier = some .background := by
    decide +kernel
  rcases Option.map_eq_some_iff.mp demoted with ⟨profile, tracked, standing_eq⟩
  rcases Option.map_eq_some_iff.mp stopped with ⟨next, nextTracked, tier_eq⟩
  rcases lateFirstRun.standing 1 profile tracked with ⟨wellFormed, seasoned_iff, moves⟩
  simp only [Prod.mk.injEq] at standing_eq
  rcases standing_eq with ⟨isNew_eq, batch_eq, slice_eq⟩
  refine ⟨profile, tracked, isNew_eq, batch_eq, slice_eq, wellFormed, ?_, next, nextTracked,
    tier_eq, moves _ _ next nextTracked⟩
  rw [← seasoned_iff, isNew_eq]
  simp

end Execution

end TierSched
