import TierSched.Proofs.Counting
import TierSched.Proofs.Course
import TierSched.Proofs.TaskStep

/-!
# Where a measured wait begins

When a task starts, the time for which it could run but did not is judged and counted. A wait begins with
a wake-up, with an enqueue of a task that could not run before, and with a stop after which the task is
queued again. As long as a task is stopped only while it runs, `Profile.runnableSince` is the reading of
the latest of these events, and the task could run ever since; so a measured wait contains no time in which
the task slept or ran.

A start of a task that could not run judges no wait and leaves the standing of the task alone.
-/

namespace TierSched

namespace TaskView

/-- The task is tracked, and it can run but does not. -/
def CanRun (view : TaskView) : Prop :=
  ∃ profile, view.profile? = some profile ∧ profile.phase.isRunnable = true

/-- The event begins a wait of the task. -/
def WaitBegins (view : TaskView) (task : TaskId) : Event → Prop
  | .wake woken _ _ => woken = task
  | .enqueue queued _ => queued = task ∧ ¬view.CanRun
  | .stop _ stopped requeue => stopped = task ∧ requeue = true
  | .dispatch _ | .start _ _ | .tick _ _ | .changeIdle _ _ | .exit _ => False

variable {config : Config} {now : Nanos} {task : TaskId} {event : Event} {before after : TaskView}

theorem task?_of_waitBegins (begins : before.WaitBegins task event) : event.task? = some task := by
  cases event with
  | wake woken previous flags => exact congrArg some begins
  | enqueue queued flags => exact congrArg some begins.1
  | stop unit stopped requeue => exact congrArg some begins.1
  | _ => exact False.elim begins

/-- A task that is not tracked yet cannot run. -/
theorem Observes.tracked_of_runnable {profile : Profile} (observed : before.Observes config profile)
    (runnable : profile.phase.isRunnable = true) : before.profile? = some profile := by
  rcases observed with tracked | ⟨_, rfl⟩
  · exact tracked
  · contradiction

/-- A task that can run after an event waits from this event on, or it goes on with its wait. -/
theorem Step.wait_origin (step : Step config now task event before after)
    (regular : ∀ unit requeue, event = .stop unit task requeue →
      ∀ profile, before.profile? = some profile → profile.phase = .running)
    {profile : Profile} (tracked : after.profile? = some profile)
    (runnable : profile.phase.isRunnable = true) :
    (before.WaitBegins task event ∧ profile.runnableSince = now) ∨
      ¬before.WaitBegins task event ∧ ∃ previous, before.profile? = some previous ∧
        previous.phase.isRunnable = true ∧ profile.runnableSince = previous.runnableSince := by
  cases step with
  | unaffected untracked =>
      refine Or.inr ⟨?_, profile, tracked, runnable, rfl⟩
      intro begins
      rw [(untracked (task?_of_waitBegins begins)).1] at tracked
      contradiction
  | wake previous previousUnit flags kicked observed =>
      rw [← Option.some.inj tracked]
      exact Or.inl ⟨rfl, rfl⟩
  | enqueue previous flags observed unqueued =>
      rw [← Option.some.inj tracked, Profile.enqueue_of_not_queued unqueued]
      by_cases waited : previous.phase.isRunnable = true
      · have wasTracked := observed.tracked_of_runnable waited
        refine Or.inr ⟨fun begins => begins.2 ⟨previous, wasTracked, waited⟩, previous, wasTracked,
          waited, if_pos waited⟩
      · refine Or.inl ⟨⟨rfl, ?_⟩, if_neg waited⟩
        rintro ⟨same, same_eq, could⟩
        rw [observed.eq_of_tracked same_eq] at waited
        exact waited could
  | refuse previous flags wasTracked queued =>
      refine Or.inr ⟨fun begins => begins.2 ⟨profile, tracked, runnable⟩, profile, tracked, runnable,
        rfl⟩
  | enqueueUntracked flags slice untracked => contradiction
  | pass unit left split => exact Or.inr ⟨id, profile, tracked, runnable, rfl⟩
  | handOut unit source entry left live split =>
      rcases Option.map_eq_some_iff.mp tracked with ⟨previous, wasTracked, rfl⟩
      exact Or.inr ⟨id, previous, wasTracked, runnable, rfl⟩
  | start previous unit observed =>
      rw [← Option.some.inj tracked, (previous.start_frame config.waitBudget now).1] at runnable
      contradiction
  | stop previous unit requeue wasTracked =>
      -- a stop of a task that sleeps would leave the reading of an earlier wait in use
      have running := regular unit requeue rfl previous wasTracked
      rw [← Option.some.inj tracked] at runnable ⊢
      simp only [Profile.stop, if_pos running] at runnable ⊢
      cases requeue with
      | false => contradiction
      | true => exact Or.inl ⟨⟨rfl, rfl⟩, rfl⟩
  | tick previous unit wasTracked =>
      rcases previous.checkCeiling_eq config.runCeiling now with ⟨kicked, after_eq⟩
      rw [← Option.some.inj tracked, after_eq] at runnable ⊢
      exact Or.inr ⟨id, previous, wasTracked, runnable, rfl⟩
  | exit => contradiction

end TaskView

namespace Scheduler

/-- The latest wait of the task began at the reading `since`, and the task could run ever since. -/
def WaitsSince (initial : Scheduler) (history : List (Nanos × Event)) (task : TaskId)
    (since : Nanos) : Prop :=
  initial.Since
      (fun scheduler now event => now = since ∧ (scheduler.view task).WaitBegins task event)
      (fun scheduler event =>
        (scheduler.view task).CanRun ∧ ¬(scheduler.view task).WaitBegins task event) history ∧
    ((initial.after history).view task).CanRun

section WaitsSince

variable {initial : Scheduler} {history : List (Nanos × Event)} {task : TaskId}

/-- A task that can run waits since the reading that its profile holds. -/
theorem waitsSince_of_runnable (unknown : initial.profile? task = none)
    (regular : initial.Along (StopsOnlyRunning task) history) {profile : Profile}
    (tracked : (initial.after history).profile? task = some profile)
    (runnable : profile.phase.isRunnable = true) :
    initial.WaitsSince history task profile.runnableSince := by
  refine after_induction (motive := fun history scheduler =>
    initial.Along (StopsOnlyRunning task) history →
      ∀ profile, scheduler.profile? task = some profile → profile.phase.isRunnable = true →
        initial.WaitsSince history task profile.runnableSince)
    initial ?_ ?_ history regular profile tracked runnable
  · intro _ profile tracked
    rw [unknown] at tracked
    contradiction
  · intro history now event ih regular profile tracked runnable
    rw [along_concat] at regular
    have step := (initial.after history).step_of_handle now task event
    have permitted : ∀ unit requeue, event = .stop unit task requeue →
        ∀ profile, (initial.after history).profile? task = some profile →
          profile.phase = .running := by
      rintro unit requeue rfl profile found
      exact regular.2 rfl profile found
    have canRun : ((initial.after (history ++ [(now, event)])).view task).CanRun := by
      rw [after_concat]
      exact ⟨profile, tracked, runnable⟩
    refine ⟨Scheduler.since_concat.mpr ?_, canRun⟩
    rcases step.wait_origin permitted tracked runnable with
      ⟨begins, since_eq⟩ | ⟨continues, previous, wasTracked, could, since_eq⟩
    · exact Or.inl ⟨since_eq.symm, begins⟩
    · rw [since_eq]
      rcases ih regular.1 previous wasTracked could with ⟨waits, couldRun⟩
      exact Or.inr ⟨waits, couldRun, continues⟩

end WaitsSince

end Scheduler

namespace Scheduler

variable (scheduler : Scheduler) (now : Nanos) (task : TaskId)

/-- Exactly the start of a task that could run judges a wait. -/
theorem judgedWait?_eq_none_iff :
    scheduler.judgedWait? now task = none ↔ ¬(scheduler.view task).CanRun := by
  rw [judgedWait?_eq, Option.bind_eq_none_iff]
  constructor
  · rintro unjudged ⟨profile, tracked, runnable⟩
    have wait_eq := unjudged profile tracked
    rw [Profile.start_of_runnable runnable] at wait_eq
    contradiction
  · intro slept profile tracked
    by_cases runnable : profile.phase.isRunnable = true
    · exact absurd ⟨profile, tracked, runnable⟩ slept
    · rw [Profile.start_of_not_runnable runnable]

end Scheduler

namespace Execution

variable (execution : Execution) (task : TaskId)

/-- In an execution that stops the task only while it runs, a start counts the wait that it judges. This
wait is the time since the latest event that began one, and the task could run ever since. Exactly the
start of a task that could not run judges no wait; it leaves its tier, its score and its breaches as they
are. -/
theorem measured_wait
    (regular : execution.initial.Along (Scheduler.StopsOnlyRunning task) execution.history)
    (now : Nanos) (unit : Nat) :
    (execution.scheduler.handle now (.start unit task)).scheduler.statistics =
        execution.scheduler.statistics.recordAll unit
          (execution.scheduler.startOccurrences now task) ∧
      (∀ wait, execution.scheduler.judgedWait? now task = some wait →
        ∃ since, wait.duration = Nanos.elapsed since now ∧
          execution.initial.WaitsSince execution.history task since) ∧
      (execution.scheduler.judgedWait? now task = none ↔ ¬(execution.scheduler.view task).CanRun) ∧
      (¬(execution.scheduler.view task).CanRun →
        ∀ next, (execution.scheduler.handle now (.start unit task)).scheduler.profile? task =
            some next →
          ∃ previous, (execution.scheduler.view task).Observes execution.config previous ∧
            next.tier = previous.tier ∧ next.score = previous.score ∧
              next.violations = previous.violations) := by
  refine ⟨execution.scheduler.statistics_start now unit task, ?_,
    execution.scheduler.judgedWait?_eq_none_iff now task, ?_⟩
  · intro wait judged
    have canRun : (execution.scheduler.view task).CanRun := by
      by_contra slept
      rw [(execution.scheduler.judgedWait?_eq_none_iff now task).mpr slept] at judged
      contradiction
    rcases canRun with ⟨profile, tracked, runnable⟩
    refine ⟨profile.runnableSince, ?_, Scheduler.waitsSince_of_runnable
      (execution.profile?_initial task) regular tracked runnable⟩
    rw [Scheduler.judgedWait?, Scheduler.observed?_of_profile? tracked, Option.bind_some,
      Profile.start_of_runnable runnable] at judged
    rw [← Option.some.inj judged]
  · intro slept next nextTracked
    change (execution.scheduler.start now unit task).scheduler.profile? task = some next at nextTracked
    rw [Scheduler.profile?_start, if_pos rfl] at nextTracked
    rcases Option.map_eq_some_iff.mp nextTracked with ⟨previous, observed, rfl⟩
    have observes : (execution.scheduler.view task).Observes execution.config previous := by
      rw [← execution.config_eq]
      exact Scheduler.observed?_eq_some observed
    have unready : ¬previous.phase.isRunnable = true := fun runnable =>
      slept ⟨previous, observes.tracked_of_runnable runnable, runnable⟩
    rw [Profile.start_of_not_runnable unready]
    exact ⟨previous, observes, rfl, rfl, rfl⟩

/-- A task runs, is queued again and waits for its next run. -/
def requeuedRun : Execution :=
  ofHistory
    [(100, .start 0 1), (500, .stop 0 1 true), (700, .enqueue 1 ⟨false, true, false⟩)]

/-- The wait began with the stop, not with the enqueue after it. A task that was never seen before does
not wait at all, and its start leaves it in the tier of new tasks. -/
theorem measured_wait_of_requeued_run :
    requeuedRun.initial.Along (Scheduler.StopsOnlyRunning 1) requeuedRun.history ∧
      requeuedRun.initial.Along (Scheduler.StopsOnlyRunning 2) requeuedRun.history ∧
        (∃ wait since, requeuedRun.scheduler.judgedWait? 900 1 = some wait ∧ wait.duration = 400 ∧
          wait.duration = Nanos.elapsed since 900 ∧
            requeuedRun.initial.WaitsSince requeuedRun.history 1 since) ∧
          ¬(requeuedRun.scheduler.view 2).CanRun ∧
            requeuedRun.scheduler.judgedWait? 900 2 = none ∧
              ∃ next, (requeuedRun.scheduler.handle 900 (.start 0 2)).scheduler.profile? 2 =
                  some next ∧ next.tier = .interactive := by
  have stopped : requeuedRun.initial.Along (Scheduler.StopsOnlyRunning 1) requeuedRun.history := by
    decide +kernel
  have other : requeuedRun.initial.Along (Scheduler.StopsOnlyRunning 2) requeuedRun.history := by
    decide +kernel
  have waited : (requeuedRun.scheduler.judgedWait? 900 1).map Profile.Wait.duration = some 400 := by
    decide +kernel
  have unknown : requeuedRun.scheduler.profile? 2 = none := by
    decide +kernel
  have seen : ((requeuedRun.scheduler.handle 900 (.start 0 2)).scheduler.profile? 2).isSome := by
    decide +kernel
  have slept : ¬(requeuedRun.scheduler.view 2).CanRun := by
    rintro ⟨profile, tracked, _⟩
    cases unknown.symm.trans tracked
  rcases Option.map_eq_some_iff.mp waited with ⟨wait, judged, duration_eq⟩
  rcases (requeuedRun.measured_wait 1 stopped 900 0).2.1 wait judged with ⟨since, since_eq, waits⟩
  rcases requeuedRun.measured_wait 2 other 900 0 with ⟨_, _, unjudged_iff, unmoved⟩
  rcases Option.isSome_iff_exists.mp seen with ⟨next, nextTracked⟩
  rcases unmoved slept next nextTracked with ⟨previous, tracked | ⟨_, rfl⟩, tier_eq, _⟩
  · cases unknown.symm.trans tracked
  · exact ⟨stopped, other, ⟨wait, since, judged, duration_eq, since_eq, waits⟩, slept,
      unjudged_iff.mpr slept, next, nextTracked, tier_eq⟩

end Execution

end TierSched
