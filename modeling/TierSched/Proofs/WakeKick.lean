import TierSched.Proofs.OccupancyStep
import TierSched.Proofs.TaskStep

/-!
# One kick for a wake-up

Two callbacks look for a victim on behalf of a woken task: the wake-up itself and the enqueue after it.
Each of them kicks at most one unit, and a wake-up that kicked one leaves a mark in the profile of its
task. Nothing that happens to other tasks removes this mark, and handing the task out keeps it too, so
the enqueue finds it and kicks nobody, whatever the occupancy looks like by then.
-/

namespace TierSched

theorem Occupancy.Step.length_kicks_le {now : Nanos} {event : Event} {before after : Occupancy}
    {kicks : List Kick} (step : Step now event before kicks after) : kicks.length ≤ 1 := by
  cases step with
  | unaffected => exact Nat.zero_le 1
  | overran unit => exact Nat.le_refl 1
  | report action reported => exact Nat.zero_le 1
  | search tier =>
      simp only [victimKicks, List.length_map]
      exact Option.length_toList_le

namespace TaskView

variable {config : Config} {now : Nanos} {task : TaskId}

/-- Only an event about the task can set or remove the mark that a unit was kicked for it. -/
theorem Step.kickedOnWake_eq {before after : TaskView} {event : Event}
    (step : Step config now task event before after) (other : event.task? ≠ some task) :
    after.profile?.map Profile.kickedOnWake = before.profile?.map Profile.kickedOnWake := by
  cases step with
  | unaffected untracked => rfl
  | pass unit left split => rfl
  | handOut unit source entry left live split =>
      rw [Option.map_map]
      rfl
  | wake profile previous flags kicked observed => exact absurd rfl other
  | enqueue profile flags observed accepted => exact absurd rfl other
  | refuse profile flags tracked queued => exact absurd rfl other
  | enqueueUntracked flags slice untracked => exact absurd rfl other
  | start profile unit observed => exact absurd rfl other
  | stop profile unit requeue tracked => exact absurd rfl other
  | tick profile unit tracked => exact absurd rfl other
  | exit => exact absurd rfl other

end TaskView

/-- The number of kicks that were issued for a waiting task. -/
def preemptionCount (kicks : List Kick) : Nat :=
  kicks.countP fun kick => kick.reason = .preemption

namespace Scheduler

variable (scheduler : Scheduler) (task : TaskId)

theorem kickedOnWake_after {history : List (Nanos × Event)}
    (others : ∀ reported ∈ history, reported.2.task? ≠ some task) :
    ((scheduler.after history).profile? task).map Profile.kickedOnWake =
      (scheduler.profile? task).map Profile.kickedOnWake := by
  induction history generalizing scheduler with
  | nil => rfl
  | cons reported later ih =>
      rcases reported with ⟨now, event⟩
      have first := (scheduler.step_of_handle now task event).kickedOnWake_eq
        (others (now, event) List.mem_cons_self)
      refine (ih _ ?_).trans first
      intro reported member
      exact others reported (List.mem_cons_of_mem _ member)

theorem length_kicks_wake_le (now : Nanos) (previous : Option Nat) (flags : WakeFlags) :
    (scheduler.wake now task previous flags).kicks.length ≤ 1 :=
  (scheduler.occupancyStep_wake now task previous flags).length_kicks_le

theorem length_kicks_enqueue_le (now : Nanos) (flags : EnqueueFlags) :
    (scheduler.enqueue now task flags).kicks.length ≤ 1 :=
  (scheduler.occupancyStep_enqueue now task flags).length_kicks_le

theorem kicks_enqueue_of_kickedOnWake {scheduler : Scheduler} {task : TaskId} {profile : Profile}
    (tracked : scheduler.profile? task = some profile) (kicked : profile.kickedOnWake = true)
    (now : Nanos) (flags : EnqueueFlags) : (scheduler.enqueue now task flags).kicks = [] := by
  simp only [enqueue, Outcome.kicks_andThen, kicks_observe, List.nil_append, reply_observe,
    observed?_of_profile? tracked, Option.map_some, Option.getD_some]
  by_cases queued : profile.phase = .queued
  · simp only [Profile.enqueue_of_queued queued]
  · simp only [Profile.enqueue_of_not_queued queued, kicked, Bool.true_eq_false, false_and,
      and_false, if_false]

/-- A wake-up that kicked a unit leaves the mark. -/
theorem kickedOnWake_wake (now : Nanos) (previous : Option Nat) (flags : WakeFlags)
    (tracked : (scheduler.wake now task previous flags).scheduler.profile? task ≠ none) :
    ((scheduler.wake now task previous flags).scheduler.profile? task).map Profile.kickedOnWake =
      some (decide ((scheduler.wake now task previous flags).kicks ≠ [])) := by
  have profile_eq := scheduler.profile?_wake now task previous flags task
  rw [if_pos rfl] at profile_eq
  rw [profile_eq] at tracked ⊢
  cases observed : scheduler.observed? task with
  | none =>
      rw [observed] at tracked
      contradiction
  | some profile => rfl

/-- A wake-up and the enqueue that follows it kick one unit at most for the same task, whatever is
reported about other tasks and units in between. -/
theorem one_kick_per_wake (wokenAt enqueuedAt : Nanos) (previous : Option Nat)
    (wakeFlags : WakeFlags) (enqueueFlags : EnqueueFlags) (between : List (Nanos × Event))
    (tracked : (scheduler.wake wokenAt task previous wakeFlags).scheduler.profile? task ≠ none)
    (others : ∀ reported ∈ between, reported.2.task? ≠ some task) :
    preemptionCount
      ((scheduler.wake wokenAt task previous wakeFlags).kicks ++
        (((scheduler.wake wokenAt task previous wakeFlags).scheduler.after between).enqueue
          enqueuedAt task enqueueFlags).kicks) ≤ 1 := by
  have wakeKicks := scheduler.length_kicks_wake_le task wokenAt previous wakeFlags
  have marked := scheduler.kickedOnWake_wake task wokenAt previous wakeFlags tracked
  generalize scheduler.wake wokenAt task previous wakeFlags = woken at *
  have kept := woken.scheduler.kickedOnWake_after task others
  have enqueueKicks := (woken.scheduler.after between).length_kicks_enqueue_le task enqueuedAt
    enqueueFlags
  refine Nat.le_trans List.countP_le_length ?_
  rw [List.length_append]
  -- if the wake-up kicked a unit, the enqueue finds the mark
  by_cases silent : woken.kicks = []
  · rwa [silent, List.length_nil, Nat.zero_add]
  · rw [marked, decide_eq_true silent, Option.map_eq_some_iff] at kept
    rcases kept with ⟨profile, stillTracked, kicked⟩
    rw [kicks_enqueue_of_kickedOnWake stillTracked kicked]
    exact wakeKicks

/-- The enqueue of a woken task kicks nobody after the wake-up did, although another unit could be
kicked, as it is for the next task. -/
theorem one_kick_per_wake_of_two_victims :
    let execution := Execution.ofConfig
      { units := 2, victimTier := .batch, kickingTier := .interactive } (by decide)
      [(0, .start 0 1), (0, .start 1 2), (100000000, .stop 0 1 true),
        (100000000, .stop 1 2 true), (100000000, .start 0 1), (100000000, .start 1 2)]
    let woken := execution.scheduler.wake 200000000 3 none ⟨false, false⟩
    let between : List (Nanos × Event) := [(200000000, .tick 1 2)]
    let enqueued := (woken.scheduler.after between).enqueue 200000000 3 ⟨true, false, false⟩
    woken.scheduler.profile? 3 ≠ none ∧
      woken.kicks = [⟨0, .preemption⟩] ∧ enqueued.kicks = [] ∧
        (enqueued.scheduler.wake 200000000 4 none ⟨false, false⟩).kicks = [⟨1, .preemption⟩] ∧
          preemptionCount (woken.kicks ++ enqueued.kicks) ≤ 1 := by
  intro execution woken between enqueued
  have tracked : woken.scheduler.profile? 3 ≠ none := by decide +kernel
  refine ⟨tracked, ?_, ?_, ?_, ?_⟩
  · decide +kernel
  · decide +kernel
  · decide +kernel
  · exact execution.scheduler.one_kick_per_wake 3 200000000 200000000 none ⟨false, false⟩
      ⟨true, false, false⟩ between tracked (by decide)

end Scheduler

end TierSched
