import TierSched.Proofs.Course
import TierSched.Proofs.OccupancyStep
import TierSched.Proofs.Standing

/-!
# The tier that a unit shows

When a task starts on a unit, the occupancy takes down the tier that the task has at this moment, and
nobody tells it when the tier of the task changes. The copy is right nevertheless for as long as the
task runs: the wait is judged before the tier is taken down, and no other event moves a running task to
another tier, not even its start on a second unit, because a running task has no wait to judge.

`Occupancy.running?_perform` says that the copy is overwritten only when the unit itself is entered
anew; idle claims, reports that the unit left idle and searches for victims leave it alone. Whether the
unit is idle or a victim then follows from the copy, because the occupancy of an execution is faithful.
-/

namespace TierSched

namespace Occupancy

/-- The action enters a unit anew. -/
def Action.Enters (unit : Nat) : Action → Prop
  | .reportIdle entered | .reportRunning entered _ => entered = unit
  | .reportBusy _ | .takeIdle _ | .chooseVictim _ _ => False

variable {occupancy : Occupancy} {unit : Nat}

/-- The record of a unit that is not entered anew shows the same tier. -/
theorem running_perform {action : Action} {slot : Fin unitLimit}
    (spared : ¬action.Enters slot) :
    ((occupancy.perform action).record slot).running = (occupancy.record slot).running := by
  cases action with
  | reportIdle entered =>
      simp only [perform, reportIdle]
      cases found : occupancy.slot? entered with
      | none => rfl
      | some written =>
          apply congrArg UnitRecord.running
          apply record_setRecord_of_ne
          rintro rfl
          exact spared (slot?_eq_some_iff.mp found).2
  | reportBusy entered =>
      simp only [perform, reportBusy]
      split <;> rfl
  | reportRunning entered tier =>
      simp only [perform, reportRunning]
      cases found : occupancy.slot? entered with
      | none => rfl
      | some written =>
          dsimp only
          split
          · rfl
          · apply congrArg UnitRecord.running
            apply record_setRecord_of_ne
            rintro rfl
            exact spared (slot?_eq_some_iff.mp found).2
  | takeIdle preferences =>
      simp only [perform]
      induction preferences with
      | nil => rfl
      | cons preferred others ih =>
          simp only [takeIdle]
          split
          · exact ih spared
          · rfl
  | chooseVictim tier now =>
      simp only [perform, chooseVictim]
      split
      · rfl
      · apply running_setRecord
        rfl

theorem running?_perform {action : Action} (spared : ¬action.Enters unit) :
    (occupancy.perform action).running? unit = occupancy.running? unit := by
  have units_eq := (occupancy.perform_frame action).1
  by_cases exist : unit < occupancy.units
  · simp only [running?_of_lt exist, running?_of_lt (units_eq ▸ exist)]
    exact running_perform spared
  · have missing := exist
    rw [← units_eq] at missing
    simp [running?, slot?_eq_none_iff.mpr exist, slot?_eq_none_iff.mpr missing]

/-- A unit that shows a tier is not idle, and it is a victim exactly if the tier is low enough. -/
theorem Faithful.shown (faithful : occupancy.Faithful) {tier : Tier}
    (shown : occupancy.running? unit = some tier) :
    occupancy.isIdle unit = false ∧
      (occupancy.isVictim unit = true ↔ occupancy.victimTier ≤ tier) := by
  rcases Option.bind_eq_some_iff.mp shown with ⟨slot, found, running⟩
  rcases slot?_eq_some_iff.mp found with ⟨exist, rfl⟩
  simp only [isIdle, isVictim, found]
  refine ⟨?_, ?_⟩
  · apply Bool.eq_false_iff.mpr
    intro idle
    cases running.symm.trans (faithful.idle_running slot idle)
  · apply (faithful.victim_iff slot).trans
    simp [exist, running]

end Occupancy

/-- The event enters a unit anew in the occupancy. -/
def Event.enters (unit : Nat) : Event → Bool
  | start entered _ => entered == unit
  | changeIdle entered idle => idle && entered == unit
  | _ => false

theorem Occupancy.Reported.enters {unit : Nat} {event : Event} {action : Occupancy.Action}
    (reported : Occupancy.Reported event action) (entered : action.Enters unit) :
    event.enters unit = true := by
  cases reported with
  | claim task previous flags preferences => contradiction
  | running started task tier => exact decide_eq_true entered
  | idle idleUnit => exact decide_eq_true entered
  | busy busyUnit => contradiction

theorem Occupancy.Step.running?_eq {now : Nanos} {event : Event} {before after : Occupancy}
    {kicks : List Kick} (step : Occupancy.Step now event before kicks after) {unit : Nat}
    (spared : event.enters unit = false) : after.running? unit = before.running? unit := by
  cases step with
  | unaffected => rfl
  | overran kicked => rfl
  | report action reported =>
      apply running?_perform
      intro entered
      rw [reported.enters entered] at spared
      contradiction
  | search tier => exact running?_perform not_false

namespace Scheduler

/-- The task is tracked and runs. -/
def Runs (scheduler : Scheduler) (task : TaskId) : Prop :=
  ∃ profile ∈ scheduler.profile? task, profile.phase = .running

instance (scheduler : Scheduler) (task : TaskId) : Decidable (scheduler.Runs task) :=
  inferInstanceAs (Decidable (∃ profile ∈ scheduler.profile? task, profile.phase = .running))

/-- The latest event that entered the unit anew is the start of the task on it, and the task has been
tracked and running ever since. -/
def RunsOn (initial : Scheduler) (history : List (Nanos × Event)) (unit : Nat) (task : TaskId) :
    Prop :=
  initial.Since (fun _ _ event => event = .start unit task)
      (fun scheduler event => scheduler.Runs task ∧ event.enters unit = false) history ∧
    (initial.after history).Runs task

section Handle

variable {scheduler : Scheduler} {now : Nanos} {unit : Nat} {task : TaskId}

theorem running?_start (exist : unit < scheduler.occupancy.units) {profile : Profile}
    (tracked : (scheduler.handle now (.start unit task)).scheduler.profile? task = some profile) :
    (scheduler.handle now (.start unit task)).scheduler.occupancy.running? unit =
      some profile.tier := by
  simp only [handle, Outcome.map] at tracked ⊢
  rw [occupancy_start, tracked]
  exact Occupancy.running?_reportRunning_self exist profile.tier

/-- Whenever a task has been running on a unit, the unit shows the tier of the task. -/
theorem running?_of_runsOn {initial : Scheduler} (exist : unit < initial.occupancy.units)
    (history : List (Nanos × Event)) :
    initial.RunsOn history unit task → ∀ profile, (initial.after history).profile? task =
      some profile → (initial.after history).occupancy.running? unit = some profile.tier := by
  induction history using List.reverseRecOn with
  | nil =>
      intro runsOn
      exact absurd runsOn.1 not_since_nil
  | append_singleton earlier reported ih =>
      rcases reported with ⟨now, event⟩
      rintro ⟨since, running⟩ profile tracked
      rw [after_concat] at running tracked ⊢
      rcases since_concat.mp since with rfl | ⟨lasted, wasRunning, spared⟩
      · apply running?_start _ tracked
        rwa [units_after]
      · rcases wasRunning with ⟨previous, wasTracked, phase_eq⟩
        have shown := ih ⟨lasted, previous, wasTracked, phase_eq⟩ previous wasTracked
        have step := (initial.after earlier).occupancyStep_of_handle now event
        rw [step.running?_eq spared, shown]
        rcases running with ⟨next, found, nextRunning⟩
        cases tracked.symm.trans found
        have tier_eq := ((initial.after earlier).step_of_handle now task event).tier_of_running
          wasTracked phase_eq tracked nextRunning
        exact congrArg some tier_eq.symm

end Handle

end Scheduler

namespace Execution

variable (execution : Execution)

theorem faithful : execution.scheduler.occupancy.Faithful := by
  apply execution.induction (motive := fun _ scheduler => scheduler.occupancy.Faithful)
  · exact Occupancy.faithful_initial _ _ _
  · intro _ scheduler now event faithful
    exact (scheduler.occupancyStep_of_handle now event).faithful faithful

theorem victimTier_occupancy :
    execution.scheduler.occupancy.victimTier = execution.config.victimTier := by
  apply execution.induction (motive := fun _ scheduler =>
    scheduler.occupancy.victimTier = execution.config.victimTier)
  · rfl
  · intro _ scheduler now event victimTier_eq
    exact (scheduler.occupancyStep_of_handle now event).frame.2.trans victimTier_eq

/-- While a task runs on a unit, the unit shows the tier that the task has now: it is not idle, and it
is a victim exactly if this tier is low enough. -/
theorem unit_shows_tier {unit : Nat} {task : TaskId} (exist : unit < execution.config.units)
    (runsOn : execution.initial.RunsOn execution.history unit task) :
    ∃ profile, execution.scheduler.profile? task = some profile ∧
      execution.scheduler.occupancy.running? unit = some profile.tier ∧
      execution.scheduler.occupancy.isIdle unit = false ∧
      (execution.scheduler.occupancy.isVictim unit = true ↔
        execution.config.victimTier ≤ profile.tier) := by
  rcases runsOn.2 with ⟨profile, tracked, _⟩
  rw [← execution.units_initial] at exist
  have shown := Scheduler.running?_of_runsOn exist execution.history runsOn profile tracked
  rcases execution.faithful.shown shown with ⟨busy, victim_iff⟩
  rw [execution.victimTier_occupancy] at victim_iff
  exact ⟨profile, tracked, shown, busy, victim_iff⟩

/-- The task starts late, which moves it from the interactive tier to the next one. It starts on a
second unit without having stopped, the first unit reports that it left idle, and another task is woken
and kicks the first unit. -/
theorem unit_shows_tier_of_late_start :
    let execution := ofConfig { units := 2, violationLimit := 1 } (by decide)
      [(1000, .wake 1 none ⟨false, false⟩), (10000000, .start 0 1), (10001000, .start 1 1),
        (10002000, .changeIdle 0 false), (10003000, .tick 0 1),
        (10004000, .wake 2 none ⟨false, false⟩)]
    execution.initial.RunsOn execution.history 0 1 ∧
      execution.scheduler.occupancy.running? 0 = some .batch ∧
      execution.scheduler.occupancy.isIdle 0 = false ∧
      execution.scheduler.occupancy.isVictim 0 = true := by
  intro execution
  have runsOn : execution.initial.RunsOn execution.history 0 1 :=
    ⟨⟨[(1000, .wake 1 none ⟨false, false⟩)], 10000000, .start 0 1, _, rfl, rfl,
      by decide +kernel⟩, by decide +kernel⟩
  have tier_eq : (execution.scheduler.profile? 1).map Profile.tier = some .batch := by
    decide +kernel
  rcases execution.unit_shows_tier (by decide) runsOn with
    ⟨profile, tracked, shown, busy, victim_iff⟩
  have batch : profile.tier = .batch := by simpa [tracked] using tier_eq
  rw [batch] at shown victim_iff
  exact ⟨runsOn, shown, busy, victim_iff.mpr (by decide)⟩

end Execution

end TierSched
