import TierSched.Proofs.Callback
import TierSched.Proofs.Execution
import TierSched.Proofs.Occupancy

/-!
# What events do to the occupancy

`Occupancy.Step` lists everything that an event can do to the occupancy, together with the kicks that
it issues: nothing, one report or one claim of an idle unit, or one search for a victim, which is
kicked if one is found. `Scheduler.occupancyStep_of_handle` shows that the list is complete. So a kick
for a waiting task is always the answer of a search at the reading of its event, and a tick kicks
without looking at the occupancy. Which event reports what is said by `Occupancy.Reported`: a unit is
entered anew only when a task starts on it or when it goes idle.
-/

namespace TierSched

/-- The kicks for a waiting task that go with the answer of a search. -/
def Occupancy.victimKicks (victim : Option Nat) : List Kick :=
  victim.toList.map fun unit => ⟨unit, .preemption⟩

/-- What an event reports to the occupancy or claims from it. -/
inductive Occupancy.Reported : Event → Occupancy.Action → Prop where
  | claim (task : TaskId) (previous : Option Nat) (flags : WakeFlags)
      (preferences : List UnitSet) : Reported (.wake task previous flags) (.takeIdle preferences)
  | running (unit : Nat) (task : TaskId) (tier : Tier) :
      Reported (.start unit task) (.reportRunning unit tier)
  | idle (unit : Nat) : Reported (.changeIdle unit true) (.reportIdle unit)
  | busy (unit : Nat) : Reported (.changeIdle unit false) (.reportBusy unit)

theorem Occupancy.Reported.quiet {event : Event} {action : Occupancy.Action}
    (reported : Occupancy.Reported event action) (tier : Tier) (reading : Nanos) :
    action ≠ .chooseVictim tier reading := by
  cases reported with
  | _ => simp

/-- What an event can do to the occupancy, and the kicks that it issues with it. -/
inductive Occupancy.Step (now : Nanos) (event : Event) (before : Occupancy) :
    List Kick → Occupancy → Prop where
  | unaffected : Step now event before [] before
  | overran (unit : Nat) : Step now event before [⟨unit, .starvation⟩] before
  | report (action : Occupancy.Action) (reported : Occupancy.Reported event action) :
      Step now event before [] (before.perform action)
  | search (tier : Tier) :
      Step now event before (Occupancy.victimKicks (before.chooseVictim tier now).1)
        (before.perform (.chooseVictim tier now))

namespace Scheduler

variable (scheduler : Scheduler) (now : Nanos) (task : TaskId)

theorem occupancy_observe {Report : Type} (hint : Nat) (change : Profile → Report × Profile)
    (untracked : Report) :
    (scheduler.observe task hint change untracked).scheduler.occupancy = scheduler.occupancy := by
  simp only [observe]
  split <;> rfl

theorem occupancyStep_kickVictim (event : Event) {before : Occupancy}
    (same : scheduler.occupancy = before) (tier : Tier) (hint : Nat) :
    Occupancy.Step now event before (scheduler.kickVictim tier now hint).kicks
      (scheduler.kickVictim tier now hint).scheduler.occupancy := by
  subst before
  have search := @Occupancy.Step.search now event scheduler.occupancy tier
  rcases chosen : scheduler.occupancy.chooseVictim tier now with ⟨_ | unit, occupancy⟩
  · simp only [Occupancy.perform, chosen] at search
    simp only [kickVictim, chosen]
    exact search
  · simp only [Occupancy.perform, chosen] at search
    simp only [kickVictim, chosen, count]
    exact search

theorem occupancyStep_place (previous : Option Nat) (flags : WakeFlags) (tier : Tier)
    (slice : Nanos) :
    Occupancy.Step now (.wake task previous flags) scheduler.occupancy
      (scheduler.place now task previous flags tier slice).kicks
      (scheduler.place now task previous flags tier slice).scheduler.occupancy := by
  rcases taken : scheduler.occupancy.takeIdle (scheduler.topology.preferences
      (if flags.fork then none else previous) tier) with ⟨_ | unit, occupancy⟩
  · simp only [place, taken, Outcome.scheduler_andThen, Outcome.kicks_andThen]
    by_cases sync : flags.sync = true
    · simp only [if_pos sync, List.nil_append]
      exact .unaffected
    · have search := scheduler.occupancyStep_kickVictim now (.wake task previous flags) rfl tier
        (previous.getD 0)
      rw [if_neg sync]
      cases chosen : (scheduler.kickVictim tier now (previous.getD 0)).reply with
      | none => simpa only [List.append_nil] using search
      | some unit => simpa only [List.append_nil, markKickedOnWake] using search
  · have claim := @Occupancy.Step.report now _ scheduler.occupancy _ (.claim task previous flags
      (scheduler.topology.preferences (if flags.fork then none else previous) tier))
    simp only [Occupancy.perform, taken] at claim
    simpa only [place, taken, count] using claim

theorem occupancyStep_wake (previous : Option Nat) (flags : WakeFlags) :
    Occupancy.Step now (.wake task previous flags) scheduler.occupancy
      (scheduler.wake now task previous flags).kicks
      (scheduler.wake now task previous flags).scheduler.occupancy := by
  simp only [wake, Outcome.scheduler_andThen, Outcome.kicks_andThen, kicks_observe,
    List.nil_append]
  rw [← scheduler.occupancy_observe task (previous.getD 0) (fun profile => profile.wake now)
    (.interactive, scheduler.config.quantum)]
  exact occupancyStep_place _ now task previous flags _ _

theorem occupancyStep_enqueue (flags : EnqueueFlags) :
    Occupancy.Step now (.enqueue task flags) scheduler.occupancy
      (scheduler.enqueue now task flags).kicks
      (scheduler.enqueue now task flags).scheduler.occupancy := by
  simp only [enqueue, Outcome.scheduler_andThen, Outcome.kicks_andThen, kicks_observe,
    List.nil_append]
  rw [← scheduler.occupancy_observe task task (fun profile => profile.enqueue now)
    (some scheduler.untrackedEntry)]
  split
  · exact .unaffected
  · split
    · simp only [Outcome.scheduler_andThen, Outcome.kicks_andThen, List.append_nil]
      refine occupancyStep_kickVictim _ now _ ?_ _ task
      rfl
    · exact .unaffected

theorem occupancy_settleWait (unit : Nat) (wait : Profile.Wait) :
    (scheduler.settleWait unit task wait).scheduler.occupancy = scheduler.occupancy := by
  simp only [settleWait]
  split <;> rfl

/-- The unit is shown to run the tier that the task has once its wait is judged. -/
theorem occupancy_start (unit : Nat) :
    (scheduler.start now unit task).scheduler.occupancy =
      (scheduler.occupancy.reportRunning unit
        (((scheduler.start now unit task).scheduler.profile? task).elim .interactive
          Profile.tier)).2 := by
  have tier_eq : (scheduler.observe task unit
      (fun profile => profile.start scheduler.config.waitBudget now) untrackedStart).reply.tier =
        ((scheduler.start now unit task).scheduler.profile? task).elim .interactive
          Profile.tier := by
    rw [reply_observe, profile?_start, if_pos rfl]
    cases scheduler.observed? task with
    | none => rfl
    | some profile => exact profile.tier_start scheduler.config.waitBudget now
  rw [← tier_eq, ← scheduler.occupancy_observe task unit
    (fun profile => profile.start scheduler.config.waitBudget now) untrackedStart]
  simp only [start, Outcome.scheduler_andThen, reportRunning]
  split
  · split <;> rfl
  · rw [occupancy_settleWait]
    split <;> rfl

/-- Every event does one of the listed things to the occupancy. -/
theorem occupancyStep_of_handle (event : Event) :
    Occupancy.Step now event scheduler.occupancy (scheduler.handle now event).kicks
      (scheduler.handle now event).scheduler.occupancy := by
  cases event with
  | wake task previous flags => exact scheduler.occupancyStep_wake now task previous flags
  | enqueue task flags => exact scheduler.occupancyStep_enqueue now task flags
  | dispatch unit =>
      simp only [handle, Outcome.map, dispatch]
      split <;> exact .unaffected
  | start unit task =>
      simp only [handle, Outcome.map, occupancy_start, kicks_start]
      exact .report _ (.running unit task _)
  | stop unit task requeue =>
      simp only [handle, Outcome.map, stop]
      split <;> exact .unaffected
  | tick unit task =>
      simp only [handle, Outcome.map, tick]
      split
      · exact .unaffected
      · exact .overran unit
  | changeIdle unit idle =>
      simp only [handle, Outcome.map, changeIdle]
      split
      · cases idle with
        | true => exact .report _ (.idle unit)
        | false => exact .report _ (.busy unit)
      · exact .unaffected
  | exit task =>
      simp only [handle, Outcome.map, exit, dropEntries]
      split <;> exact .unaffected

end Scheduler

namespace Occupancy.Step

variable {now : Nanos} {event : Event} {before after : Occupancy} {kicks : List Kick}

/-- No event changes what an occupancy was set up with. -/
theorem frame (step : Step now event before kicks after) :
    after.units = before.units ∧ after.victimTier = before.victimTier := by
  cases step with
  | unaffected => exact ⟨rfl, rfl⟩
  | overran unit => exact ⟨rfl, rfl⟩
  | report action reported => exact ⟨(before.perform_frame action).1, (before.perform_frame action).2.1⟩
  | search tier => exact ⟨(before.perform_frame _).1, (before.perform_frame _).2.1⟩

theorem faithful (step : Step now event before kicks after) (faithful : before.Faithful) :
    after.Faithful := by
  cases step with
  | unaffected => exact faithful
  | overran unit => exact faithful
  | report action reported => exact faithful.perform action
  | search tier => exact faithful.perform _

end Occupancy.Step

theorem Scheduler.units_after (scheduler : Scheduler) (history : List (Nanos × Event)) :
    (scheduler.after history).occupancy.units = scheduler.occupancy.units := by
  apply after_induction (motive := fun _ reached =>
    reached.occupancy.units = scheduler.occupancy.units)
  · rfl
  · intro earlier now event units_eq
    exact ((scheduler.after earlier).occupancyStep_of_handle now event).frame.1.trans units_eq

namespace Execution

variable (execution : Execution)

theorem units_initial : execution.initial.occupancy.units = execution.config.units := by
  rw [execution.initial_eq]
  exact Nat.min_eq_left execution.accepted.units_le

theorem units_occupancy : execution.scheduler.occupancy.units = execution.config.units :=
  (execution.initial.units_after execution.history).trans execution.units_initial

end Execution

end TierSched
