import TierSched.Proofs.Course
import TierSched.Proofs.TaskStep

/-!
# Overrunning tasks

A tick kicks its unit if the task has run for longer than the ceiling of its tier permits. This happens
at most once in each run: the profile remembers that the run was reported, and only a start forgets it.

Both what the profile remembers and the reading of the start can be read off the history. A running task
was started in it, `Scheduler.LastStart` is its last start together with the kicks that the ticks of the
task have issued since, and the profile agrees with this whatever was reported meanwhile. So a tick
kicks exactly if the task is overdue according to the history, and no other callback kicks a unit because
a task starves others.
-/

namespace TierSched

namespace Profile

/-- The task has run for too long, and this was not reported yet. -/
def Overruns (profile : Profile) (config : Config) (now : Nanos) : Prop :=
  profile.phase = .running ∧ profile.kickedInRun = false ∧
    config.runCeiling profile.tier < Nanos.elapsed profile.startedAt now

variable {profile : Profile} {config : Config} {now : Nanos}

theorem checkCeiling_of_overruns (overruns : profile.Overruns config now) :
    profile.checkCeiling config.runCeiling now =
      (some (profile.tier, Nanos.elapsed profile.startedAt now),
        { profile with kickedInRun := true }) :=
  if_pos overruns

theorem checkCeiling_of_not_overruns (within : ¬profile.Overruns config now) :
    profile.checkCeiling config.runCeiling now = (none, profile) :=
  if_neg within

end Profile

namespace TaskView

variable {config : Config} {now : Nanos} {task : TaskId} {event : Event} {before after : TaskView}

/-- The event is a tick of the task, which overruns. -/
def Overruns (config : Config) (now : Nanos) (task : TaskId) (event : Event) (view : TaskView) :
    Prop :=
  ∃ unit profile, event = .tick unit task ∧ view.profile? = some profile ∧
    profile.Overruns config now

/-- If the task runs, then since the given reading, and it was reported exactly if `reported`. -/
def RunsSince (view : TaskView) (startedAt : Nanos) (reported : Prop) : Prop :=
  ∀ profile, view.profile? = some profile → profile.phase = .running →
    profile.startedAt = startedAt ∧ (profile.kickedInRun = true ↔ reported)

/-- If the task runs, it was reported. -/
def Disarmed (view : TaskView) : Prop :=
  ∀ profile, view.profile? = some profile → profile.phase = .running → profile.kickedInRun = true

/-- A task that runs after an event ran before, unless it was just started, and the event has changed
what is known about the run only if the task overran. -/
theorem Step.running_origin (step : Step config now task event before after)
    (unstarted : ∀ unit, event ≠ .start unit task) {profile : Profile}
    (tracked : after.profile? = some profile) (running : profile.phase = .running) :
    ∃ previous, before.profile? = some previous ∧ previous.phase = .running ∧
      profile.startedAt = previous.startedAt ∧
        (profile.kickedInRun = true ↔
          previous.kickedInRun = true ∨ before.Overruns config now task event) := by
  cases step with
  | unaffected untracked =>
      have calm : ¬before.Overruns config now task event := by
        rintro ⟨unit, previous, rfl, _⟩
        rw [(untracked rfl).1] at tracked
        contradiction
      exact ⟨profile, tracked, running, rfl, (or_iff_left calm).symm⟩
  | wake previous previousUnit flags kicked observed =>
      rw [← Option.some.inj tracked] at running
      contradiction
  | enqueue previous flags observed unqueued =>
      rw [← Option.some.inj tracked, Profile.enqueue_of_not_queued unqueued] at running
      contradiction
  | refuse previous flags wasTracked queued =>
      rw [wasTracked] at tracked
      rw [← Option.some.inj tracked, queued] at running
      contradiction
  | enqueueUntracked flags slice untracked => contradiction
  | pass unit left split => exact ⟨profile, tracked, running, rfl, by simp [Overruns]⟩
  | handOut unit source entry left live split =>
      rcases Option.map_eq_some_iff.mp tracked with ⟨previous, wasTracked, rfl⟩
      exact ⟨previous, wasTracked, running, rfl, by simp [Overruns, Profile.claimed]⟩
  | start previous unit observed => exact absurd rfl (unstarted unit)
  | stop previous unit requeue wasTracked =>
      rw [← Option.some.inj tracked] at running
      exact absurd running (previous.stop_frame config now requeue).1
  | tick previous unit wasTracked =>
      by_cases overruns : previous.Overruns config now
      · rw [← Option.some.inj tracked, Profile.checkCeiling_of_overruns overruns]
        exact ⟨previous, wasTracked, overruns.1, rfl,
          iff_of_true rfl (Or.inr ⟨unit, previous, rfl, wasTracked, overruns⟩)⟩
      · rw [Profile.checkCeiling_of_not_overruns overruns] at tracked
        rw [← Option.some.inj tracked] at running ⊢
        refine ⟨previous, wasTracked, running, rfl, (or_iff_left ?_).symm⟩
        rintro ⟨_, same, _, same_eq, exceeds⟩
        rw [wasTracked] at same_eq
        exact overruns (Option.some.inj same_eq ▸ exceeds)
  | exit => contradiction

theorem RunsSince.step {startedAt : Nanos} {reported : Prop}
    (runs : before.RunsSince startedAt reported) (step : Step config now task event before after)
    (unstarted : ∀ unit, event ≠ .start unit task) :
    after.RunsSince startedAt (reported ∨ before.Overruns config now task event) := by
  intro profile tracked running
  rcases step.running_origin unstarted tracked running with
    ⟨previous, wasTracked, wasRunning, startedAt_eq, kicked_iff⟩
  rcases runs previous wasTracked wasRunning with ⟨since, reported_iff⟩
  exact ⟨startedAt_eq.trans since, kicked_iff.trans (or_congr_left reported_iff)⟩

theorem runsSince_of_start {unit : Nat}
    (step : Step config now task (.start unit task) before after) :
    after.RunsSince now False := by
  intro profile tracked running
  cases step with
  | unaffected untracked =>
      rw [(untracked rfl).1] at tracked
      contradiction
  | start previous _ observed =>
      rcases previous.start_eq config.waitBudget now with ⟨score, tier, slice, violations, eq⟩
      rw [← Option.some.inj tracked, eq]
      exact ⟨rfl, by simp⟩

theorem Disarmed.calm (disarmed : before.Disarmed) : ¬before.Overruns config now task event := by
  rintro ⟨unit, profile, _, tracked, running, unkicked, _⟩
  rw [disarmed profile tracked running] at unkicked
  contradiction

theorem Disarmed.step (disarmed : before.Disarmed) (step : Step config now task event before after)
    (unstarted : ∀ unit, event ≠ .start unit task) : after.Disarmed := by
  intro profile tracked running
  rcases step.running_origin unstarted tracked running with
    ⟨previous, wasTracked, wasRunning, _, kicked_iff⟩
  exact kicked_iff.mpr (Or.inl (disarmed previous wasTracked wasRunning))

/-- A task that overran has used up its report. -/
theorem Overruns.disarmed (overruns : before.Overruns config now task event)
    (step : Step config now task event before after) : after.Disarmed := by
  intro profile tracked running
  have unstarted : ∀ unit, event ≠ .start unit task := by
    rcases overruns with ⟨unit, _, rfl, _⟩
    simp
  rcases step.running_origin unstarted tracked running with ⟨_, _, _, _, kicked_iff⟩
  exact kicked_iff.mpr (Or.inr overruns)

end TaskView

namespace Scheduler

section Kicks

variable (scheduler : Scheduler) (now : Nanos) (task : TaskId)

theorem kicks_tick (unit : Nat) :
    (scheduler.tick now unit task).kicks =
      ((scheduler.profile? task).bind fun profile =>
        (profile.checkCeiling scheduler.config.runCeiling now).1).toList.map
          fun _ => ⟨unit, .starvation⟩ := by
  simp only [tick, Roster.update, profile?]
  cases scheduler.roster.get? task with
  | none => rfl
  | some profile =>
      simp only [Option.join_some, Option.bind_some]
      cases (profile.checkCeiling scheduler.config.runCeiling now).1 <;> rfl

/-- A tick kicks its unit exactly if the task overruns. -/
theorem kicks_tick_cases (unit : Nat) :
    (scheduler.view task).Overruns scheduler.config now task (.tick unit task) ∧
        (scheduler.handle now (.tick unit task)).kicks = [⟨unit, .starvation⟩] ∨
      ¬(scheduler.view task).Overruns scheduler.config now task (.tick unit task) ∧
        (scheduler.handle now (.tick unit task)).kicks = [] := by
  have kicks_eq := scheduler.kicks_tick now task unit
  cases tracked : scheduler.profile? task with
  | none =>
      rw [tracked] at kicks_eq
      refine Or.inr ⟨?_, kicks_eq⟩
      rintro ⟨_, profile, _, found, _⟩
      cases tracked.symm.trans found
  | some profile =>
      rw [tracked, Option.bind_some] at kicks_eq
      by_cases overruns : profile.Overruns scheduler.config now
      · rw [Profile.checkCeiling_of_overruns overruns] at kicks_eq
        exact Or.inl ⟨⟨unit, profile, rfl, tracked, overruns⟩, kicks_eq⟩
      · rw [Profile.checkCeiling_of_not_overruns overruns] at kicks_eq
        refine Or.inr ⟨?_, kicks_eq⟩
        rintro ⟨_, same, _, found, exceeds⟩
        cases tracked.symm.trans found
        exact overruns exceeds

theorem preemption_of_mem_kickVictim {tier : Tier} {hint : Nat} {kick : Kick}
    (issued : kick ∈ (scheduler.kickVictim tier now hint).kicks) : kick.reason = .preemption := by
  rw [kicks_kickVictim] at issued
  rcases List.mem_map.mp issued with ⟨unit, _, rfl⟩
  rfl

theorem preemption_of_mem_place {previous : Option Nat} {flags : WakeFlags} {tier : Tier}
    {slice : Nanos} {kick : Kick}
    (issued : kick ∈ (scheduler.place now task previous flags tier slice).kicks) :
    kick.reason = .preemption := by
  rcases taken : scheduler.occupancy.takeIdle (scheduler.topology.preferences
      (if flags.fork then none else previous) tier) with ⟨_ | unit, occupancy⟩
  · simp only [place, taken, Outcome.kicks_andThen] at issued
    by_cases sync : flags.sync = true
    · simp [sync] at issued
    · rw [if_neg sync] at issued
      apply scheduler.preemption_of_mem_kickVictim now
      cases chosen : (scheduler.kickVictim tier now (previous.getD 0)).reply with
      | none => simpa only [chosen, List.append_nil] using issued
      | some unit => simpa only [chosen, List.append_nil] using issued
  · simp [place, taken] at issued

/-- Only a tick kicks a unit because the task that runs there starves others. -/
theorem tick_of_mem_kicks {event : Event} {victim : Nat}
    (issued : ⟨victim, .starvation⟩ ∈ (scheduler.handle now event).kicks) :
    ∃ ticked, event = .tick victim ticked := by
  have other {kick : Kick} (same : kick = ⟨victim, .starvation⟩) : kick.reason ≠ .preemption := by
    rw [same]
    simp
  cases event with
  | wake task previous flags =>
      simp only [handle, Outcome.map, wake, Outcome.kicks_andThen, kicks_observe,
        List.nil_append] at issued
      exact absurd (preemption_of_mem_place _ now task issued) (other rfl)
  | enqueue task flags =>
      simp only [handle, Outcome.map, enqueue, Outcome.kicks_andThen, kicks_observe,
        List.nil_append] at issued
      split at issued
      · contradiction
      · split at issued
        · rw [Outcome.kicks_andThen, List.append_nil] at issued
          exact absurd (preemption_of_mem_kickVictim _ now issued) (other rfl)
        · contradiction
  | dispatch unit =>
      simp only [handle, Outcome.map, dispatch] at issued
      split at issued <;> contradiction
  | start unit task =>
      simp only [handle, Outcome.map, start, Outcome.kicks_andThen, kicks_observe,
        List.nil_append] at issued
      contradiction
  | stop unit task requeue =>
      simp only [handle, Outcome.map, stop] at issued
      split at issued <;> contradiction
  | tick unit task =>
      rcases scheduler.kicks_tick_cases now task unit with ⟨_, kicks_eq⟩ | ⟨_, kicks_eq⟩
      · rw [kicks_eq, List.mem_singleton] at issued
        exact ⟨task, congrArg (Event.tick · task) (Kick.mk.inj issued).1.symm⟩
      · rw [kicks_eq] at issued
        contradiction
  | changeIdle unit idle =>
      simp only [handle, Outcome.map, changeIdle] at issued
      split at issued <;> contradiction
  | exit task =>
      simp only [handle, Outcome.map, exit] at issued
      contradiction

end Kicks

end Scheduler

/-- The event is a tick of the task. -/
def Event.ticks (task : TaskId) : Event → Bool
  | .tick _ ticked => ticked = task
  | _ => false

/-- The task is not started in the history. -/
def Unstarted (task : TaskId) (history : List (Nanos × Event)) : Prop :=
  ∀ reported ∈ history, ∀ unit, reported.2 ≠ .start unit task

namespace Scheduler

/-- The kicks that the ticks of a task issue in a history. -/
def tickKicks (scheduler : Scheduler) (task : TaskId) : List (Nanos × Event) → List Kick
  | [] => []
  | (now, event) :: later =>
    let outcome := scheduler.handle now event
    (if event.ticks task then outcome.kicks else []) ++ outcome.scheduler.tickKicks task later

section TickKicks

variable {task : TaskId}

/-- An event adds a kick to those of the ticks of a task exactly if the task overruns. -/
theorem tickKicks_cons_cases (scheduler : Scheduler) (task : TaskId) (now : Nanos) (event : Event)
    (later : List (Nanos × Event)) :
    (scheduler.view task).Overruns scheduler.config now task event ∧
        (∃ kick, scheduler.tickKicks task ((now, event) :: later) =
          kick :: (scheduler.handle now event).scheduler.tickKicks task later) ∨
      ¬(scheduler.view task).Overruns scheduler.config now task event ∧
        scheduler.tickKicks task ((now, event) :: later) =
          (scheduler.handle now event).scheduler.tickKicks task later := by
  by_cases ticks : ∃ unit, event = .tick unit task
  · rcases ticks with ⟨unit, rfl⟩
    rcases scheduler.kicks_tick_cases now task unit with ⟨overruns, kicks_eq⟩ | ⟨calm, kicks_eq⟩
    · exact Or.inl ⟨overruns, ⟨unit, .starvation⟩, by simp [tickKicks, Event.ticks, kicks_eq]⟩
    · exact Or.inr ⟨calm, by simp [tickKicks, Event.ticks, kicks_eq]⟩
  · refine Or.inr ⟨?_, ?_⟩
    · rintro ⟨unit, profile, ticked, _⟩
      exact ticks ⟨unit, ticked⟩
    · have silent : event.ticks task = false := by
        cases event with
        | tick unit ticked =>
            refine decide_eq_false fun same => ticks ⟨unit, congrArg (Event.tick unit) same⟩
        | _ => rfl
      simp [tickKicks, silent]

theorem tickKicks_of_disarmed {scheduler : Scheduler} {later : List (Nanos × Event)}
    (disarmed : (scheduler.view task).Disarmed) (unstarted : Unstarted task later) :
    scheduler.tickKicks task later = [] := by
  induction later generalizing scheduler with
  | nil => rfl
  | cons reported others ih =>
      rcases reported with ⟨now, event⟩
      rw [Unstarted, List.forall_mem_cons] at unstarted
      have step := scheduler.step_of_handle now task event
      rcases scheduler.tickKicks_cons_cases task now event others with ⟨overruns, _⟩ | ⟨_, kicks_eq⟩
      · exact absurd overruns disarmed.calm
      · rw [kicks_eq]
        exact ih (disarmed.step step unstarted.1) unstarted.2

/-- Between two starts, the ticks of a task issue at most one kick. -/
theorem length_tickKicks_le (scheduler : Scheduler) {later : List (Nanos × Event)}
    (unstarted : Unstarted task later) : (scheduler.tickKicks task later).length ≤ 1 := by
  induction later generalizing scheduler with
  | nil => exact Nat.zero_le 1
  | cons reported others ih =>
      rcases reported with ⟨now, event⟩
      rw [Unstarted, List.forall_mem_cons] at unstarted
      have step := scheduler.step_of_handle now task event
      rcases scheduler.tickKicks_cons_cases task now event others with
        ⟨overruns, kick, kicks_eq⟩ | ⟨_, kicks_eq⟩
      · -- the first kick uses up the report of this run
        rw [kicks_eq, tickKicks_of_disarmed (overruns.disarmed step) unstarted.2]
        exact Nat.le_refl 1
      · rw [kicks_eq]
        exact ih _ unstarted.2

theorem runsSince_after {scheduler : Scheduler} {startedAt : Nanos} {reported : Prop}
    {later : List (Nanos × Event)} (runs : (scheduler.view task).RunsSince startedAt reported)
    (unstarted : Unstarted task later) :
    ((scheduler.after later).view task).RunsSince startedAt
      (reported ∨ scheduler.tickKicks task later ≠ []) := by
  induction later generalizing scheduler reported with
  | nil =>
      simp only [tickKicks, ne_eq, not_true_eq_false, or_false]
      exact runs
  | cons event others ih =>
      rcases event with ⟨now, event⟩
      rw [Unstarted, List.forall_mem_cons] at unstarted
      have next := ih (runs.step (scheduler.step_of_handle now task event) unstarted.1) unstarted.2
      have kicks_iff : scheduler.tickKicks task ((now, event) :: others) ≠ [] ↔
          (scheduler.view task).Overruns scheduler.config now task event ∨
            (scheduler.handle now event).scheduler.tickKicks task others ≠ [] := by
        rcases scheduler.tickKicks_cons_cases task now event others with
          ⟨overruns, kick, kicks_eq⟩ | ⟨calm, kicks_eq⟩
        · simp [kicks_eq, overruns]
        · simp [kicks_eq, calm]
      rw [kicks_iff, ← or_assoc]
      exact next

end TickKicks

/-- The last start of the task was at the reading `startedAt`, and its ticks have issued these kicks
since. -/
def LastStart (initial : Scheduler) (history : List (Nanos × Event)) (task : TaskId)
    (startedAt : Nanos) (kicks : List Kick) : Prop :=
  ∃ earlier unit later, history = earlier ++ (startedAt, .start unit task) :: later ∧
    Unstarted task later ∧
      ((initial.after earlier).handle startedAt (.start unit task)).scheduler.tickKicks task later =
        kicks

/-- A running task was started. -/
theorem lastStart_of_running {initial : Scheduler} {task : TaskId}
    (unknown : initial.profile? task = none) (history : List (Nanos × Event)) {profile : Profile}
    (tracked : (initial.after history).profile? task = some profile)
    (running : profile.phase = .running) :
    ∃ startedAt kicks, initial.LastStart history task startedAt kicks := by
  -- induction on the history: a task that runs after anything but its start ran before
  have origin : ∀ profile, (initial.after history).profile? task = some profile →
      profile.phase = .running → ∃ earlier startedAt unit later,
        history = earlier ++ (startedAt, .start unit task) :: later ∧ Unstarted task later := by
    refine after_induction (motive := fun history scheduler =>
      ∀ profile, scheduler.profile? task = some profile → profile.phase = .running →
        ∃ earlier startedAt unit later, history = earlier ++ (startedAt, .start unit task) :: later ∧
          Unstarted task later) initial ?_ ?_ history
    · intro profile tracked
      rw [unknown] at tracked
      contradiction
    · intro history now event ih profile tracked running
      by_cases starts : ∃ unit, event = .start unit task
      · rcases starts with ⟨unit, rfl⟩
        exact ⟨history, now, unit, [], rfl, by simp [Unstarted]⟩
      · have unstarted : ∀ unit, event ≠ .start unit task := fun unit same => starts ⟨unit, same⟩
        rcases ((initial.after history).step_of_handle now task event).running_origin unstarted
          tracked running with ⟨previous, wasTracked, wasRunning, _⟩
        rcases ih previous wasTracked wasRunning with ⟨earlier, startedAt, unit, later, rfl, since⟩
        refine ⟨earlier, startedAt, unit, later ++ [(now, event)], by simp, ?_⟩
        intro reported member
        rcases List.mem_append.mp member with before | last
        · exact since reported before
        · rw [List.mem_singleton.mp last]
          exact unstarted
  rcases origin profile tracked running with ⟨earlier, startedAt, unit, later, split, unstarted⟩
  exact ⟨startedAt, _, earlier, unit, later, split, unstarted, rfl⟩

/-- The profile of a running task agrees with the history about its last start. -/
theorem LastStart.runsSince {initial : Scheduler} {history : List (Nanos × Event)} {task : TaskId}
    {startedAt : Nanos} {kicks : List Kick}
    (last : initial.LastStart history task startedAt kicks) :
    ((initial.after history).view task).RunsSince startedAt (kicks ≠ []) := by
  rcases last with ⟨earlier, unit, later, rfl, unstarted, rfl⟩
  have step := (initial.after earlier).step_of_handle startedAt task (.start unit task)
  have runs := runsSince_after (TaskView.runsSince_of_start step) unstarted
  rw [false_or] at runs
  rw [after_append]
  exact runs

end Scheduler

namespace Execution

variable (execution : Execution) (task : TaskId) (now : Nanos)

/-- The task runs, its last start is further back than the ceiling of its tier permits, and no tick of
the task has kicked a unit since. -/
def Overdue : Prop :=
  ∃ profile startedAt, execution.scheduler.profile? task = some profile ∧
    profile.phase = .running ∧
      execution.initial.LastStart execution.history task startedAt [] ∧
        min profile.tier.runCeiling.toNat execution.config.starvationLimit.toNat <
          now.toNat - startedAt.toNat

theorem overruns_iff (unit : Nat) :
    (execution.scheduler.view task).Overruns execution.config now task (.tick unit task) ↔
      execution.Overdue task now := by
  constructor
  · rintro ⟨_, profile, _, tracked, running, unkicked, exceeded⟩
    rcases Scheduler.lastStart_of_running (execution.profile?_initial task) execution.history tracked
      running with ⟨startedAt, kicks, last⟩
    rcases last.runsSince profile tracked running with ⟨rfl, kicked_iff⟩
    have unreported : kicks = [] := by
      by_contra reported
      rw [kicked_iff.mpr reported] at unkicked
      contradiction
    rw [UInt64.lt_iff_toNat_lt, Config.toNat_runCeiling, Nanos.toNat_elapsed] at exceeded
    exact ⟨profile, profile.startedAt, tracked, running, unreported ▸ last, exceeded⟩
  · rintro ⟨profile, startedAt, tracked, running, last, exceeded⟩
    rcases last.runsSince profile tracked running with ⟨rfl, kicked_iff⟩
    refine ⟨unit, profile, rfl, tracked, running, ?_, ?_⟩
    · rw [← Bool.not_eq_true, kicked_iff]
      simp
    · rw [UInt64.lt_iff_toNat_lt, Config.toNat_runCeiling, Nanos.toNat_elapsed]
      exact exceeded

/-- A tick kicks its unit once if the task is overdue, and otherwise kicks none. No other callback
issues a kick for this reason, and until the next start of the task its ticks issue at most one. -/
theorem starvation_kicks :
    (∀ unit, execution.Overdue task now →
      (execution.scheduler.handle now (.tick unit task)).kicks = [⟨unit, .starvation⟩]) ∧
    (∀ unit, ¬execution.Overdue task now →
      (execution.scheduler.handle now (.tick unit task)).kicks = []) ∧
    (∀ event victim, ⟨victim, .starvation⟩ ∈ (execution.scheduler.handle now event).kicks →
      ∃ ticked, event = .tick victim ticked) ∧
    ∀ later, Unstarted task later → (execution.scheduler.tickKicks task later).length ≤ 1 := by
  refine ⟨?_, ?_, ?_, ?_⟩
  · intro unit overdue
    have overruns := (execution.overruns_iff task now unit).mpr overdue
    rw [← execution.config_eq] at overruns
    rcases execution.scheduler.kicks_tick_cases now task unit with ⟨_, kicks_eq⟩ | ⟨calm, _⟩
    · exact kicks_eq
    · exact absurd overruns calm
  · intro unit punctual
    rcases execution.scheduler.kicks_tick_cases now task unit with ⟨overruns, _⟩ | ⟨_, kicks_eq⟩
    · rw [execution.config_eq, overruns_iff] at overruns
      exact absurd overruns punctual
    · exact kicks_eq
  · intro event victim issued
    exact execution.scheduler.tick_of_mem_kicks now issued
  · intro later unstarted
    exact execution.scheduler.length_tickKicks_le unstarted

/-- An interactive task runs, and does not stop. -/
def longRun : Execution :=
  ofHistory [(1000, .start 0 1)]

/-- The task is overdue after its ceiling of 40 milliseconds but not yet at it, and is reported once. -/
theorem starvation_kicks_of_long_run :
    longRun.Overdue 1 40001001 ∧
      (longRun.scheduler.handle 40001001 (.tick 0 1)).kicks = [⟨0, .starvation⟩] ∧
        ¬longRun.Overdue 1 40001000 ∧ (longRun.scheduler.handle 40001000 (.tick 0 1)).kicks = [] ∧
          ⟨0, .starvation⟩ ∉ (longRun.scheduler.handle 40001001 (.stop 0 1 true)).kicks ∧
            (longRun.scheduler.tickKicks 1
              [(40001001, .tick 0 1), (40001002, .tick 0 1)]).length ≤ 1 := by
  have found : (longRun.scheduler.profile? 1).map (fun profile => (profile.phase, profile.tier)) =
      some (.running, .interactive) := by
    decide +kernel
  rcases Option.map_eq_some_iff.mp found with ⟨profile, tracked, found_eq⟩
  simp only [Prod.mk.injEq] at found_eq
  have last : longRun.initial.LastStart longRun.history 1 1000 [] :=
    ⟨[], 0, [], rfl, by simp [Unstarted], rfl⟩
  have overdue : longRun.Overdue 1 40001001 := by
    refine ⟨profile, 1000, tracked, found_eq.1, last, ?_⟩
    rw [found_eq.2]
    decide
  have punctual : ¬longRun.Overdue 1 40001000 := by
    rintro ⟨same, startedAt, same_eq, running, since, exceeded⟩
    cases tracked.symm.trans same_eq
    rw [← (since.runsSince profile tracked running).1,
      (last.runsSince profile tracked running).1, found_eq.2] at exceeded
    revert exceeded
    decide
  rcases longRun.starvation_kicks 1 40001001 with ⟨kicks, _, reason, once⟩
  refine ⟨overdue, kicks 0 overdue, punctual,
    (longRun.starvation_kicks 1 40001000).2.1 0 punctual, ?_, once _ (by simp [Unstarted])⟩
  intro issued
  rcases reason _ _ issued with ⟨ticked, same⟩
  contradiction

end Execution

end TierSched
