import TierSched.Proofs.BreachStreak
import TierSched.Proofs.MeasuredWait
import TierSched.Proofs.Rating

/-!
# What the runs of a task make of it

A task is rated anew when a run of it ends, and it loses its rating when it exits. In between, only a
demotion touches the score. So as long as a history spares a task, that is, neither demotes it nor makes
it exit, its rating at the end depends on the lengths of its runs alone, and so does its tier once a run
has ended. Everything else that happens in the history is irrelevant, also to the same task: it may be
woken, queued, handed out or started twice.

`TaskView.Step.rerated` is the step lemma and `Scheduler.ratedBy_after` the run lemma. A task that is not
tracked counts as one with a fresh profile, which is what it gets as soon as there is room for it.
-/

namespace TierSched

namespace Profile

/-- A run of the given length has ended, or rating and tier are as before. -/
inductive Rerated (config : Config) (before after : Profile) : Option Nanos → Prop where
  | kept (rating_eq : after.rating = before.rating) (tier_eq : after.tier = before.tier) :
      Rerated config before after none
  | ran (length : Nanos)
      (rating_eq : after.rating = before.rating.afterRun config.shortRunThreshold length)
      (tier_eq : after.tier = after.rating.tier config.criticalGate) :
      Rerated config before after (some length)

/-- Several runs have ended, and nothing else has changed rating and tier. -/
structure RatedBy (config : Config) (before after : Profile) (runs : List Nanos) : Prop where
  rating_eq : after.rating = before.rating.afterRuns config.shortRunThreshold runs
  tier_eq : after.tier =
    if runs = [] then before.tier else after.rating.tier config.criticalGate

variable {config : Config} {profile : Profile}

theorem Rerated.ratedBy {before middle after : Profile} {run? : Option Nanos} {runs : List Nanos}
    (first : before.Rerated config middle run?) (rest : middle.RatedBy config after runs) :
    before.RatedBy config after (run?.toList ++ runs) := by
  rcases rest with ⟨rating_eq, tier_eq⟩
  cases first with
  | kept kept_rating kept_tier =>
      rw [kept_rating] at rating_eq
      rw [kept_tier] at tier_eq
      exact ⟨rating_eq, tier_eq⟩
  | ran length ran_rating ran_tier =>
      refine ⟨?_, ?_⟩
      · rw [rating_eq, ran_rating]
        rfl
      · rw [Option.toList_some, List.singleton_append, if_neg (List.cons_ne_nil length runs),
          tier_eq]
        split
        · rename_i none_later
          rw [ran_tier, rating_eq, none_later]
          rfl
        · rfl

theorem rerated_start {now : Nanos}
    (spared : ∀ source target, profile.verdict? config now ≠ some (.demotion source target)) :
    profile.Rerated config (profile.start config.waitBudget now).2 none := by
  by_cases runnable : profile.phase.isRunnable = true
  · rw [verdict?, start_of_runnable runnable] at spared
    rw [start_of_runnable runnable]
    have judged_eq := WaitBudget.judge_of_spared fun source target demotion =>
      spared source target (congrArg some demotion)
    dsimp only
    rw [judged_eq]
    exact .kept rfl rfl
  · rw [start_of_not_runnable runnable]
    exact .kept rfl rfl

theorem rerated_stop (now : Nanos) (requeue : Bool) :
    profile.Rerated config (profile.stop config now requeue).2
      (if profile.phase = .running then some (Nanos.elapsed profile.startedAt now) else none) := by
  by_cases running : profile.phase = .running
  · rw [if_pos running]
    rcases profile.rating_account config (Nanos.elapsed profile.startedAt now) with
      ⟨rating_eq, tier_eq⟩
    simp only [stop, if_pos running]
    exact .ran _ rating_eq tier_eq
  · rw [if_neg running, stop_of_not_running running]
    exact .kept rfl rfl

end Profile

namespace TaskView

variable {config : Config} {now : Nanos} {task : TaskId} {event : Event} {before after : TaskView}

/-- The profile of the task, or the one that it gets when it is first seen. -/
def known (view : TaskView) (config : Config) : Profile :=
  view.profile?.getD (.fresh config)

/-- The length of the run of the task that an event ends. -/
def runLength? (view : TaskView) (task : TaskId) (now : Nanos) : Event → Option Nanos
  | .stop _ stopped _ =>
    if stopped = task then
      view.profile?.bind fun profile =>
        if profile.phase = .running then some (Nanos.elapsed profile.startedAt now) else none
    else none
  | _ => none

/-- The event demotes the task. -/
def DemotedBy (view : TaskView) (config : Config) (task : TaskId) (now : Nanos)
    (event : Event) : Prop :=
  ∃ unit profile source target, event = .start unit task ∧ view.profile? = some profile ∧
    profile.verdict? config now = some (.demotion source target)

theorem Observes.known_eq {profile : Profile} (observed : before.Observes config profile) :
    before.known config = profile := by
  rcases observed with tracked | ⟨untracked, rfl⟩
  · rw [known, tracked, Option.getD_some]
  · rw [known, untracked, Option.getD_none]

theorem Step.rerated (step : Step config now task event before after)
    (stays : event ≠ .exit task) (spared : ¬before.DemotedBy config task now event) :
    (before.known config).Rerated config (after.known config)
      (before.runLength? task now event) := by
  cases step with
  | unaffected untracked =>
      have unended : before.runLength? task now event = none := by
        cases event with
        | stop unit stopped requeue =>
            simp only [runLength?]
            split
            · rename_i own
              rw [(untracked (congrArg some own)).1, Option.bind_none]
            · rfl
        | _ => rfl
      rw [unended]
      exact .kept rfl rfl
  | wake profile previous flags kicked observed =>
      rw [observed.known_eq]
      exact .kept rfl rfl
  | enqueue profile flags observed accepted =>
      rw [observed.known_eq, Profile.enqueue_of_not_queued accepted]
      exact .kept rfl rfl
  | refuse profile flags tracked queued => exact .kept rfl rfl
  | enqueueUntracked flags slice untracked =>
      rw [known, untracked]
      exact .kept rfl rfl
  | pass unit left split => exact .kept rfl rfl
  | handOut unit source entry left live split =>
      rw [known, known]
      cases before.profile? with
      | none => exact .kept rfl rfl
      | some profile => exact .kept rfl rfl
  | start profile unit observed =>
      rw [observed.known_eq]
      apply Profile.rerated_start
      intro source target demotion
      rcases observed with tracked | ⟨_, rfl⟩
      · exact spared ⟨unit, profile, source, target, rfl, tracked, demotion⟩
      · contradiction
  | stop profile unit requeue tracked =>
      rw [known, tracked, runLength?, if_pos rfl, tracked]
      exact profile.rerated_stop now requeue
  | tick profile unit tracked =>
      rcases profile.checkCeiling_eq config.runCeiling now with ⟨kicked, after_eq⟩
      rw [known, tracked, after_eq]
      exact .kept rfl rfl
  | exit => exact absurd rfl stays

end TaskView

namespace Scheduler

variable (scheduler : Scheduler) (task : TaskId)

/-- The lengths of the runs of the task that end in a history, in order. -/
def runLengths (history : List (Nanos × Event)) : List Nanos :=
  (scheduler.moments history).filterMap fun moment =>
    (moment.scheduler.view task).runLength? task moment.now moment.event

/-- No event of a history demotes the task or makes it exit. -/
def Spares (history : List (Nanos × Event)) : Prop :=
  ∀ moment ∈ scheduler.moments history, moment.event ≠ .exit task ∧
    ¬(moment.scheduler.view task).DemotedBy moment.scheduler.config task moment.now moment.event

variable {scheduler task}

theorem moments_append (earlier later : List (Nanos × Event)) :
    scheduler.moments (earlier ++ later) =
      scheduler.moments earlier ++ (scheduler.after earlier).moments later := by
  induction earlier generalizing scheduler with
  | nil => rfl
  | cons reported others ih => exact congrArg (_ :: ·) ih

theorem runLengths_append (earlier later : List (Nanos × Event)) :
    scheduler.runLengths task (earlier ++ later) =
      scheduler.runLengths task earlier ++ (scheduler.after earlier).runLengths task later := by
  rw [runLengths, moments_append, List.filterMap_append]
  rfl

theorem runLengths_cons (now : Nanos) (event : Event) (later : List (Nanos × Event)) :
    scheduler.runLengths task ((now, event) :: later) =
      ((scheduler.view task).runLength? task now event).toList ++
        (scheduler.handle now event).scheduler.runLengths task later := by
  rw [runLengths, moments, List.filterMap_cons]
  cases (scheduler.view task).runLength? task now event with
  | none => rfl
  | some length => rfl

theorem spares_append {earlier later : List (Nanos × Event)} :
    scheduler.Spares task (earlier ++ later) ↔
      scheduler.Spares task earlier ∧ (scheduler.after earlier).Spares task later := by
  simp only [Spares, moments_append, List.forall_mem_append]

/-- If a history spares a task, the lengths of its runs decide what becomes of it. -/
theorem ratedBy_after {history : List (Nanos × Event)} (spares : scheduler.Spares task history) :
    ((scheduler.view task).known scheduler.config).RatedBy scheduler.config
      (((scheduler.after history).view task).known scheduler.config)
      (scheduler.runLengths task history) := by
  induction history generalizing scheduler with
  | nil => exact ⟨rfl, rfl⟩
  | cons reported later ih =>
      rcases reported with ⟨now, event⟩
      rcases List.forall_mem_cons.mp spares with ⟨⟨stays, spared⟩, sparesLater⟩
      have step := scheduler.step_of_handle now task event
      have rest := ih sparesLater
      rw [config_handle] at rest
      rw [runLengths_cons]
      exact (step.rerated stays spared).ratedBy rest

/-- A tracked task that is spared stays tracked. -/
theorem tracked_after {history : List (Nanos × Event)} (spares : scheduler.Spares task history)
    {profile : Profile} (tracked : scheduler.profile? task = some profile) :
    ∃ next, (scheduler.after history).profile? task = some next := by
  induction history generalizing scheduler profile with
  | nil => exact ⟨profile, tracked⟩
  | cons reported later ih =>
      rcases reported with ⟨now, event⟩
      rcases List.forall_mem_cons.mp spares with ⟨⟨stays, _⟩, sparesLater⟩
      have step := scheduler.step_of_handle now task event
      rcases step.remains_tracked tracked stays with ⟨next, nextTracked⟩
      exact ih sparesLater nextTracked

section Cycles

/-- A task that sleeps runs once and sleeps again. -/
def cycle (unit : Nat) (task : TaskId) (startedAt stoppedAt : Nanos) : List (Nanos × Event) :=
  [(startedAt, .start unit task), (stoppedAt, .stop unit task false)]

/-- The same run several times. -/
def cycles (unit : Nat) (task : TaskId) (startedAt stoppedAt : Nanos) (count : Nat) :
    List (Nanos × Event) :=
  (List.replicate count (cycle unit task startedAt stoppedAt)).flatten

/-- The task sleeps, or it is not tracked and there is room for it. -/
def Sleeps (scheduler : Scheduler) (task : TaskId) : Prop :=
  ∃ profile, scheduler.observed? task = some profile ∧ profile.phase = .sleeping

variable (unit : Nat) (startedAt stoppedAt : Nanos)

theorem Sleeps.profile?_start (sleeps : scheduler.Sleeps task) :
    ∃ profile, profile.phase = .running ∧ profile.startedAt = startedAt ∧
      (scheduler.handle startedAt (.start unit task)).scheduler.profile? task = some profile := by
  rcases sleeps with ⟨profile, observed, asleep⟩
  have started := scheduler.profile?_start startedAt unit task task
  rw [if_pos rfl, observed, Option.map_some] at started
  have unready : ¬profile.phase.isRunnable = true := by simp [asleep, Phase.isRunnable]
  rw [Profile.start_of_not_runnable unready] at started
  exact ⟨_, rfl, rfl, started⟩

theorem Sleeps.after_cycle (sleeps : scheduler.Sleeps task) :
    (scheduler.after (cycle unit task startedAt stoppedAt)).Sleeps task := by
  rcases sleeps.profile?_start unit startedAt with ⟨profile, running, _, tracked⟩
  have stopped := (scheduler.handle startedAt (.start unit task)).scheduler.profile?_stop stoppedAt
    unit task false task
  rw [if_pos rfl, tracked, Option.map_some] at stopped
  refine ⟨_, observed?_of_profile? stopped, ?_⟩
  simp only [Profile.stop, if_pos running]
  rfl

theorem Sleeps.runLengths_cycle (sleeps : scheduler.Sleeps task) :
    scheduler.runLengths task (cycle unit task startedAt stoppedAt) =
      [Nanos.elapsed startedAt stoppedAt] := by
  rcases sleeps.profile?_start unit startedAt with ⟨profile, running, startedAt_eq, tracked⟩
  have ended : ((scheduler.handle startedAt (.start unit task)).scheduler.view task).runLength? task
      stoppedAt (.stop unit task false) = some (Nanos.elapsed startedAt stoppedAt) := by
    simp only [TaskView.runLength?, view, tracked, Option.bind_some, if_pos running, startedAt_eq,
      if_true]
  rw [cycle, runLengths_cons, runLengths_cons, ended]
  rfl

theorem Sleeps.spares_cycle (sleeps : scheduler.Sleeps task) :
    scheduler.Spares task (cycle unit task startedAt stoppedAt) := by
  intro moment member
  rcases List.mem_pair.mp member with rfl | rfl
  · refine ⟨by simp, ?_⟩
    rintro ⟨_, profile, source, target, _, tracked, demotion⟩
    rcases sleeps with ⟨same, observed, asleep⟩
    cases (observed?_of_profile? tracked).symm.trans observed
    have unready : ¬profile.phase.isRunnable = true := by simp [asleep, Phase.isRunnable]
    rw [Profile.verdict?, Profile.start_of_not_runnable unready] at demotion
    contradiction
  · refine ⟨by simp, ?_⟩
    rintro ⟨_, _, _, _, started, _⟩
    contradiction

/-- Equal runs of a task that sleeps in between spare it and have equal lengths. -/
theorem Sleeps.after_cycles (sleeps : scheduler.Sleeps task) (count : Nat) :
    (scheduler.after (cycles unit task startedAt stoppedAt count)).Sleeps task ∧
      scheduler.Spares task (cycles unit task startedAt stoppedAt count) ∧
        scheduler.runLengths task (cycles unit task startedAt stoppedAt count) =
          List.replicate count (Nanos.elapsed startedAt stoppedAt) := by
  induction count generalizing scheduler with
  | zero =>
      refine ⟨sleeps, ?_, rfl⟩
      intro moment impossible
      contradiction
  | succ count ih =>
      rcases ih (sleeps.after_cycle unit startedAt stoppedAt) with ⟨asleep, spares, lengths_eq⟩
      rw [cycles, List.replicate_succ, List.flatten_cons]
      refine ⟨?_, ?_, ?_⟩
      · rw [after_append]
        exact asleep
      · exact spares_append.mpr ⟨sleeps.spares_cycle unit startedAt stoppedAt, spares⟩
      · rw [runLengths_append, sleeps.runLengths_cycle]
        exact congrArg (_ :: ·) lengths_eq

end Cycles

end Scheduler

end TierSched
