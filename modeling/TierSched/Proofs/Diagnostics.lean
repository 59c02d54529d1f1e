import Mathlib.Data.List.Forall2
import TierSched.Proofs.Lockstep
import TierSched.Proofs.Profile

/-!
# Statistics and diagnostics decide nothing

Statistics are only ever counted up, and so are three fields of every profile: the total runtime, the
number of wake-ups and the number of runs. Schedulers are interchangeable if they differ in these at
most, and in the switch that turns the statistics on. Every event in the life of a task reads and
reports the same in interchangeable profiles and leaves interchangeable profiles behind, so
interchangeable schedulers go in lockstep at every reading of the clock.
-/

namespace TierSched

namespace Profile

/-- The profile without the fields that are only counted up. -/
def withoutDiagnostics (profile : Profile) : Profile :=
  { profile with totalRuntime := 0, wakes := 0, runs := 0 }

/-- The profiles differ at most in the fields that are only counted up. -/
def Interchangeable (first second : Profile) : Prop :=
  first.withoutDiagnostics = second.withoutDiagnostics

instance (first second : Profile) : Decidable (first.Interchangeable second) :=
  inferInstanceAs (Decidable (_ = _))

variable {Report : Type} {change : Profile → Report × Profile}

/-- The change does the same to a profile without its diagnostics. -/
def Blind (change : Profile → Report × Profile) : Prop :=
  ∀ profile : Profile, Reports Interchangeable (change profile) (change profile.withoutDiagnostics)

theorem Blind.inStep (blind : Blind change) : InStep Interchangeable change change := by
  intro profile other same
  have first := blind profile
  have second := blind other
  rw [Interchangeable] at same
  rw [← same] at second
  exact ⟨first.1.trans second.1.symm, first.2.trans second.2.symm⟩

theorem reports_ite {related : Profile → Profile → Prop} {condition : Prop} [Decidable condition]
    {first second third fourth : Report × Profile} (positive : Reports related first second)
    (negative : Reports related third fourth) :
    Reports related (if condition then first else third) (if condition then second else fourth) := by
  split
  · exact positive
  · exact negative

section Blind

variable (now : Nanos)

theorem blind_wake : Blind fun profile => profile.wake now :=
  fun _ => ⟨rfl, rfl⟩

theorem blind_enqueue : Blind fun profile => profile.enqueue now :=
  fun _ => reports_ite ⟨rfl, rfl⟩ ⟨rfl, rfl⟩

theorem blind_mark : Blind fun profile => ((), { profile with kickedOnWake := true }) :=
  fun _ => ⟨rfl, rfl⟩

theorem blind_claim (generation : Generation) : Blind fun profile => profile.claim generation :=
  fun _ => reports_ite ⟨rfl, rfl⟩ ⟨rfl, rfl⟩

theorem blind_start (budget : WaitBudget) : Blind fun profile => profile.start budget now := by
  intro profile
  by_cases runnable : profile.phase.isRunnable = true
  · have same : profile.withoutDiagnostics.phase.isRunnable = true := runnable
    -- the two profiles that are judged differ in the diagnostics only
    have judged_eq : budget.judge (profile.withoutDiagnostics.begun now)
        (Nanos.elapsed profile.withoutDiagnostics.runnableSince now) = _ :=
      (profile.begun now).judge_congr budget (Nanos.elapsed profile.runnableSince now) now
        profile.runnableSince 0 0 1
    simp only [start_of_runnable runnable, start_of_runnable same, judged_eq]
    rcases budget.judge_eq (profile.begun now) (Nanos.elapsed profile.runnableSince now) with
      ⟨score, tier, slice, violations, standing_eq⟩
    refine ⟨rfl, ?_⟩
    rw [standing_eq]
    rfl
  · have same : ¬profile.withoutDiagnostics.phase.isRunnable = true := runnable
    simp only [start_of_not_runnable runnable, start_of_not_runnable same]
    exact ⟨rfl, rfl⟩

theorem blind_stop (config : Config) (requeue : Bool) :
    Blind fun profile => profile.stop config now requeue :=
  fun _ => reports_ite ⟨rfl, rfl⟩ ⟨rfl, rfl⟩

theorem blind_checkCeiling (ceiling : Tier → Nanos) :
    Blind fun profile => profile.checkCeiling ceiling now :=
  fun _ => reports_ite ⟨rfl, rfl⟩ ⟨rfl, rfl⟩

end Blind

theorem waitsIn_eq_of_interchangeable {profile other : Profile}
    (same : profile.Interchangeable other) : profile.waitsIn = other.waitsIn := by
  have waitsIn_eq := congrArg waitsIn same
  exact waitsIn_eq

end Profile

/-- Statistics and diagnostics may differ, and nothing else. -/
def Correspondence.diagnostics : Correspondence where
  switches _ _ := True
  profiles := Profile.Interchangeable
  occupancies := Eq
  statistics _ _ := True
  stoppable _ := True

theorem Correspondence.lockstep_diagnostics (now : Nanos) : diagnostics.Lockstep now now where
  fresh _ := rfl
  wake := (Profile.blind_wake now).inStep
  enqueue := (Profile.blind_enqueue now).inStep
  mark := Profile.blind_mark.inStep
  claimable generation := (Profile.blind_claim generation).inStep
  start budget := (Profile.blind_start now budget).inStep
  stop config requeue _ _ same _ := (Profile.blind_stop now config requeue).inStep same
  checkCeiling ceiling := (Profile.blind_checkCeiling now ceiling).inStep
  waitsIn_eq _ _ same := Profile.waitsIn_eq_of_interchangeable same
  takeIdle _ _ _ same := same ▸ ⟨rfl, rfl⟩
  chooseVictim _ _ _ same := same ▸ ⟨rfl, rfl⟩
  reportRunning _ _ _ _ same := same ▸ rfl
  reportIdle _ _ _ same := same ▸ rfl
  reportBusy _ _ _ same := same ▸ rfl
  record _ _ _ _ _ := trivial

namespace Scheduler

/-- The schedulers differ at most in the statistics, in whether there are any, and in the diagnostics
of their tasks. -/
structure Interchangeable (first second : Scheduler) : Prop where
  config_eq : second.config =
    { first.config with statisticsEnabled := second.config.statisticsEnabled }
  topology_eq : second.topology = first.topology
  queues_eq : second.queues = first.queues
  occupancy_eq : second.occupancy = first.occupancy
  count_eq : second.taskCount = first.taskCount
  capacity_eq : second.roster.capacity = first.roster.capacity
  profiles : ∀ task, Option.Rel Profile.Interchangeable (first.profile? task) (second.profile? task)

theorem interchangeable_iff {first second : Scheduler} :
    first.Interchangeable second ↔ first.Corresponds .diagnostics second := by
  constructor
  · rintro ⟨config_eq, topology_eq, queues_eq, occupancy_eq, count_eq, capacity_eq, profiles⟩
    rcases second with ⟨config, topology, roster, queues, occupancy, statistics⟩
    dsimp only at config_eq topology_eq queues_eq occupancy_eq
    rw [config_eq, topology_eq, queues_eq, occupancy_eq]
    exact .intro _ roster _ statistics trivial ⟨count_eq.symm, capacity_eq.symm, profiles⟩ rfl trivial
  · rintro ⟨enabled, roster, occupancy, statistics, -, rosters, occupancies, -⟩
    exact ⟨rfl, rfl, rfl, occupancies.symm, rosters.count_eq.symm, rosters.capacity_eq.symm,
      rosters.profiles⟩

/-- Interchangeable schedulers show the same to the host at every step of every history, and they stay
interchangeable. -/
theorem diagnostics_decide_nothing {first second : Scheduler}
    (interchangeable : first.Interchangeable second) (history : List (Nanos × Event)) :
    List.Forall₂ (Outcome.Rel Interchangeable) (first.outcomes history)
        (second.outcomes history) ∧
      (first.after history).Interchangeable (second.after history) := by
  have lockstep : List.Forall₂
      (fun reported same : Nanos × Event =>
        reported.2 = same.2 ∧ Correspondence.diagnostics.Lockstep reported.1 same.1)
      history history := by
    apply List.forall₂_same.mpr
    intro reported _
    exact ⟨rfl, Correspondence.lockstep_diagnostics reported.1⟩
  have admitted : first.Along Correspondence.diagnostics.Admits history := by
    apply along_of_forall
    intro scheduler event
    cases event with
    | stop unit task requeue => exact fun _ _ => trivial
    | _ => trivial
  rcases (interchangeable_iff.mp interchangeable).run lockstep admitted with ⟨outcomes, final⟩
  refine ⟨outcomes.imp fun _ _ same => ?_, interchangeable_iff.mpr final⟩
  exact ⟨same.reply_eq, same.kicks_eq, same.notices_eq, interchangeable_iff.mpr same.schedulers⟩

/-- The statistics of the second scheduler are turned off, and it has another idea of how often and for
how long the running task ran. It kicks the same unit and hands out the same task. -/
theorem diagnostics_decide_nothing_of_silent_copy :
    let first := (Execution.ofHistory [(1, .start 0 1), (1000001, .stop 0 1 true),
      (1000001, .start 0 1)]).scheduler
    let second :=
      { first with
        config := { first.config with statisticsEnabled := false }
        roster := (first.roster.update 1 fun profile =>
          ((), { profile with totalRuntime := 77, wakes := 5, runs := 9 })).2
        statistics := .initial 3 false }
    let history : List (Nanos × Event) :=
      [(1000101, .wake 2 none ⟨false, false⟩), (1000102, .enqueue 2 ⟨true, false, false⟩),
        (1000103, .dispatch 0), (1000104, .stop 0 1 false)]
    first.Interchangeable second ∧ first.profile? 1 ≠ second.profile? 1 ∧
      (first.outcomes history).map Outcome.kicks = [[⟨0, .preemption⟩], [], [], []] ∧
      (first.after history).statistics ≠ first.statistics ∧
      (second.after history).statistics = second.statistics ∧
      List.Forall₂ (Outcome.Rel Interchangeable) (first.outcomes history)
        (second.outcomes history) ∧
      (first.after history).Interchangeable (second.after history) := by
  intro first second history
  have profiles : ∀ task,
      Option.Rel Profile.Interchangeable (first.profile? task) (second.profile? task) := by
    intro task
    have updated := first.roster.get?_update 1 task fun profile =>
      ((), { profile with totalRuntime := 77, wakes := 5, runs := 9 })
    change Option.Rel _ (first.roster.get? task) (Roster.get? _ task)
    rw [updated]
    by_cases same : 1 = task
    · subst same
      rw [if_pos rfl]
      cases first.roster.get? 1 with
      | none => exact .none
      | some profile => exact .some rfl
    · rw [if_neg same]
      cases first.roster.get? task with
      | none => exact .none
      | some profile => exact .some rfl
  have interchangeable : first.Interchangeable second :=
    ⟨rfl, rfl, rfl, rfl, by decide +kernel, by decide +kernel, profiles⟩
  refine ⟨interchangeable, ?_, ?_, ?_, ?_, diagnostics_decide_nothing interchangeable history⟩
  · decide +kernel
  · decide +kernel
  · decide +kernel
  · decide +kernel

end Scheduler

end TierSched
