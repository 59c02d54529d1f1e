import TierSched.Proofs.Overrun
import TierSched.Proofs.Standing

/-!
# Slices and ceilings

A task that is granted a slice may run for this long, and a tick kicks its unit if it has run for longer
than the ceiling of its tier. The slices are shares of the quantum while the ceilings are fixed, so it
depends on the configuration whether a slice ends before the ceiling is reached. `Config.SlicesFit` says
that every slice does, and `Config.Accepted.slicesFit_iff` which accepted configurations these are:
acceptance alone does not suffice, because it compares the quantum with the general limit only.

If the slices fit, a task whose ticks come within the slices that it was granted is never reported. The
run invariant is `TaskView.Covered`: the latest granted slice is at most the ceiling of the tier in
which the task runs. A start establishes it, since a demotion only raises the ceiling, and no other
event moves a running task to another tier.
-/

namespace TierSched

namespace Tier

theorem runCeiling_le_demoted (tier : Tier) : tier.runCeiling ≤ tier.demoted.runCeiling := by
  cases tier <;> decide

/-- The share of the lowest tier is the greatest. -/
theorem toNat_quantumShare_le (tier : Tier) : tier.quantumShare.toNat ≤ 1300 := by
  cases tier <;> decide

/-- Of all tiers the highest one bounds the quantum most, and the lowest one bounds the general limit
most. -/
theorem share_le_min_iff (quantum limit : Nat) :
    (∀ tier : Tier, quantum * tier.quantumShare.toNat / 1000 ≤ min tier.runCeiling.toNat limit) ↔
      quantum ≤ 2857144 ∧ quantum * 1300 / 1000 ≤ limit := by
  constructor
  · intro fits
    have first := fits .criticalLatency
    have last := fits .background
    simp only [quantumShare, runCeiling, UInt64.reduceToNat] at first last
    omega
  · rintro ⟨quantum_le, longest_le⟩ tier
    have longest := Nat.mul_le_mul_left quantum tier.toNat_quantumShare_le
    refine Nat.le_min.mpr ⟨?_, Nat.le_trans (Nat.div_le_div_right longest) longest_le⟩
    clear longest longest_le
    cases tier with
    | _ =>
        simp only [quantumShare, runCeiling, UInt64.reduceToNat]
        omega

end Tier

namespace Config

/-- Every slice ends before the ceiling of its tier is reached. -/
structure SlicesFit (config : Config) : Prop where
  slice_le : ∀ tier, tier.slice config.quantum ≤ config.runCeiling tier
  newTaskSlice_le : config.newTaskSlice ≤ config.runCeiling .interactive

variable {config : Config}

theorem runCeiling_le_demoted (config : Config) (tier : Tier) :
    config.runCeiling tier ≤ config.runCeiling tier.demoted := by
  have le := UInt64.le_iff_toNat_le.mp tier.runCeiling_le_demoted
  rw [UInt64.le_iff_toNat_le, toNat_runCeiling, toNat_runCeiling]
  omega

namespace Accepted

theorem toNat_slice (accepted : config.Accepted) (tier : Tier) :
    (tier.slice config.quantum).toNat =
      config.quantum.toNat * tier.quantumShare.toNat / 1000 := by
  have quantumBound := UInt64.le_iff_toNat_le.mp accepted.quantum_le
  have shareBound := tier.toNat_quantumShare_le
  apply Nanos.toNat_permille
  simp only [quantumLimit, UInt64.reduceToNat] at quantumBound
  have product := Nat.mul_le_mul quantumBound shareBound
  simp only [UInt64.size]
  omega

theorem toNat_newTaskSlice (accepted : config.Accepted) :
    config.newTaskSlice.toNat = config.quantum.toNat + config.newTaskBonus.toNat := by
  have quantumBound := UInt64.le_iff_toNat_le.mp accepted.quantum_le
  have bonusBound := UInt64.le_iff_toNat_le.mp accepted.newTaskBonus_le
  simp only [quantumLimit, UInt64.reduceToNat] at quantumBound bonusBound
  rw [newTaskSlice, Nanos.toNat_clampedAdd, UInt64.size]
  omega

/-- The slices fit if the shortest ceiling exceeds its share of the quantum and the general limit
exceeds the longest slice; the slice of new tasks is a condition of its own. -/
theorem slicesFit_iff (accepted : config.Accepted) :
    config.SlicesFit ↔
      config.quantum.toNat ≤ 2857144 ∧
        config.quantum.toNat * 1300 / 1000 ≤ config.starvationLimit.toNat ∧
          config.quantum.toNat + config.newTaskBonus.toNat ≤
            min 40000000 config.starvationLimit.toNat := by
  have slices_iff : (∀ tier, tier.slice config.quantum ≤ config.runCeiling tier) ↔
      config.quantum.toNat ≤ 2857144 ∧
        config.quantum.toNat * 1300 / 1000 ≤ config.starvationLimit.toNat := by
    rw [← Tier.share_le_min_iff]
    apply forall_congr'
    intro tier
    rw [UInt64.le_iff_toNat_le, accepted.toNat_slice, toNat_runCeiling]
  have newTask_iff : config.newTaskSlice ≤ config.runCeiling .interactive ↔
      config.quantum.toNat + config.newTaskBonus.toNat ≤
        min 40000000 config.starvationLimit.toNat := by
    rw [UInt64.le_iff_toNat_le, accepted.toNat_newTaskSlice, toNat_runCeiling]
    rfl
  rw [← and_assoc, ← slices_iff, ← newTask_iff]
  constructor
  · rintro ⟨slice_le, newTaskSlice_le⟩
    exact ⟨slice_le, newTaskSlice_le⟩
  · rintro ⟨slice_le, newTaskSlice_le⟩
    exact ⟨slice_le, newTaskSlice_le⟩

end Accepted

end Config

/-- A start leaves the ceiling of a task as it is, or raises it with a demotion. -/
theorem Profile.runCeiling_le_start (profile : Profile) (config : Config) (now : Nanos) :
    config.runCeiling profile.tier ≤
      config.runCeiling (profile.start config.waitBudget now).2.tier := by
  have moved : profile.TierStep config now 0 (.start 0 0)
      (profile.start config.waitBudget now).2 := profile.tierStep_start now 0 0
  cases moved with
  | kept unended spared tier_eq isNew_eq =>
      rw [tier_eq]
      exact UInt64.le_refl _
  | demoted unit started judged tier_eq rank_eq isNew_eq =>
      rw [tier_eq]
      exact config.runCeiling_le_demoted profile.tier
  | classified unit requeue stopped running score_eq runtime_eq tier_eq isNew_eq =>
      contradiction

namespace Profile.WellFormed

variable {config : Config} {profile : Profile}

/-- If the slices fit, the slice that a task is granted ends before the ceiling of its tier. -/
theorem slice_le_runCeiling (wellFormed : profile.WellFormed config) (accepted : config.Accepted)
    (fit : config.SlicesFit) : profile.slice ≤ config.runCeiling profile.tier := by
  rcases wellFormed.slice_eq with slice_eq | ⟨_, interactive, slice_eq⟩
  · rw [slice_eq]
    exact fit.slice_le profile.tier
  · have newTask := UInt64.le_iff_toNat_le.mp fit.newTaskSlice_le
    rw [accepted.toNat_newTaskSlice, ← slice_eq] at newTask
    rw [interactive]
    exact UInt64.le_iff_toNat_le.mpr newTask

end Profile.WellFormed

/-- A run of a task, with the slice granted for it. -/
structure GrantedRun where
  startedAt : Nanos
  granted : Nanos

/-- The granted slice is not over yet. -/
def GrantedRun.Spans (run : GrantedRun) (now : Nanos) : Prop :=
  now.toNat - run.startedAt.toNat ≤ run.granted.toNat

instance (run : GrantedRun) (now : Nanos) : Decidable (run.Spans now) :=
  inferInstanceAs (Decidable (now.toNat - run.startedAt.toNat ≤ run.granted.toNat))

namespace Scheduler

/-- The slice with which a task would start now: the one of its profile, or the bare quantum if there is
no room for it. -/
def grantedSlice (scheduler : Scheduler) (task : TaskId) : Nanos :=
  ((scheduler.observed? task).map Profile.slice).getD scheduler.config.quantum

/-- The latest run of the task after an event. -/
def runAfter (scheduler : Scheduler) (task : TaskId) (now : Nanos) (event : Event)
    (run? : Option GrantedRun) : Option GrantedRun :=
  match event with
  | .start _ started => if started = task then some ⟨now, scheduler.grantedSlice task⟩ else run?
  | _ => run?

/-- Each tick of the task comes within the slice that was granted at the latest start of the task. -/
def Punctual (scheduler : Scheduler) (task : TaskId) (run? : Option GrantedRun) :
    List (Nanos × Event) → Prop
  | [] => True
  | (now, event) :: later =>
    (event.ticks task = true → ∀ run ∈ run?, run.Spans now) ∧
      (scheduler.handle now event).scheduler.Punctual task
        (scheduler.runAfter task now event run?) later

instance decidablePunctual (scheduler : Scheduler) (task : TaskId)
    (run? : Option GrantedRun) (history : List (Nanos × Event)) :
    Decidable (scheduler.Punctual task run? history) :=
  match history with
  | [] => isTrue trivial
  | (now, event) :: later =>
    have := decidablePunctual (scheduler.handle now event).scheduler task
      (scheduler.runAfter task now event run?) later
    inferInstanceAs (Decidable (_ ∧ _))

end Scheduler

namespace TaskView

variable {config : Config} {now : Nanos} {task : TaskId} {event : Event} {before after : TaskView}

/-- If the task runs, then since the latest start, and the slice granted there is at most the ceiling of
the tier in which it runs. -/
def Covered (view : TaskView) (config : Config) (run? : Option GrantedRun) : Prop :=
  ∀ profile, view.profile? = some profile → profile.phase = .running →
    ∃ granted, run? = some ⟨profile.startedAt, granted⟩ ∧
      granted ≤ config.runCeiling profile.tier

theorem Covered.step {run? : Option GrantedRun} (covered : before.Covered config run?)
    (step : Step config now task event before after)
    (unstarted : ∀ unit, event ≠ .start unit task) : after.Covered config run? := by
  intro profile tracked running
  rcases step.running_origin unstarted tracked running with
    ⟨previous, wasTracked, wasRunning, startedAt_eq, _⟩
  rw [startedAt_eq, step.tier_of_running wasTracked wasRunning tracked running]
  exact covered previous wasTracked wasRunning

/-- A tick within the granted slice finds that the task does not overrun. -/
theorem Covered.calm {run? : Option GrantedRun} (covered : before.Covered config run?)
    (punctual : event.ticks task = true → ∀ run ∈ run?, run.Spans now) :
    ¬before.Overruns config now task event := by
  rintro ⟨unit, profile, rfl, tracked, running, _, exceeded⟩
  rcases covered profile tracked running with ⟨granted, rfl, granted_le⟩
  have within : now.toNat - profile.startedAt.toNat ≤ granted.toNat :=
    punctual (decide_eq_true rfl) _ rfl
  rw [UInt64.le_iff_toNat_le] at granted_le
  rw [UInt64.lt_iff_toNat_lt, Nanos.toNat_elapsed] at exceeded
  omega

end TaskView

namespace Execution

variable (execution : Execution) (task : TaskId)

theorem wellFormed_of_observed {profile : Profile}
    (observed : execution.scheduler.observed? task = some profile) :
    profile.WellFormed execution.config := by
  rcases Scheduler.observed?_eq_some observed with tracked | ⟨_, rfl⟩
  · exact execution.wellFormed task profile tracked
  · rw [Scheduler.freshProfile, execution.config_eq]
    exact Profile.wellFormed_fresh execution.accepted

theorem profile?_started {profile : Profile}
    (observed : execution.scheduler.observed? task = some profile) (startedAt : Nanos)
    (unit : Nat) :
    (execution.scheduler.handle startedAt (.start unit task)).scheduler.profile? task =
      some (profile.start execution.config.waitBudget startedAt).2 := by
  have started := execution.scheduler.profile?_start startedAt unit task task
  rw [if_pos rfl, observed, execution.config_eq] at started
  exact started

theorem covered_of_start (fit : execution.config.SlicesFit) (now : Nanos) (unit : Nat) :
    ((execution.scheduler.handle now (.start unit task)).scheduler.view task).Covered
      execution.config (some ⟨now, execution.scheduler.grantedSlice task⟩) := by
  intro profile tracked running
  change (execution.scheduler.handle now (.start unit task)).scheduler.profile? task = _ at tracked
  cases observed : execution.scheduler.observed? task with
  | none =>
      have started := execution.scheduler.profile?_start now unit task task
      rw [if_pos rfl, observed] at started
      cases started.symm.trans tracked
  | some origin =>
      rw [execution.profile?_started task observed] at tracked
      have granted_le := (execution.wellFormed_of_observed task observed).slice_le_runCeiling
        execution.accepted fit
      have raised := origin.runCeiling_le_start execution.config now
      rcases origin.start_eq execution.config.waitBudget now with
        ⟨score, tier, slice, violations, start_eq⟩
      have startedAt_eq : profile.startedAt = now := by
        rw [← Option.some.inj tracked, start_eq]
      refine ⟨execution.scheduler.grantedSlice task, by rw [startedAt_eq], ?_⟩
      rw [Scheduler.grantedSlice, observed, ← Option.some.inj tracked]
      exact UInt64.le_trans granted_le raised

/-- If the slices fit, every event keeps the latest granted slice within the ceiling of the task. -/
theorem covered_handle (fit : execution.config.SlicesFit) {run? : Option GrantedRun}
    (covered : (execution.scheduler.view task).Covered execution.config run?) (now : Nanos)
    (event : Event) :
    ((execution.scheduler.handle now event).scheduler.view task).Covered execution.config
      (execution.scheduler.runAfter task now event run?) := by
  by_cases starts : ∃ unit, event = .start unit task
  · rcases starts with ⟨unit, rfl⟩
    have started := execution.covered_of_start task fit now unit
    simpa only [Scheduler.runAfter, if_true] using started
  · have unstarted : ∀ unit, event ≠ .start unit task := fun unit same => starts ⟨unit, same⟩
    have step := execution.scheduler.step_of_handle now task event
    rw [execution.config_eq] at step
    have kept : execution.scheduler.runAfter task now event run? = run? := by
      cases event with
      | start unit started =>
          exact if_neg fun same => unstarted unit (congrArg (Event.start unit) same)
      | _ => rfl
    rw [kept]
    exact covered.step step unstarted

/-- If the slices fit, the ticks of a punctual task kick no unit. -/
theorem tickKicks_of_punctual (fit : execution.config.SlicesFit) {run? : Option GrantedRun}
    (covered : (execution.scheduler.view task).Covered execution.config run?)
    {later : List (Nanos × Event)} (punctual : execution.scheduler.Punctual task run? later) :
    execution.scheduler.tickKicks task later = [] := by
  induction later generalizing execution run? with
  | nil => rfl
  | cons reported others ih =>
      rcases reported with ⟨now, event⟩
      rcases punctual with ⟨inTime, rest⟩
      rcases execution.scheduler.tickKicks_cons_cases task now event others with
        ⟨overruns, _⟩ | ⟨_, kicks_eq⟩
      · rw [execution.config_eq] at overruns
        exact absurd overruns (covered.calm inTime)
      · have next_eq : (execution.extend [(now, event)]).scheduler =
            (execution.scheduler.handle now event).scheduler := execution.scheduler_extend _
        rw [kicks_eq, ← next_eq]
        apply ih (execution.extend [(now, event)]) fit
        · rw [next_eq]
          exact execution.covered_handle task fit covered now event
        · rw [next_eq]
          exact rest

/-- The run that starts now can be reported within its slice exactly if the ceiling of the tier in which
the task runs is below the slice. -/
theorem kicked_within_slice_iff {profile : Profile}
    (observed : execution.scheduler.observed? task = some profile) (startedAt : Nanos)
    (unit : Nat) (fits : startedAt.toNat + profile.slice.toNat < UInt64.size) :
    let started := (execution.scheduler.handle startedAt (.start unit task)).scheduler
    (∃ now, now.toNat - startedAt.toNat ≤ profile.slice.toNat ∧
        (started.handle now (.tick unit task)).kicks ≠ []) ↔
      execution.config.runCeiling (profile.start execution.config.waitBudget startedAt).2.tier <
        profile.slice := by
  intro started
  have tracked : started.profile? task = _ :=
    execution.profile?_started task observed startedAt unit
  have config_eq : started.config = execution.config := by
    rw [Scheduler.config_handle, execution.config_eq]
  rcases profile.start_eq execution.config.waitBudget startedAt with
    ⟨score, tier, slice, violations, start_eq⟩
  rw [start_eq] at tracked ⊢
  constructor
  · rintro ⟨now, within, kicked⟩
    rcases started.kicks_tick_cases now task unit with ⟨overruns, _⟩ | ⟨_, kicks_eq⟩
    · rcases overruns with ⟨_, same, _, found, _, _, exceeded⟩
      cases tracked.symm.trans found
      rw [config_eq, UInt64.lt_iff_toNat_lt, Nanos.toNat_elapsed] at exceeded
      exact UInt64.lt_iff_toNat_lt.mpr (Nat.lt_of_lt_of_le exceeded within)
    · exact absurd kicks_eq kicked
  · intro exceeded
    have last_eq : (startedAt + profile.slice).toNat = startedAt.toNat + profile.slice.toNat := by
      rw [UInt64.toNat_add]
      exact Nat.mod_eq_of_lt fits
    refine ⟨startedAt + profile.slice, by omega, ?_⟩
    rcases started.kicks_tick_cases (startedAt + profile.slice) task unit with
      ⟨_, kicks_eq⟩ | ⟨calm, _⟩
    · simp [kicks_eq]
    · refine absurd ⟨unit, _, rfl, tracked, rfl, rfl, ?_⟩ calm
      rw [config_eq, UInt64.lt_iff_toNat_lt, Nanos.toNat_elapsed, last_eq]
      rw [UInt64.lt_iff_toNat_lt] at exceeded
      dsimp only at exceeded ⊢
      omega

/-- An accepted configuration has slices that end before the ceilings exactly if its quantum is small
enough for the highest tier, its longest slice for the general limit and its slice of new tasks for
both; then no punctual task is ever reported. Under any configuration, a run can be reported within its
slice exactly if the ceiling of its tier is below the slice. -/
theorem slices_and_ceilings :
    (execution.config.SlicesFit ↔
      execution.config.quantum.toNat ≤ 2857144 ∧
        execution.config.quantum.toNat * 1300 / 1000 ≤ execution.config.starvationLimit.toNat ∧
          execution.config.quantum.toNat + execution.config.newTaskBonus.toNat ≤
            min 40000000 execution.config.starvationLimit.toNat) ∧
    (execution.config.SlicesFit → execution.initial.Punctual task none execution.history →
      execution.initial.tickKicks task execution.history = []) ∧
    ∀ profile startedAt unit, execution.scheduler.observed? task = some profile →
      startedAt.toNat + profile.slice.toNat < UInt64.size →
        let started := (execution.scheduler.handle startedAt (.start unit task)).scheduler
        (∃ now, now.toNat - startedAt.toNat ≤ profile.slice.toNat ∧
            (started.handle now (.tick unit task)).kicks ≠ []) ↔
          execution.config.runCeiling (profile.start execution.config.waitBudget startedAt).2.tier <
            profile.slice := by
  refine ⟨execution.accepted.slicesFit_iff, ?_, ?_⟩
  · intro fit punctual
    -- the execution up to its beginning, in which the task is not even tracked
    have covered : (({ execution with history := [] } : Execution).scheduler.view task).Covered
        execution.config none := by
      intro profile tracked
      cases (execution.profile?_initial task).symm.trans tracked
    exact tickKicks_of_punctual { execution with history := [] } task fit covered punctual
  · intro profile startedAt unit observed fits
    exact execution.kicked_within_slice_iff task observed startedAt unit fits

/-- With the default parameters the slices fit. A new task is granted 10 milliseconds for its first run,
and a tick at their end kicks nothing; nor can one within the 2.4 milliseconds of its second run. -/
theorem slices_and_ceilings_of_default :
    let execution := ofHistory [(1000, .start 0 1), (10001000, .tick 0 1), (10001000, .stop 0 1 true)]
    execution.config.SlicesFit ∧ execution.initial.Punctual 1 none execution.history ∧
      execution.initial.tickKicks 1 execution.history = [] ∧
      ∃ profile, execution.scheduler.observed? 1 = some profile ∧ profile.slice = 2400000 ∧
        ¬∃ now : Nanos, now.toNat - (20000000 : Nanos).toNat ≤ profile.slice.toNat ∧
          (((execution.scheduler.handle 20000000 (.start 0 1)).scheduler.handle now
            (.tick 0 1)).kicks ≠ []) := by
  intro execution
  rcases execution.slices_and_ceilings 1 with ⟨fit_iff, unreported, reported_iff⟩
  have fit : execution.config.SlicesFit := fit_iff.mpr (by decide)
  have punctual : execution.initial.Punctual 1 none execution.history := by decide +kernel
  have slice_eq : (execution.scheduler.observed? 1).map Profile.slice = some 2400000 := by
    decide +kernel
  rcases Option.map_eq_some_iff.mp slice_eq with ⟨profile, observed, granted⟩
  refine ⟨fit, punctual, unreported fit punctual, profile, observed, granted, ?_⟩
  refine mt (reported_iff profile 20000000 0 observed (by rw [granted]; decide)).mp ?_
  have within := (execution.wellFormed_of_observed 1 observed).slice_le_runCeiling
    execution.accepted fit
  have raised := profile.runCeiling_le_start execution.config 20000000
  rw [UInt64.not_lt]
  exact UInt64.le_trans within raised

/-- With a quantum of 100 milliseconds every slice outlasts the ceiling of its tier, and a tick in the
middle of a first slice kicks the unit. -/
theorem slice_outlasts_ceiling :
    let execution := ofConfig { units := 1, quantum := 100000000, newTaskBonus := 0 } (by decide)
      [(1000, .wake 1 none ⟨false, false⟩), (1000, .enqueue 1 ⟨true, false, false⟩),
        (1000, .dispatch 0), (1000, .start 0 1), (50001000, .tick 0 1)]
    execution.config.Accepted ∧
      (∀ tier : Tier, execution.config.runCeiling tier < tier.slice execution.config.quantum) ∧
      execution.config.runCeiling .interactive < execution.config.newTaskSlice ∧
      execution.initial.Punctual 1 none execution.history ∧
      execution.initial.tickKicks 1 execution.history = [⟨0, .starvation⟩] := by
  intro execution
  refine ⟨execution.accepted, ?_, ?_, ?_, ?_⟩
  · intro tier
    cases tier with
    | _ => decide
  · decide
  · decide +kernel
  · decide +kernel

end Execution

end TierSched
