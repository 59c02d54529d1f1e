import TierSched.Proofs.QueueBalance
import TierSched.Proofs.VictimSearch
import TierSched.Proofs.WakeKick

/-!
# Kicks for waiting tasks

Two callbacks kick a unit for a waiting task. A wake-up does so if no unit is idle and the waker does not
give up its own unit; an enqueue does so if it pushes an entry after a genuine wake-up of a task of a high
tier for which the wake-up has kicked nobody. Both look for a victim in the same way, so what they do with
the answer is said once, by `Execution.KicksFor`, with the condition under which kicks are called for as a
parameter.

What a kicked unit is known to run follows from the occupancy: victims run the victim tier or a lower one,
and units that run something are not idle.
-/

namespace TierSched

namespace Occupancy

/-- What a callback that may kick a unit issues, and what it leaves behind. -/
inductive Preempts (before : Occupancy) (tier : Tier) (now : Nanos) (called : Prop) :
    List Kick → Occupancy → Prop where
  | kicked {unit : Nat} (holds : called)
      (least : IsLeast {other | before.Kickable tier now other} unit) :
      Preempts before tier now called [⟨unit, .preemption⟩] (before.startCooldown unit now)
  | silent (nobody : ¬(called ∧ ∃ unit, before.Kickable tier now unit)) :
      Preempts before tier now called [] before

theorem mem_victimKicks {victim : Option Nat} {unit : Nat} :
    ⟨unit, .preemption⟩ ∈ victimKicks victim ↔ victim = some unit := by
  cases victim with
  | none => simp [victimKicks]
  | some other => simp [victimKicks, eq_comm]

theorem victimKicks_eq_nil {victim : Option Nat} : victimKicks victim = [] ↔ victim = none := by
  cases victim with
  | none => simp [victimKicks]
  | some other => simp [victimKicks]

theorem Preempts.unchanged {before after : Occupancy} {tier : Tier} {now : Nanos} {called : Prop}
    {kicks : List Kick} (preempts : before.Preempts tier now called kicks after)
    (silent : kicks = []) : after = before := by
  cases preempts with
  | kicked holds least => contradiction
  | silent nobody => rfl

/-- If kicks are called for, it is the search that decides. -/
theorem Faithful.preempts_of_called {before : Occupancy} (faithful : before.Faithful) {called : Prop}
    (holds : called) (tier : Tier) (now : Nanos) :
    before.Preempts tier now called (victimKicks (before.chooseVictim tier now).1)
      (before.chooseVictim tier now).2 := by
  rcases faithful.chooseVictim_finds tier now with ⟨finds, after_eq⟩
  rw [after_eq]
  cases found : (before.chooseVictim tier now).1 with
  | none =>
      rw [found] at finds
      exact .silent fun ⟨_, unit, kickable⟩ => finds unit kickable
  | some unit =>
      rw [found] at finds
      exact .kicked holds finds

end Occupancy

namespace Scheduler

variable (scheduler : Scheduler) (now : Nanos) (task : TaskId)

/-- Without idle units, a woken task is sent to a victim, or else to where it came from. -/
theorem wake_of_not_idle (previous : Option Nat) (flags : WakeFlags)
    (nothing : ∀ unit, unit ∉ scheduler.occupancy.idle) :
    let woken := scheduler.wake now task previous flags
    let search := scheduler.occupancy.chooseVictim (scheduler.observedTier task) now
    let victim := if flags.sync = false then search.1 else none
    woken.reply.direct = false ∧
      woken.reply.unit =
        victim.getD ((previous.filter fun unit => unit < scheduler.config.units).getD 0) ∧
      woken.kicks = Occupancy.victimKicks victim ∧
      woken.scheduler.occupancy =
        if flags.sync = false then search.2 else scheduler.occupancy := by
  rcases scheduler.wake_eq_place_observedTier now task previous flags with
    ⟨slice, reply_eq, kicks_eq, occupancy_eq⟩
  intro woken search victim
  have taken : ∃ after, scheduler.occupancy.takeIdle (scheduler.topology.preferences
      (if flags.fork then none else previous) (scheduler.observedTier task)) = (none, after) := by
    rcases taken : scheduler.occupancy.takeIdle (scheduler.topology.preferences
        (if flags.fork then none else previous) (scheduler.observedTier task)) with
      ⟨_ | unit, after⟩
    · exact ⟨after, rfl⟩
    · rcases Occupancy.takeIdle_eq_some taken with ⟨_, _, _, _, _, least, _⟩
      exact absurd least.1.1 (nothing unit)
  rcases taken with ⟨after, taken⟩
  simp only [woken, reply_eq, kicks_eq, occupancy_eq, victim, search]
  by_cases sync : flags.sync = true
  · simp [place, taken, sync, Occupancy.victimKicks]
  · rcases chosen : scheduler.occupancy.chooseVictim (scheduler.observedTier task) now with
      ⟨_ | unit, searched⟩
    · simp [place, kickVictim, taken, sync, chosen, Occupancy.victimKicks]
    · simp [place, kickVictim, taken, sync, chosen, Occupancy.victimKicks, markKickedOnWake,
        count]

theorem preempts_kickVictim {before : Occupancy} (faithful : before.Faithful) {called : Prop}
    (holds : called) (same : scheduler.occupancy = before) (tier : Tier) (hint : Nat) :
    before.Preempts tier now called (scheduler.kickVictim tier now hint).kicks
      (scheduler.kickVictim tier now hint).scheduler.occupancy := by
  subst before
  have preempts := faithful.preempts_of_called holds tier now
  rcases chosen : scheduler.occupancy.chooseVictim tier now with ⟨_ | unit, searched⟩
  · simp only [chosen] at preempts
    simp only [kickVictim, chosen]
    exact preempts
  · simp only [chosen] at preempts
    simp only [kickVictim, chosen, count]
    exact preempts

variable {scheduler}

theorem preempts_wake (faithful : scheduler.occupancy.Faithful) (previous : Option Nat)
    (flags : WakeFlags) (nothing : ∀ unit, unit ∉ scheduler.occupancy.idle) :
    scheduler.occupancy.Preempts (scheduler.observedTier task) now
      ((∀ unit, scheduler.occupancy.isIdle unit = false) ∧ flags.sync = false)
      (scheduler.wake now task previous flags).kicks
      (scheduler.wake now task previous flags).scheduler.occupancy := by
  have busy : ∀ unit, scheduler.occupancy.isIdle unit = false := by
    intro unit
    rw [← Bool.not_eq_true, faithful.isIdle_iff]
    exact nothing unit
  rcases scheduler.wake_of_not_idle now task previous flags nothing with
    ⟨_, _, kicks_eq, occupancy_eq⟩
  rw [kicks_eq, occupancy_eq]
  by_cases asynchronous : flags.sync = false
  · rw [if_pos asynchronous, if_pos asynchronous]
    exact faithful.preempts_of_called ⟨busy, asynchronous⟩ _ now
  · rw [if_neg asynchronous, if_neg asynchronous]
    exact .silent fun possible => asynchronous possible.1.2

/-- An entry of the task is pushed when it is queued. -/
def Pushes (scheduler : Scheduler) (now : Nanos) (task : TaskId) (flags : EnqueueFlags) : Prop :=
  ∃ tier entry, (scheduler.enqueue now task flags).scheduler.queues = scheduler.queues.push tier entry

variable {now task}

theorem pushes_iff {flags : EnqueueFlags} :
    scheduler.Pushes now task flags ↔ scheduler.pushed? now task ≠ none := by
  rw [Pushes, queues_enqueue]
  cases scheduler.pushed? now task with
  | none =>
      refine iff_of_false ?_ (fun pushed => pushed rfl)
      rintro ⟨tier, entry, same⟩
      have heavier := congrArg ReadyQueues.weight same
      rw [ReadyQueues.weight_push] at heavier
      exact Nat.ne_add_one _ heavier
  | some pushed => exact iff_of_true ⟨_, _, rfl⟩ (Option.some_ne_none pushed)

/-- What is pushed shows the tier of the task and whether its wake-up kicked a unit. -/
theorem pushed?_eq_some {pushed : Profile.Enqueued}
    (queued : scheduler.pushed? now task = some pushed) :
    pushed.tier = scheduler.observedTier task ∧ (pushed.kickedOnWake = false ↔
      ∀ profile ∈ scheduler.profile? task, profile.kickedOnWake = false) := by
  rw [observedTier]
  rcases pushed?_cases queued with ⟨refused, rfl⟩ | ⟨profile, observed, rfl⟩
  · rw [refused, profile?_eq_none_of_observed? refused]
    exact ⟨rfl, by simp [untrackedEntry]⟩
  · rw [observed]
    refine ⟨rfl, ?_⟩
    rcases observed?_eq_some observed with tracked | ⟨missing, rfl⟩
    · simp [tracked]
    · simp only [missing, Option.not_mem_none, false_imp_iff, implies_true, iff_true]
      rfl

/-- An enqueue calls for a kick. -/
def CallsForKick (scheduler : Scheduler) (now : Nanos) (task : TaskId) (flags : EnqueueFlags) :
    Prop :=
  scheduler.Pushes now task flags ∧
    (flags.wakeup = true ∧ flags.preempted = false ∧ flags.requeued = false) ∧
    scheduler.observedTier task ≤ scheduler.config.kickingTier ∧
    ∀ profile ∈ scheduler.profile? task, profile.kickedOnWake = false

theorem callsForKick_iff {flags : EnqueueFlags} {pushed : Profile.Enqueued}
    (queued : scheduler.pushed? now task = some pushed) :
    scheduler.CallsForKick now task flags ↔ flags.genuineWakeup = true ∧
      pushed.kickedOnWake = false ∧ pushed.tier ≤ scheduler.config.kickingTier := by
  rcases pushed?_eq_some queued with ⟨tier_eq, kicked_iff⟩
  have pushes : scheduler.Pushes now task flags := pushes_iff.mpr (by simp [queued])
  have genuine_iff : flags.genuineWakeup = true ↔
      flags.wakeup = true ∧ flags.preempted = false ∧ flags.requeued = false := by
    simp [EnqueueFlags.genuineWakeup]
  rw [CallsForKick, and_iff_right pushes, ← genuine_iff, ← tier_eq, ← kicked_iff,
    and_comm (a := pushed.tier ≤ _)]

theorem preempts_enqueue (faithful : scheduler.occupancy.Faithful) (now : Nanos) (task : TaskId)
    (flags : EnqueueFlags) :
    scheduler.occupancy.Preempts (scheduler.observedTier task) now
      (scheduler.CallsForKick now task flags) (scheduler.enqueue now task flags).kicks
      (scheduler.enqueue now task flags).scheduler.occupancy := by
  have occupancy_eq := scheduler.occupancy_observe task task
    (fun profile => profile.enqueue now) (some scheduler.untrackedEntry)
  have config_eq := scheduler.config_observe task task
    (fun profile => profile.enqueue now) (some scheduler.untrackedEntry)
  have reply_eq : (scheduler.observe task task (fun profile => profile.enqueue now)
      (some scheduler.untrackedEntry)).reply = scheduler.pushed? now task :=
    scheduler.reply_observe task task _ _
  simp only [enqueue, Outcome.kicks_andThen, Outcome.scheduler_andThen, kicks_observe,
    List.nil_append, reply_eq]
  cases queued : scheduler.pushed? now task with
  | none =>
      dsimp only
      rw [occupancy_eq]
      exact .silent fun possible => pushes_iff.mp possible.1.1 queued
  | some pushed =>
      have called_iff := @callsForKick_iff scheduler now task flags pushed queued
      rw [← config_eq] at called_iff
      dsimp only
      split
      · rename_i wakeup
        simp only [Outcome.kicks_andThen, Outcome.scheduler_andThen, List.append_nil]
        rw [← (pushed?_eq_some queued).1]
        refine preempts_kickVictim _ now faithful (called_iff.mpr wakeup) ?_ _ task
        exact occupancy_eq
      · rename_i calm
        have quiet : ¬scheduler.CallsForKick now task flags := fun called => calm (called_iff.mp called)
        change scheduler.occupancy.Preempts _ _ _ _ (scheduler.observe task task _ _).scheduler.occupancy
        rw [occupancy_eq]
        exact .silent fun possible => quiet possible.1

end Scheduler

namespace Execution

variable (execution : Execution)

/-- Kicking a unit pays for a waiting task of a tier: the unit is one of the four lowest victims, it runs
a lower tier, and its latest kick for a waiting task, if any, lies at least the cooldown back. -/
structure WorthKicking (execution : Execution) (tier : Tier) (now : Nanos) (unit : Nat) : Prop where
  victim : execution.scheduler.occupancy.isVictim unit = true
  near : ((Finset.range unit).filter fun lower =>
    execution.scheduler.occupancy.isVictim lower = true).card < 4
  lower : ∃ running, execution.scheduler.occupancy.running? unit = some running ∧ tier < running
  cooled : ∀ reading ∈ lastKick? execution.kickLog unit,
    max reading.toNat 1 + execution.config.kickCooldown.toNat ≤ now.toNat

theorem kickable_iff {tier : Tier} {now : Nanos} {unit : Nat} :
    execution.scheduler.occupancy.Kickable tier now unit ↔
      execution.WorthKicking tier now unit := by
  constructor
  · rintro ⟨victim, near, lower, cooled⟩
    have exist := UnitSet.lt_of_mem (execution.faithful.isVictim_iff.mp victim)
    exact ⟨victim, near, lower, (execution.cooledDown_iff ⟨unit, exist⟩ now).mp (cooled _ rfl)⟩
  · rintro ⟨victim, near, lower, cooled⟩
    refine ⟨victim, near, lower, ?_⟩
    rintro slot rfl
    exact (execution.cooledDown_iff slot now).mpr cooled

/-- What a callback has to do about a waiting task of a tier, if it calls for a kick under a condition:
it kicks the lowest unit for which this pays. -/
structure KicksFor (execution : Execution) (tier : Tier) (now : Nanos) (called : Prop)
    (kicks : List Kick) (after : Occupancy) : Prop where
  kicks_iff : (∃ unit, ⟨unit, .preemption⟩ ∈ kicks) ↔
    called ∧ ∃ unit, execution.WorthKicking tier now unit
  alone : kicks = [] ∨ ∃ unit, kicks = [⟨unit, .preemption⟩]
  kicked : ∀ unit, ⟨unit, .preemption⟩ ∈ kicks →
    IsLeast {other | execution.WorthKicking tier now other} unit ∧
      unit < execution.config.units ∧
      execution.scheduler.occupancy.isIdle unit = false ∧
      (∃ running, execution.scheduler.occupancy.running? unit = some running ∧
        execution.config.victimTier ≤ running) ∧
      after = execution.scheduler.occupancy.startCooldown unit now

variable {execution} {tier : Tier} {now : Nanos} {called : Prop} {kicks : List Kick}
  {after : Occupancy}

/-- A unit that is worth a kick is a victim, so it exists, runs something low enough and is not idle. -/
theorem WorthKicking.shown {unit : Nat} (worth : execution.WorthKicking tier now unit) :
    unit < execution.config.units ∧ execution.scheduler.occupancy.isIdle unit = false ∧
      ∃ running, execution.scheduler.occupancy.running? unit = some running ∧
        execution.config.victimTier ≤ running := by
  rcases worth.lower with ⟨running, shown, _⟩
  rcases execution.faithful.shown shown with ⟨busy, victim_iff⟩
  have low := victim_iff.mp worth.victim
  rw [execution.victimTier_occupancy] at low
  have exist := execution.faithful.victims_lt unit (execution.faithful.isVictim_iff.mp worth.victim)
  rw [execution.units_occupancy] at exist
  exact ⟨exist, busy, running, shown, low⟩

theorem KicksFor.of_silent (silent : kicks = [])
    (nobody : ¬(called ∧ ∃ unit, execution.WorthKicking tier now unit)) :
    execution.KicksFor tier now called kicks after := by
  subst silent
  refine ⟨?_, Or.inl rfl, fun unit member => absurd member List.not_mem_nil⟩
  exact iff_of_false (fun ⟨unit, member⟩ => List.not_mem_nil member) nobody

theorem kicksFor_of_preempts
    (preempts : execution.scheduler.occupancy.Preempts tier now called kicks after) :
    execution.KicksFor tier now called kicks after := by
  cases preempts with
  | kicked holds least =>
      rename_i victim
      simp only [execution.kickable_iff] at least
      refine ⟨?_, Or.inr ⟨victim, rfl⟩, ?_⟩
      · exact iff_of_true ⟨victim, List.mem_singleton_self _⟩ ⟨holds, victim, least.1⟩
      · intro unit member
        have own : unit = victim := by simpa using member
        subst own
        rcases least.1.shown with ⟨exist, busy, low⟩
        exact ⟨least, exist, busy, low, rfl⟩
  | silent nobody =>
      simp only [execution.kickable_iff] at nobody
      exact .of_silent rfl nobody

variable (execution)

/-- A wake-up and an enqueue kick a unit for their task exactly if they call for it and it pays, and then
the lowest unit for which it pays. A woken task is sent to the unit that it kicks. If it neither gets an
idle unit nor kicks one, it is sent to where it came from. -/
theorem preemption_pays (now : Nanos) (task : TaskId) :
    (∀ previous flags,
      let before := execution.scheduler.occupancy
      let woken := execution.scheduler.wake now task previous flags
      execution.KicksFor (execution.scheduler.observedTier task) now
          ((∀ unit, before.isIdle unit = false) ∧ flags.sync = false) woken.kicks
          woken.scheduler.occupancy ∧
        (∀ unit, ⟨unit, .preemption⟩ ∈ woken.kicks →
          woken.reply.direct = false ∧ woken.reply.unit = unit) ∧
        (woken.reply.direct = false → woken.kicks = [] →
          woken.reply.unit =
              (previous.filter fun unit => unit < execution.config.units).getD 0 ∧
            woken.scheduler.occupancy = before)) ∧
      ∀ flags,
        let enqueued := execution.scheduler.enqueue now task flags
        execution.KicksFor (execution.scheduler.observedTier task) now
            ((∃ tier entry, enqueued.scheduler.queues =
                execution.scheduler.queues.push tier entry) ∧
              (flags.wakeup = true ∧ flags.preempted = false ∧ flags.requeued = false) ∧
              execution.scheduler.observedTier task ≤ execution.config.kickingTier ∧
              ∀ profile ∈ execution.scheduler.profile? task, profile.kickedOnWake = false)
            enqueued.kicks enqueued.scheduler.occupancy ∧
          (enqueued.kicks = [] →
            enqueued.scheduler.occupancy = execution.scheduler.occupancy) := by
  refine ⟨?_, ?_⟩
  · intro previous flags before woken
    rcases execution.wake_suits now task previous flags with ⟨direct, suits, silent, _⟩ | ⟨_, nothing⟩
    · have free : before.isIdle woken.reply.unit = true :=
        execution.faithful.isIdle_iff.mpr suits.free
      have silent : woken.kicks = [] := silent
      refine ⟨.of_silent silent ?_, ?_, fun queued => absurd direct (by simp [woken, queued])⟩
      · exact fun called => Bool.noConfusion (free.symm.trans (called.1.1 _))
      · intro unit member
        rw [silent] at member
        exact absurd member List.not_mem_nil
    · have preempts :=
        Scheduler.preempts_wake now task execution.faithful previous flags nothing
      rcases execution.scheduler.wake_of_not_idle now task previous flags nothing with
        ⟨direct_eq, unit_eq, kicks_eq, _⟩
      refine ⟨kicksFor_of_preempts preempts, ?_, ?_⟩
      · intro unit member
        have chosen := Occupancy.mem_victimKicks.mp (kicks_eq ▸ member)
        refine ⟨direct_eq, unit_eq.trans ?_⟩
        rw [chosen, Option.getD_some]
      · intro _ silent
        have missed := Occupancy.victimKicks_eq_nil.mp (kicks_eq.symm.trans silent)
        refine ⟨unit_eq.trans ?_, preempts.unchanged silent⟩
        rw [missed, Option.getD_none, execution.config_eq]
  · intro flags enqueued
    have preempts := Scheduler.preempts_enqueue execution.faithful now task flags
    rw [Scheduler.CallsForKick, execution.config_eq] at preempts
    exact ⟨kicksFor_of_preempts preempts, preempts.unchanged⟩

/-- The task on unit 1 has run so long that it is interrupted for a woken task, which is sent there. -/
theorem preemption_pays_of_long_run :
    let execution := ofHistory
      [(1000, .start 1 7), (100001000, .stop 1 7 true), (100001000, .start 1 7)]
    let woken := execution.scheduler.wake 200000000 8 (some 5) ⟨false, false⟩
    ⟨1, .preemption⟩ ∈ woken.kicks ∧ woken.reply.unit = 1 ∧
      IsLeast {other | execution.WorthKicking (execution.scheduler.observedTier 8) 200000000 other}
        1 := by
  intro execution woken
  have kicked : ⟨1, .preemption⟩ ∈ woken.kicks := by decide +kernel
  have pays := (execution.preemption_pays 200000000 8).1 (some 5) ⟨false, false⟩
  exact ⟨kicked, (pays.2.1 1 kicked).2, (pays.1.kicked 1 kicked).1⟩

end Execution

end TierSched
