import TierSched.Proofs.Callback
import TierSched.Proofs.CounterAlgebra
import TierSched.Proofs.Execution

/-!
# What is counted

A hint decides which shard counts an occurrence, but only the sum of all shards is ever read, and the
sum does not depend on the shard. `Statistics.Records` therefore forgets the hints: it says that one
state of the statistics leads to another one by counting a list of occurrences. `Records.toCounters_eq`
reads off the sum afterwards, and `Scheduler.occurrences` lists what each event counts.
-/

namespace TierSched

namespace Statistics

/-- Counting an occurrence on any shard counts it once in the sum. -/
theorem toCounters_record {statistics : Statistics} (enabled : statistics.enabled = true)
    (hint : Nat) (occurrence : Occurrence) :
    (statistics.record hint occurrence).summary.toCounters =
      statistics.summary.toCounters.record occurrence := by
  simp only [record, enabled, if_true, summary, ← Array.foldl_toList, Array.toList_set]
  exact Counters.foldl_merge_set _ _ _ _

/-- The statistics after several occurrences on one shard. -/
def recordAll (statistics : Statistics) (hint : Nat) (occurrences : List Occurrence) :
    Statistics :=
  occurrences.foldl (fun counted occurrence => counted.record hint occurrence) statistics

/-- The occurrences were counted one after the other, on whatever shards. -/
inductive Records : Statistics → List Occurrence → Statistics → Prop where
  | nil (statistics : Statistics) : Records statistics [] statistics
  | cons {before after : Statistics} {occurrence : Occurrence} {later : List Occurrence}
      (hint : Nat) (rest : Records (before.record hint occurrence) later after) :
      Records before (occurrence :: later) after

namespace Records

variable {before middle after : Statistics} {occurrences later : List Occurrence}

theorem single (statistics : Statistics) (hint : Nat) (occurrence : Occurrence) :
    Records statistics [occurrence] (statistics.record hint occurrence) :=
  .cons hint (.nil _)

theorem recordAll (statistics : Statistics) (hint : Nat) (occurrences : List Occurrence) :
    Records statistics occurrences (statistics.recordAll hint occurrences) := by
  induction occurrences generalizing statistics with
  | nil => exact .nil _
  | cons occurrence later ih => exact .cons hint (ih _)

theorem append (early : Records before occurrences middle) (late : Records middle later after) :
    Records before (occurrences ++ later) after := by
  induction early with
  | nil statistics => exact late
  | cons hint rest ih => exact .cons hint (ih late)

theorem enabled_eq (records : Records before occurrences after) :
    after.enabled = before.enabled := by
  induction records with
  | nil statistics => rfl
  | cons hint rest ih => exact ih.trans (enabled_record _ _ _)

theorem eq_of_disabled (records : Records before occurrences after)
    (disabled : before.enabled = false) : after = before := by
  induction records with
  | nil statistics => rfl
  | cons hint rest ih =>
      rw [record_of_disabled disabled] at ih
      exact ih disabled

theorem toCounters_eq (records : Records before occurrences after)
    (enabled : before.enabled = true) :
    after.summary.toCounters = occurrences.foldl Counters.record before.summary.toCounters := by
  induction records with
  | nil statistics => rfl
  | cons hint rest ih =>
      rw [List.foldl_cons, ← toCounters_record enabled hint]
      exact ih ((enabled_record _ _ _).trans enabled)

end Records

end Statistics

theorem Counters.fallbacks_foldl_record (counters : Counters) (occurrences : List Occurrence) :
    (occurrences.foldl record counters).fallbacks =
      counters.fallbacks + .ofNat (occurrences.count .fallback) := by
  rw [foldl_record]
  apply congrArg (counters.fallbacks + ·)
  apply read_sum_single Counters.fallbacks rfl fun _ _ => rfl
  intro occurrence
  cases occurrence <;> simp

open Statistics (Records)

/-- What is counted when a wait ends. -/
def Profile.Wait.occurrences (wait : Profile.Wait) : List Occurrence :=
  .wait wait.tier wait.duration ::
    match wait.judgement with
    | .demotion _ _ => [.waitDemotion]
    | .tolerated | .breach _ | .unlimited => []

theorem Profile.Wait.fallback_notMem_occurrences (wait : Profile.Wait) :
    .fallback ∉ wait.occurrences := by
  simp only [occurrences]
  cases wait.judgement with
  | _ => simp

/-- The task that an event enters in the roster, if there is room for it. -/
def Event.observes? : Event → Option TaskId
  | wake task _ _ | enqueue task _ | start _ task => some task
  | dispatch _ | stop _ _ _ | tick _ _ | changeIdle _ _ | exit _ => none

namespace Scheduler

section Start

variable (scheduler : Scheduler) (now : Nanos) (unit : Nat) (task : TaskId)

/-- The wait that a start of the task judges. -/
def judgedWait? : Option Profile.Wait :=
  (scheduler.observed? task).bind fun profile =>
    (profile.start scheduler.config.waitBudget now).1.wait

/-- A task that is first seen when it starts has not waited. -/
theorem judgedWait?_eq :
    scheduler.judgedWait? now task =
      (scheduler.profile? task).bind fun profile =>
        (profile.start scheduler.config.waitBudget now).1.wait := by
  rw [judgedWait?]
  cases observed : scheduler.observed? task with
  | none => simp [profile?_eq_none_of_observed? observed]
  | some profile =>
      rcases observed?_eq_some observed with tracked | ⟨untracked, rfl⟩
      · simp [tracked]
      · simp only [untracked, Option.bind_some, Option.bind_none]
        rfl

/-- What is counted if the task cannot be tracked. -/
def refusals : List Occurrence :=
  match scheduler.observed? task with
  | none => [.fallback]
  | some _ => []

/-- What a start of the task counts. -/
def startOccurrences : List Occurrence :=
  scheduler.refusals task ++
    match scheduler.judgedWait? now task with
    | none => []
    | some wait => wait.occurrences

theorem statistics_observe {Report : Type} (hint : Nat) (change : Profile → Report × Profile)
    (untracked : Report) :
    (scheduler.observe task hint change untracked).scheduler.statistics =
      scheduler.statistics.recordAll hint (scheduler.refusals task) := by
  simp only [observe, refusals, observed?, Roster.updateOrInsert, profile?]
  cases found : scheduler.roster.get? task with
  | some profile => simp [Statistics.recordAll]
  | none =>
      by_cases full : scheduler.roster.capacity ≤ scheduler.roster.count
      · simp [full, count, Statistics.recordAll]
      · simp [full, Statistics.recordAll]

theorem statistics_settleWait (wait : Profile.Wait) :
    (scheduler.settleWait unit task wait).scheduler.statistics =
      scheduler.statistics.recordAll unit wait.occurrences := by
  simp only [settleWait, Profile.Wait.occurrences, Statistics.recordAll]
  cases wait.judgement <;> rfl

/-- A start counts nothing but the wait that it judges, and a task that cannot be tracked. -/
theorem statistics_start :
    (scheduler.start now unit task).scheduler.statistics =
      scheduler.statistics.recordAll unit (scheduler.startOccurrences now task) := by
  have statistics_eq := scheduler.statistics_observe task unit
    (fun profile => profile.start scheduler.config.waitBudget now) untrackedStart
  have wait_eq : (scheduler.observe task unit
      (fun profile => profile.start scheduler.config.waitBudget now) untrackedStart).reply.wait =
        scheduler.judgedWait? now task := by
    rw [reply_observe, judgedWait?]
    cases scheduler.observed? task <;> rfl
  simp only [start, Outcome.scheduler_andThen, reportRunning, wait_eq, startOccurrences]
  rw [Statistics.recordAll, List.foldl_append]
  cases scheduler.judgedWait? now task with
  | none =>
      simp only [List.foldl_nil]
      split <;> exact statistics_eq
  | some wait =>
      simp only [statistics_settleWait]
      rw [Statistics.recordAll] at statistics_eq ⊢
      rw [← statistics_eq]
      split <;> rfl

end Start

/-- What an event counts, in order. -/
def occurrences (scheduler : Scheduler) (now : Nanos) : Event → List Occurrence
  | .wake task previous flags =>
    let outcome := scheduler.wake now task previous flags
    scheduler.refusals task ++
      if outcome.reply.direct then
        [.dispatch (((scheduler.observed? task).map Profile.tier).getD .interactive) true]
      else
        outcome.kicks.map fun _ => .victimKick
  | .enqueue task flags =>
    scheduler.refusals task ++
      if (scheduler.pushed? now task).isSome then
        .enqueue flags.genuineWakeup ::
          (scheduler.enqueue now task flags).kicks.map fun _ => .victimKick
      else
        []
  | .dispatch unit =>
    (scheduler.dispatch unit).reply.toList.map fun assignment => .dispatch assignment.tier false
  | .start _ task => scheduler.startOccurrences now task
  | .stop _ task requeue =>
    let moved := (scheduler.profile? task).bind fun profile =>
      (profile.stop scheduler.config now requeue).1
    moved.toList.map fun tiers => .reclassification tiers.1 tiers.2
  | .tick _ task =>
    let overrun := (scheduler.profile? task).bind fun profile =>
      (profile.checkCeiling scheduler.config.runCeiling now).1
    overrun.toList.map fun found => .starvationKick found.1
  | .changeIdle _ _ | .exit _ => []

variable (scheduler : Scheduler) (now : Nanos) (task : TaskId)

theorem records_observe {Report : Type} (hint : Nat) (change : Profile → Report × Profile)
    (untracked : Report) :
    Records scheduler.statistics (scheduler.refusals task)
      (scheduler.observe task hint change untracked).scheduler.statistics := by
  rw [statistics_observe]
  exact .recordAll _ hint _

theorem records_kickVictim {before : Statistics} (same : scheduler.statistics = before)
    (tier : Tier) (hint : Nat) :
    Records before
      ((scheduler.kickVictim tier now hint).kicks.map fun _ => .victimKick)
      (scheduler.kickVictim tier now hint).scheduler.statistics := by
  subst before
  simp only [kickVictim]
  split
  · exact .nil _
  · exact .single _ hint _

theorem records_place (previous : Option Nat) (flags : WakeFlags) (tier : Tier) (slice : Nanos) :
    Records scheduler.statistics
      (if (scheduler.place now task previous flags tier slice).reply.direct then
        [.dispatch tier true]
      else
        (scheduler.place now task previous flags tier slice).kicks.map fun _ => .victimKick)
      (scheduler.place now task previous flags tier slice).scheduler.statistics := by
  rcases taken : scheduler.occupancy.takeIdle (scheduler.topology.preferences
      (if flags.fork then none else previous) tier) with ⟨_ | unit, occupancy⟩
  · simp only [place, taken, Outcome.reply_andThen, Outcome.scheduler_andThen,
      Outcome.kicks_andThen]
    by_cases sync : flags.sync = true
    · simp only [if_pos sync, List.append_nil, List.map_nil, Bool.false_eq_true, if_false]
      exact .nil _
    · have search := scheduler.records_kickVictim now rfl tier (previous.getD 0)
      rw [if_neg sync]
      cases (scheduler.kickVictim tier now (previous.getD 0)).reply with
      | none => simpa using search
      | some unit => simpa [markKickedOnWake] using search
  · simp only [place, taken, if_true]
    exact .single _ unit _

theorem records_wake (previous : Option Nat) (flags : WakeFlags) :
    Records scheduler.statistics (scheduler.occurrences now (.wake task previous flags))
      (scheduler.wake now task previous flags).scheduler.statistics := by
  have observed := scheduler.records_observe task (previous.getD 0)
    (fun profile => profile.wake now) (.interactive, scheduler.config.quantum)
  have tier_eq : (scheduler.observe task (previous.getD 0) (fun profile => profile.wake now)
      (.interactive, scheduler.config.quantum)).reply.1 =
        ((scheduler.observed? task).map Profile.tier).getD .interactive := by
    rw [reply_observe]
    cases scheduler.observed? task with
    | none => rfl
    | some profile => rfl
  simp only [occurrences, wake, Outcome.reply_andThen, Outcome.scheduler_andThen,
    Outcome.kicks_andThen, kicks_observe, List.nil_append]
  rw [← tier_eq]
  exact observed.append (records_place _ now task previous flags _ _)

theorem records_enqueue (flags : EnqueueFlags) :
    Records scheduler.statistics (scheduler.occurrences now (.enqueue task flags))
      (scheduler.enqueue now task flags).scheduler.statistics := by
  have observed := scheduler.records_observe task task (fun profile => profile.enqueue now)
    (some scheduler.untrackedEntry)
  have pushed_eq : (scheduler.observe task task (fun profile => profile.enqueue now)
      (some scheduler.untrackedEntry)).reply = scheduler.pushed? now task :=
    reply_observe scheduler task task _ _
  simp only [occurrences, enqueue, Outcome.scheduler_andThen, Outcome.kicks_andThen,
    kicks_observe, List.nil_append, pushed_eq]
  apply observed.append
  generalize (scheduler.observe task task (fun profile => profile.enqueue now)
    (some scheduler.untrackedEntry)).scheduler = next
  cases scheduler.pushed? now task with
  | none => exact .nil _
  | some pushed =>
      apply Records.cons task
      dsimp only
      split
      · simp only [Outcome.scheduler_andThen, Outcome.kicks_andThen, List.append_nil]
        refine records_kickVictim _ now ?_ pushed.tier task
        rfl
      · exact .nil _

theorem records_handle (event : Event) :
    Records scheduler.statistics (scheduler.occurrences now event)
      (scheduler.handle now event).scheduler.statistics := by
  cases event with
  | wake task previous flags => exact scheduler.records_wake now task previous flags
  | enqueue task flags => exact scheduler.records_enqueue now task flags
  | dispatch unit =>
      simp only [occurrences, handle, Outcome.map, dispatch]
      cases (draw scheduler.queues scheduler.roster).taken with
      | none => exact .nil _
      | some found => exact .single _ unit _
  | start unit task =>
      rw [handle, Outcome.map, statistics_start]
      exact .recordAll _ unit _
  | stop unit task requeue =>
      cases found : scheduler.roster.get? task with
      | none =>
          simp only [occurrences, handle, Outcome.map, stop, profile?, Roster.update, found]
          exact .nil _
      | some profile =>
          simp only [occurrences, handle, Outcome.map, stop, profile?, Roster.update, found,
            Option.bind_some, Option.join_some]
          cases (profile.stop scheduler.config now requeue).1 with
          | none => exact .nil _
          | some moved => exact .single _ unit _
  | tick unit task =>
      cases found : scheduler.roster.get? task with
      | none =>
          simp only [occurrences, handle, Outcome.map, tick, profile?, Roster.update, found]
          exact .nil _
      | some profile =>
          simp only [occurrences, handle, Outcome.map, tick, profile?, Roster.update, found,
            Option.bind_some, Option.join_some]
          cases (profile.checkCeiling scheduler.config.runCeiling now).1 with
          | none => exact .nil _
          | some overrun => exact .single _ unit _
  | changeIdle unit idle =>
      simp only [occurrences, handle, Outcome.map, changeIdle]
      split
      · exact .nil _
      · exact .nil _
  | exit task =>
      simp only [occurrences, handle, Outcome.map, exit, dropEntries]
      split
      · exact .nil _
      · exact .nil _

theorem count_fallback_occurrences (event : Event) :
    (scheduler.occurrences now event).count .fallback =
      (event.observes?.toList.flatMap scheduler.refusals).count .fallback := by
  cases event with
  | wake task previous flags =>
      simp only [occurrences, Event.observes?, Option.toList_some, List.flatMap_singleton,
        List.count_append, Nat.add_eq_left, List.count_eq_zero]
      split
      · simp
      · simp
  | enqueue task flags =>
      simp only [occurrences, Event.observes?, Option.toList_some, List.flatMap_singleton,
        List.count_append, Nat.add_eq_left, List.count_eq_zero]
      split
      · simp
      · simp
  | start unit task =>
      simp only [occurrences, startOccurrences, Event.observes?, Option.toList_some,
        List.flatMap_singleton, List.count_append, Nat.add_eq_left, List.count_eq_zero]
      cases scheduler.judgedWait? now task with
      | none => exact List.not_mem_nil
      | some wait => exact wait.fallback_notMem_occurrences
  | _ => simp [occurrences, Event.observes?, List.count_eq_zero]

/-- A task for which there is no room is counted once for each event that would enter it. -/
theorem fallbacks_handle (event : Event) :
    (scheduler.handle now event).scheduler.statistics.summary.fallbacks =
      scheduler.statistics.summary.fallbacks +
        if scheduler.statistics.enabled = true ∧
            ∃ task, event.observes? = some task ∧ scheduler.observed? task = none then 1
        else 0 := by
  have records := scheduler.records_handle now event
  cases enabled : scheduler.statistics.enabled with
  | false => simp [records.eq_of_disabled enabled]
  | true =>
      rw [records.toCounters_eq enabled, Counters.fallbacks_foldl_record,
        count_fallback_occurrences]
      cases event.observes? with
      | none => simp
      | some task =>
          cases observed : scheduler.observed? task with
          | none => simp [refusals, observed]
          | some profile => simp [refusals, observed]

end Scheduler

theorem Execution.enabled_statistics (execution : Execution) :
    execution.scheduler.statistics.enabled = execution.config.statisticsEnabled := by
  apply execution.induction (motive := fun _ scheduler =>
    scheduler.statistics.enabled = execution.config.statisticsEnabled)
  · rfl
  · intro _ scheduler now event enabled_eq
    exact (scheduler.records_handle now event).enabled_eq.trans enabled_eq

end TierSched
