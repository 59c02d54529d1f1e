import TierSched.Proofs.EventCount
import TierSched.Proofs.QueueBalance
import TierSched.Proofs.Sharding

/-!
# The ledger of a run

The summary is compared with what can be observed of a run without the statistics: with the answers and
the kicks, with the queues, and with the profiles before and after each event. For each of the counters
there is one law about a single moment, `Moment.adds_…`: what the event adds to the counter is what is
observed in this moment. `Execution.read_summary` turns the law into a statement about the whole run,
because the summary is the sum of the counters of all occurrences.
-/

namespace TierSched

namespace Moment

variable (moment : Moment)

/-- The number of tasks that are placed on an idle unit when they are woken. -/
def placedDirectly : Nat :=
  match moment.outcome.reply with
  | .placed placement => placement.direct.toNat
  | .none | .dispatched _ => 0

/-- The number of kicks for the given reason. -/
def kicksFor (reason : KickReason) : Nat :=
  moment.outcome.kicks.countP fun kick => kick.reason = reason

/-- The number of kicks because a task of the given tier starved others. -/
def starvationKicks (tier : Tier) : Nat :=
  match moment.event with
  | .tick _ task =>
    if (moment.scheduler.profile? task).map Profile.tier = some tier then
      moment.kicksFor .starvation
    else 0
  | _ => 0

/-- The number of tasks that a start moves to a lower tier. -/
noncomputable def waitDemotions : Nat :=
  match moment.event with
  | .start _ _ => moment.worsenings
  | _ => 0

/-- The waits that end in the given tier: only a task that could run has waited when it starts. -/
def waits (tier : Tier) : List Nanos :=
  match moment.event with
  | .start _ task =>
    match moment.scheduler.profile? task with
    | some profile =>
      if profile.phase.isRunnable = true ∧ profile.tier = tier then
        [Nanos.elapsed profile.runnableSince moment.now]
      else []
    | none => []
  | _ => []

section Dispatches

def directDispatches : Reading UInt64 := ⟨Counters.directDispatches, rfl, fun _ _ => rfl, rfl⟩

theorem adds_directDispatches : moment.adds directDispatches = .ofNat moment.placedDirectly := by
  rcases moment with ⟨scheduler, now, event⟩
  cases event with
  | wake task previous flags =>
      cases direct : (scheduler.wake now task previous flags).reply.direct with
      | _ => simp [directDispatches, placedDirectly, direct]
  | _ => simp [directDispatches, placedDirectly]

def dispatches : Reading UInt64 := ⟨Counters.dispatches, rfl, fun _ _ => rfl, rfl⟩

theorem adds_dispatches :
    moment.adds dispatches = .ofNat (moment.placedDirectly + moment.handedOut) := by
  rcases moment with ⟨scheduler, now, event⟩
  cases event with
  | wake task previous flags =>
      cases direct : (scheduler.wake now task previous flags).reply.direct with
      | _ => simp [dispatches, placedDirectly, handedOut, direct]
  | _ => simp [dispatches, placedDirectly, handedOut]

def tierDispatches : Reading UInt64 where
  read counters := counters.tierDispatches.toList.sum
  read_zero := rfl
  read_add _ _ := Tier.Table.sum_zipWith_add _ _
  read_fallback := rfl

/-- Every occurrence adds to the row of the tiers what it adds to the total. -/
theorem adds_tierDispatches : moment.adds tierDispatches = moment.adds dispatches := by
  refine congrArg List.sum (List.map_congr_left fun occurrence _ => ?_)
  cases occurrence with
  | _ => simp [tierDispatches, dispatches]

def enqueues : Reading UInt64 where
  read counters := counters.wakeupEnqueues + counters.requeueEnqueues
  read_zero := rfl
  read_add _ _ := add_add_add_comm _ _ _ _
  read_fallback := rfl

theorem adds_enqueues : moment.adds enqueues = .ofNat moment.pushed := by
  rw [pushed_eq]
  rcases moment with ⟨scheduler, now, event⟩
  cases event with
  | enqueue task flags =>
      rw [adds_enqueue]
      cases found : scheduler.pushed? now task with
      | none => simp [found]
      | some pushed => cases flags.genuineWakeup <;> simp [enqueues, found]
  | _ => simp [enqueues]

end Dispatches

section Kicks

def kicks : Reading UInt64 where
  read := Counters.kicks
  read_zero := rfl
  read_add left right := by
    simp only [Counters.kicks_eq]
    exact (congrArg _ (Tier.Table.sum_zipWith_add _ _)).trans (add_add_add_comm _ _ _ _)
  read_fallback := rfl

theorem adds_kicks : moment.adds kicks = .ofNat moment.outcome.kicks.length := by
  rcases moment with ⟨scheduler, now, event⟩
  cases event with
  | wake task previous flags =>
      rw [adds_wake, outcome_wake, Outcome.kicks_map]
      split
      · rename_i direct
        simp [kicks, Scheduler.kicks_wake_of_direct direct, Counters.kicks_eq]
      · simp [kicks, Counters.kicks_eq]
  | enqueue task flags =>
      rw [adds_enqueue, outcome_enqueue, Outcome.kicks_map]
      cases found : scheduler.pushed? now task with
      | none => simp [Scheduler.kicks_enqueue_of_refused found]
      | some pushed => simp [kicks, Counters.kicks_eq]
  | dispatch unit => simp [kicks, Counters.kicks_eq, Scheduler.kicks_dispatch]
  | start unit task => simp [kicks, Counters.kicks_eq, Scheduler.kicks_start]
  | stop unit task requeue => simp [kicks, Counters.kicks_eq, Scheduler.kicks_stop]
  | tick unit task => simp [kicks, Counters.kicks_eq, Scheduler.kicks_tick]
  | changeIdle unit idle => simp [Scheduler.kicks_changeIdle]
  | exit task => rfl

/-- Only ticks kick for another reason than a waiting task. -/
theorem kicksFor_preemption {moment : Moment}
    (untimed : ∀ unit task, moment.event ≠ .tick unit task) :
    moment.kicksFor .preemption = moment.outcome.kicks.length := by
  apply List.countP_eq_length.mpr
  rintro ⟨unit, reason⟩ issued
  cases reason with
  | preemption => rfl
  | starvation =>
      rcases Scheduler.tick_of_mem_kicks _ _ issued with ⟨task, ticked⟩
      exact absurd ticked (untimed unit task)

def victimKicks : Reading UInt64 := ⟨Counters.victimKicks, rfl, fun _ _ => rfl, rfl⟩

theorem adds_victimKicks :
    moment.adds victimKicks = .ofNat (moment.kicksFor .preemption) := by
  rcases moment with ⟨scheduler, now, event⟩
  cases event with
  | wake task previous flags =>
      rw [adds_wake, kicksFor_preemption (by simp), outcome_wake, Outcome.kicks_map]
      split
      · rename_i direct
        simp [victimKicks, Scheduler.kicks_wake_of_direct direct]
      · simp [victimKicks]
  | enqueue task flags =>
      rw [adds_enqueue, kicksFor_preemption (by simp), outcome_enqueue, Outcome.kicks_map]
      cases found : scheduler.pushed? now task with
      | none => simp [Scheduler.kicks_enqueue_of_refused found]
      | some pushed => simp [victimKicks]
  | dispatch unit => simp [victimKicks, kicksFor, Scheduler.kicks_dispatch]
  | start unit task => simp [victimKicks, kicksFor, Scheduler.kicks_start]
  | stop unit task requeue => simp [victimKicks, kicksFor, Scheduler.kicks_stop]
  | tick unit task =>
      simp [victimKicks, kicksFor, Scheduler.kicks_tick, List.countP_replicate]
  | changeIdle unit idle => simp [kicksFor, Scheduler.kicks_changeIdle]
  | exit task => rfl

def starvationKicksOf (tier : Tier) : Reading UInt64 where
  read counters := counters.starvationKicks.get tier
  read_zero := Tier.Table.get_replicate 0 tier
  read_add _ _ := Tier.Table.get_zipWith _ _ _ tier
  read_fallback := Tier.Table.get_replicate 0 tier

theorem adds_starvationKicksOf (tier : Tier) :
    moment.adds (starvationKicksOf tier) = .ofNat (moment.starvationKicks tier) := by
  rcases moment with ⟨scheduler, now, event⟩
  cases event with
  | tick unit task =>
      simp only [adds_tick, starvationKicks, kicksFor, outcome_tick, Outcome.kicks_map,
        Scheduler.kicks_tick]
      cases scheduler.profile? task with
      | none => rfl
      | some profile =>
          by_cases overruns : profile.Overruns scheduler.config now
          · simp [starvationKicksOf, Profile.checkCeiling_of_overruns overruns, Tier.Table.get_set,
              apply_ite]
          · simp [Profile.checkCeiling_of_not_overruns overruns]
  | _ => simp [starvationKicksOf, starvationKicks]

end Kicks

section Moves

def promotions : Reading UInt64 := ⟨Counters.promotions, rfl, fun _ _ => rfl, rfl⟩

def demotions : Reading UInt64 := ⟨Counters.demotions, rfl, fun _ _ => rfl, rfl⟩

theorem adds_promotions : moment.adds promotions = .ofNat moment.improvements := by
  rw [improvements_eq]
  rcases moment with ⟨scheduler, now, event⟩
  cases event with
  | stop unit task requeue =>
      rw [adds_stop]
      cases stopped : (scheduler.profile? task).bind fun profile =>
          (profile.stop scheduler.config now requeue).1 with
      | none => simp [stopped]
      | some tiers => simp [stopped, promotions, List.countP_cons, apply_ite]
  | _ => simp [promotions]

theorem adds_demotions : moment.adds demotions = .ofNat moment.worsenings := by
  rw [worsenings_eq]
  rcases moment with ⟨scheduler, now, event⟩
  cases event with
  | start unit task =>
      rw [adds_start]
      cases judged : scheduler.judgedWait? now task with
      | none => simp [judged]
      | some wait => simp [judged, demotions, List.countP_cons, apply_ite]
  | stop unit task requeue =>
      rw [adds_stop]
      cases stopped : (scheduler.profile? task).bind fun profile =>
          (profile.stop scheduler.config now requeue).1 with
      | none => simp [stopped]
      | some tiers => simp [stopped, demotions, List.countP_cons, apply_ite]
  | _ => simp [demotions]

def demotionsByWait : Reading UInt64 := ⟨Counters.waitDemotions, rfl, fun _ _ => rfl, rfl⟩

theorem adds_demotionsByWait : moment.adds demotionsByWait = .ofNat moment.waitDemotions := by
  simp only [waitDemotions, worsenings_eq]
  rcases moment with ⟨scheduler, now, event⟩
  cases event with
  | start unit task =>
      rw [adds_start]
      cases judged : scheduler.judgedWait? now task with
      | none => simp [judged]
      | some wait => simp [judged, demotionsByWait, List.countP_cons, apply_ite]
  | _ => simp [demotionsByWait]

end Moves

section Waits

variable (tier : Tier)

def waitsOf : Reading WaitTally where
  read counters := counters.waits.get tier
  read_zero := Tier.Table.get_replicate 0 tier
  read_add _ _ := Tier.Table.get_zipWith _ _ _ tier
  read_fallback := Tier.Table.get_replicate 0 tier

theorem adds_waitsOf :
    moment.adds (waitsOf tier) = ((moment.waits tier).map WaitTally.single).sum := by
  rcases moment with ⟨scheduler, now, event⟩
  cases event with
  | start unit task =>
      rw [adds_start, scheduler.judgedWait?_eq]
      cases tracked : scheduler.profile? task with
      | none => simp [waits, tracked]
      | some profile =>
          by_cases runnable : profile.phase.isRunnable = true
          · by_cases same : profile.tier = tier
            · simp [waits, waitsOf, tracked, runnable, same, Profile.start_of_runnable,
                WaitTally.zero_def]
            · simp [waits, waitsOf, tracked, runnable, same, Profile.start_of_runnable,
                WaitTally.zero_def, Tier.Table.get_set]
          · simp [waits, tracked, runnable, Profile.start_of_not_runnable]
  | _ => simp [waitsOf, waits, WaitTally.zero_def]

end Waits

end Moment

open Statistics (Records)

theorem sum_map_flatMap {Item Part Value : Type} [AddCommMonoid Value] (parts : Item → List Part)
    (measure : Part → Value) (items : List Item) :
    ((items.flatMap parts).map measure).sum =
      (items.map fun item => ((parts item).map measure).sum).sum := by
  rw [List.map_flatMap, List.flatMap, List.sum_flatten, List.map_map]
  rfl

/-- What a run counts is what its moments count. -/
theorem Scheduler.records_after (scheduler : Scheduler) (history : List (Nanos × Event)) :
    Records scheduler.statistics ((scheduler.moments history).flatMap Moment.occurrences)
      (scheduler.after history).statistics := by
  induction history generalizing scheduler with
  | nil => exact .nil _
  | cons reported later ih =>
      rcases reported with ⟨now, event⟩
      exact (scheduler.records_handle now event).append (ih _)

namespace Execution

variable (execution : Execution)

section Reading

variable {execution}

theorem read_summary {Value : Type} [AddCommMonoid Value] (reading : Reading Value)
    (enabled : execution.config.statisticsEnabled = true) :
    reading.read execution.scheduler.statistics.summary.toCounters =
      (execution.moments.map fun moment => moment.adds reading).sum := by
  have counts : execution.initial.statistics.enabled = true := by
    rw [execution.initial_eq]
    exact enabled
  have empty : execution.initial.statistics.summary.toCounters = 0 := by
    rw [execution.initial_eq]
    exact Statistics.toCounters_initial _ _
  have records := execution.initial.records_after execution.history
  have counted := records.toCounters_eq_sum counts
  rw [empty, zero_add] at counted
  rw [scheduler, counted, reading.read_sum, List.map_map, sum_map_flatMap]
  rfl

/-- A counter that counts a number in every moment shows the total of this number. -/
theorem read_summary_of_adds {reading : Reading UInt64} {number : Moment → Nat}
    (law : ∀ moment : Moment, moment.adds reading = .ofNat (number moment))
    (enabled : execution.config.statisticsEnabled = true) :
    reading.read execution.scheduler.statistics.summary.toCounters =
      .ofNat (execution.total number) := by
  rw [read_summary reading enabled, total]
  induction execution.moments with
  | nil => rfl
  | cons moment later ih =>
      rw [List.map_cons, List.sum_cons, ih, law, List.map_cons, List.sum_cons, UInt64.ofNat_add]

end Reading

/-- The waits that ended in a tier in the course of an execution. -/
def waits (tier : Tier) : List Nanos :=
  execution.moments.flatMap fun moment => moment.waits tier

/-- A summary agrees with what has happened in an execution. All counters wrap around. -/
structure Ledger (summary : Summary) : Prop where
  dispatches_eq : summary.dispatches =
    .ofNat (execution.total Moment.placedDirectly + execution.total Moment.handedOut)
  tierDispatches_eq : summary.tierDispatches.toList.sum = summary.dispatches
  directDispatches_eq : summary.directDispatches = .ofNat (execution.total Moment.placedDirectly)
  enqueues_eq : summary.wakeupEnqueues + summary.requeueEnqueues =
    .ofNat (execution.total Moment.pushed)
  /-- What was pushed is still queued or has left the queues in one of three ways. -/
  pushed_eq : execution.total Moment.pushed =
    execution.scheduler.queues.total + execution.total Moment.handedOut +
      execution.total Moment.discarded + execution.total Moment.dropped
  victimKicks_eq : summary.victimKicks =
    .ofNat (execution.total fun moment => moment.kicksFor .preemption)
  starvationKicks_eq : ∀ tier, summary.starvationKicks.get tier =
    .ofNat (execution.total fun moment => moment.starvationKicks tier)
  forcedKicks_eq : summary.forcedKicks =
    .ofNat (execution.total fun moment => moment.outcome.kicks.length)
  promotions_eq : summary.promotions = .ofNat (execution.total Moment.improvements)
  demotions_eq : summary.demotions = .ofNat (execution.total Moment.worsenings)
  waitDemotions_eq : summary.waitDemotions = .ofNat (execution.total Moment.waitDemotions)
  waits_eq : ∀ tier, summary.waits.get tier =
    { count := .ofNat (execution.waits tier).length
      total := (execution.waits tier).sum
      longest := (execution.waits tier).foldr max 0 }

/-- The statistics of an execution that counts at all are a ledger of this execution. -/
theorem ledger_of_enabled (enabled : execution.config.statisticsEnabled = true) :
    execution.Ledger execution.scheduler.statistics.summary where
  dispatches_eq := by
    have counted := read_summary_of_adds Moment.adds_dispatches enabled
    rwa [total, List.sum_map_add] at counted
  tierDispatches_eq := by
    have rows := read_summary Moment.tierDispatches enabled
    simp only [Moment.adds_tierDispatches] at rows
    exact rows.trans (read_summary Moment.dispatches enabled).symm
  directDispatches_eq := read_summary_of_adds Moment.adds_directDispatches enabled
  enqueues_eq := read_summary_of_adds Moment.adds_enqueues enabled
  pushed_eq := execution.total_pushed
  victimKicks_eq := read_summary_of_adds Moment.adds_victimKicks enabled
  starvationKicks_eq tier :=
    read_summary_of_adds (fun moment => moment.adds_starvationKicksOf tier) enabled
  forcedKicks_eq := read_summary_of_adds Moment.adds_kicks enabled
  promotions_eq := read_summary_of_adds Moment.adds_promotions enabled
  demotions_eq := read_summary_of_adds Moment.adds_demotions enabled
  waitDemotions_eq := read_summary_of_adds Moment.adds_demotionsByWait enabled
  waits_eq tier := by
    rw [← WaitTally.sum_single, waits, sum_map_flatMap]
    refine (read_summary (Moment.waitsOf tier) enabled).trans (congrArg List.sum ?_)
    exact List.map_congr_left fun moment _ => moment.adds_waitsOf tier

/-- One task is placed on an idle unit and does so well that it is promoted. Another one waits for too
long, is demoted for it, runs into the ceiling and is demoted once more. Of the four entries that are
pushed one is handed out, one is stale, one is dropped when its task exits, and one is still queued. -/
theorem ledger_of_busy_units :
    let execution := ofConfig { units := 2, violationLimit := 1, demotionPenalty := 1 } (by decide)
      [(0, .changeIdle 0 true), (1000, .wake 1 none ⟨false, false⟩), (5000000, .start 0 1),
        (5050000, .stop 0 1 false), (5100000, .wake 2 none ⟨false, false⟩),
        (5100000, .enqueue 2 ⟨true, false, false⟩), (5200000, .wake 2 none ⟨false, false⟩),
        (5200000, .enqueue 2 ⟨true, false, false⟩), (5300000, .dispatch 1), (5300000, .start 1 2),
        (105300001, .tick 1 2), (105300002, .stop 1 2 true),
        (105300003, .enqueue 2 ⟨false, true, false⟩), (105300004, .enqueue 3 ⟨false, true, false⟩),
        (105300005, .exit 3)]
    let summary := execution.scheduler.statistics.summary
    execution.config.statisticsEnabled = true ∧ execution.Ledger summary ∧
      summary.dispatches = 2 ∧ summary.directDispatches = 1 ∧ summary.wakeupEnqueues = 2 ∧
      summary.requeueEnqueues = 2 ∧ execution.total Moment.pushed = 4 ∧
      execution.scheduler.queues.total = 1 ∧ execution.total Moment.handedOut = 1 ∧
      execution.total Moment.discarded = 1 ∧ execution.total Moment.dropped = 1 ∧
      summary.victimKicks = 1 ∧ summary.starvationKicks.get .interactive = 1 ∧
      summary.forcedKicks = 2 ∧ summary.promotions = 1 ∧ summary.demotions = 2 ∧
      summary.waitDemotions = 1 ∧ summary.waits.get .interactive = ⟨5099000, 2, 4999000⟩ := by
  intro execution summary
  have enabled : execution.config.statisticsEnabled = true := rfl
  refine ⟨enabled, execution.ledger_of_enabled enabled, ?_⟩
  decide +kernel

end Execution

end TierSched
