import TierSched.Notice
import TierSched.Queue.Ready
import TierSched.Statistics.Basic
import TierSched.Task.Lifecycle
import TierSched.Task.Roster
import TierSched.Unit.Occupancy
import TierSched.Unit.Topology

/-!
# Schedulers

A scheduler joins the roster of its tasks, the ready queues, the occupancy of the units and the
statistics under one configuration and one topology. It is a value: a callback takes the scheduler, a
clock reading and what the host reports, and returns an `Outcome`, which holds the next scheduler,
the answer, and the kicks and notices that the callback issued, in order.
-/

namespace TierSched

/-- The state of a scheduler. -/
structure Scheduler where
  config : Config
  topology : Topology
  roster : Roster
  queues : ReadyQueues
  occupancy : Occupancy
  statistics : Statistics

/-- The result of a callback. -/
structure Outcome (Reply : Type) where
  reply : Reply
  /-- The scheduler after the callback. -/
  scheduler : Scheduler
  /-- The kicks that the host was asked for, in order. -/
  kicks : List Kick := []
  /-- What was reported, in order. -/
  notices : List Notice := []

namespace Outcome

variable {First Second : Type}

/-- The outcome with another form of its reply. -/
def map (form : First → Second) (outcome : Outcome First) : Outcome Second :=
  { outcome with reply := form outcome.reply }

@[simp]
theorem reply_map (form : First → Second) (outcome : Outcome First) :
    (outcome.map form).reply = form outcome.reply := rfl

@[simp]
theorem scheduler_map (form : First → Second) (outcome : Outcome First) :
    (outcome.map form).scheduler = outcome.scheduler := rfl

@[simp]
theorem kicks_map (form : First → Second) (outcome : Outcome First) :
    (outcome.map form).kicks = outcome.kicks := rfl

/-- The outcome of a second step that continues after the first one. -/
def andThen (first : Outcome First) (step : First → Scheduler → Outcome Second) :
    Outcome Second :=
  let second := step first.reply first.scheduler
  { second with
    kicks := first.kicks ++ second.kicks
    notices := first.notices ++ second.notices }

@[simp]
theorem reply_andThen (first : Outcome First) (step : First → Scheduler → Outcome Second) :
    (first.andThen step).reply = (step first.reply first.scheduler).reply := rfl

@[simp]
theorem scheduler_andThen (first : Outcome First) (step : First → Scheduler → Outcome Second) :
    (first.andThen step).scheduler = (step first.reply first.scheduler).scheduler := rfl

@[simp]
theorem kicks_andThen (first : Outcome First) (step : First → Scheduler → Outcome Second) :
    (first.andThen step).kicks = first.kicks ++ (step first.reply first.scheduler).kicks := rfl

@[simp]
theorem notices_andThen (first : Outcome First) (step : First → Scheduler → Outcome Second) :
    (first.andThen step).notices =
      first.notices ++ (step first.reply first.scheduler).notices := rfl

end Outcome

namespace Scheduler

/-- The scheduler before any callback. -/
def initial (config : Config) (topology : Topology) : Scheduler where
  config
  topology
  roster := .empty config.capacity
  queues := .empty config.lowTierInterval
  occupancy := .initial config.units config.victimTier config.kickCooldown
  statistics := .initial config.units config.statisticsEnabled

/-- Builds a scheduler for an accepted configuration and a topology of the same number of units; also
returns what is reported about the attempt. -/
def create (config : Config) (topology : Topology) : Except Fault Scheduler × List Notice :=
  match config.fault? with
  | some fault => (.error fault, [.configurationRefused fault])
  | none =>
    if topology.units = config.units then
      (.ok (initial config topology),
        [.ready config.units config.quantum config.newTaskBonus config.shortRunThreshold
          config.starvationLimit])
    else
      let fault := .unitCountOutOfRange topology.units config.units
      (.error fault, [.topologyRefused fault])

/-- The profile of a task, none if it is not tracked. -/
def profile? (scheduler : Scheduler) (task : TaskId) : Option Profile :=
  scheduler.roster.get? task

/-- The number of tracked tasks. -/
def taskCount (scheduler : Scheduler) : Nat :=
  scheduler.roster.count

/-- The profile that a task gets when it is first seen. -/
def freshProfile (scheduler : Scheduler) : Profile :=
  .fresh scheduler.config

/-- Counts an occurrence on the shard that the hint selects. -/
def count (scheduler : Scheduler) (hint : Nat) (occurrence : Occurrence) : Scheduler :=
  { scheduler with statistics := scheduler.statistics.record hint occurrence }

/-- Applies a change to the profile of a task, which is tracked from now on. If there is no room for
another task, nothing but a counter changes and the report `untracked` is returned instead. -/
def observe {Report : Type} (scheduler : Scheduler) (task : TaskId) (hint : Nat)
    (change : Profile → Report × Profile) (untracked : Report) : Outcome Report :=
  match scheduler.roster.updateOrInsert task scheduler.freshProfile change with
  | (.ok report, roster) => { reply := report, scheduler := { scheduler with roster } }
  | (.error _, roster) =>
    { reply := untracked
      scheduler := { scheduler with roster }.count hint .fallback
      notices := [.untracked task] }

/-- Looks for a unit that a task of the given tier should preempt, and kicks it. -/
def kickVictim (scheduler : Scheduler) (tier : Tier) (now : Nanos) (hint : Nat) :
    Outcome (Option Nat) :=
  match scheduler.occupancy.chooseVictim tier now with
  | (none, occupancy) => { reply := none, scheduler := { scheduler with occupancy } }
  | (some unit, occupancy) =>
    { reply := some unit
      scheduler := { scheduler with occupancy }.count hint .victimKick
      kicks := [⟨unit, .preemption⟩]
      notices := [.victimKicked unit tier] }

/-- A scheduler can be built exactly from an accepted configuration and a topology of the same number
of units. -/
theorem create_eq_ok_iff {config : Config} {topology : Topology} {scheduler : Scheduler} :
    (create config topology).1 = .ok scheduler ↔
      config.Accepted ∧ topology.units = config.units ∧ scheduler = initial config topology := by
  rw [← Config.fault?_eq_none_iff]
  unfold create
  split
  case h_1 fault found => simp [found]
  case h_2 passed =>
    split
    case isTrue same => simp [passed, same, eq_comm]
    case isFalse different => simp [different]

end Scheduler

end TierSched
