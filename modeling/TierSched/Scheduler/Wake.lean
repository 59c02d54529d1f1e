import TierSched.Scheduler.Basic

/-!
# Waking and queueing

A woken task is placed on an idle unit if there is one, in the order in which the topology prefers
the units. Otherwise a unit that runs a lower tier may be kicked, and the host queues the task. A
unit is kicked at most once for a wake-up: an enqueue kicks only if the wake-up before it did not.
-/

namespace TierSched.Scheduler

/-- Remembers that a unit was kicked for the latest wake-up of a task. -/
def markKickedOnWake (scheduler : Scheduler) (task : TaskId) : Scheduler :=
  { scheduler with
    roster := (scheduler.roster.update task fun profile =>
      ((), { profile with kickedOnWake := true })).2 }

/-- Chooses a unit for a task that was just woken in a tier with a slice. Unless the task was just
created, it prefers the unit on which it last ran. -/
def place (scheduler : Scheduler) (now : Nanos) (task : TaskId) (previous : Option Nat)
    (flags : WakeFlags) (tier : Tier) (slice : Nanos) : Outcome Placement :=
  let followed := if flags.fork then none else previous
  match scheduler.occupancy.takeIdle (scheduler.topology.preferences followed tier) with
  | (some unit, occupancy) =>
    { reply := ⟨unit, true, slice⟩
      scheduler := { scheduler with occupancy }.count unit (.dispatch tier true)
      notices := [.placed task tier unit] }
  | (none, _) =>
    let search : Outcome (Option Nat) :=
      if flags.sync then { reply := none, scheduler }
      else scheduler.kickVictim tier now (previous.getD 0)
    search.andThen fun victim searched =>
      match victim with
      | some unit =>
        { reply := ⟨unit, false, slice⟩, scheduler := searched.markKickedOnWake task }
      | none =>
        let known := previous.filter fun unit => unit < searched.config.units
        { reply := ⟨known.getD 0, false, slice⟩, scheduler := searched }

/-- A task was woken: chooses a unit for it. -/
def wake (scheduler : Scheduler) (now : Nanos) (task : TaskId) (previous : Option Nat)
    (flags : WakeFlags) : Outcome Placement :=
  let observed := scheduler.observe task (previous.getD 0) (fun profile => profile.wake now)
    (.interactive, scheduler.config.quantum)
  observed.andThen fun (tier, slice) woken => woken.place now task previous flags tier slice

/-- What is pushed for a task that is not tracked. -/
def untrackedEntry (scheduler : Scheduler) : Profile.Enqueued where
  tier := .interactive
  slice := scheduler.config.quantum
  generation := Generation.untracked
  kickedOnWake := false

/-- A task is to be queued: pushes an entry to the lane of its tier, unless the task already waits.
After a genuine wake-up of a task of a high tier, a unit may be kicked. -/
def enqueue (scheduler : Scheduler) (now : Nanos) (task : TaskId) (flags : EnqueueFlags) :
    Outcome Unit :=
  let wakeup := flags.genuineWakeup
  let observed := scheduler.observe task task (fun profile => profile.enqueue now)
    (some scheduler.untrackedEntry)
  observed.andThen fun pushed next =>
    match pushed with
    | none => { reply := (), scheduler := next, notices := [.alreadyQueued task] }
    | some pushed =>
      let queues := next.queues.push pushed.tier ⟨task, pushed.slice, pushed.generation⟩
      let queued := { next with queues }.count task (.enqueue wakeup)
      if wakeup ∧ pushed.kickedOnWake = false ∧ pushed.tier ≤ queued.config.kickingTier then
        (queued.kickVictim pushed.tier now task).andThen fun _ kicked =>
          { reply := (), scheduler := kicked }
      else
        { reply := (), scheduler := queued }

end TierSched.Scheduler
