import TierSched.Scheduler.Dispatch
import TierSched.Scheduler.Run
import TierSched.Scheduler.Wake

/-!
# Events and histories

Everything that a host can report is an event, and `Scheduler.handle` hands it to the callback in
charge together with a reading of the clock. A history is a list of events with their readings; no
relation between the readings is assumed. `Scheduler.after` is the scheduler at the end of a history
and `Scheduler.outcomes` is what happened on the way.
-/

namespace TierSched

/-- Something that the host reports. -/
inductive Event where
  | wake (task : TaskId) (previous : Option Nat) (flags : WakeFlags)
  | enqueue (task : TaskId) (flags : EnqueueFlags)
  | dispatch (unit : Nat)
  | start (unit : Nat) (task : TaskId)
  | stop (unit : Nat) (task : TaskId) (requeue : Bool)
  | tick (unit : Nat) (task : TaskId)
  | changeIdle (unit : Nat) (idle : Bool)
  | exit (task : TaskId)
deriving DecidableEq, Repr

/-- What the scheduler answers to an event. -/
inductive Reply where
  | none
  | placed (placement : Placement)
  | dispatched (assignment : Option Assignment)
deriving DecidableEq, Repr

namespace Scheduler

/-- Hands an event to its callback. -/
def handle (scheduler : Scheduler) (now : Nanos) : Event → Outcome Reply
  | .wake task previous flags => (scheduler.wake now task previous flags).map .placed
  | .enqueue task flags => (scheduler.enqueue now task flags).map fun _ => .none
  | .dispatch unit => (scheduler.dispatch unit).map .dispatched
  | .start unit task => (scheduler.start now unit task).map fun _ => .none
  | .stop unit task requeue => (scheduler.stop now unit task requeue).map fun _ => .none
  | .tick unit task => (scheduler.tick now unit task).map fun _ => .none
  | .changeIdle unit idle => (scheduler.changeIdle unit idle).map fun _ => .none
  | .exit task => (scheduler.exit task).map fun _ => .none

/-- The scheduler at the end of a history. -/
def after (scheduler : Scheduler) : List (Nanos × Event) → Scheduler
  | [] => scheduler
  | (now, event) :: later => (scheduler.handle now event).scheduler.after later

/-- The outcomes of the events of a history, in order. -/
def outcomes (scheduler : Scheduler) : List (Nanos × Event) → List (Outcome Reply)
  | [] => []
  | (now, event) :: later =>
    let outcome := scheduler.handle now event
    outcome :: outcome.scheduler.outcomes later

theorem after_append (scheduler : Scheduler) (earlier later : List (Nanos × Event)) :
    scheduler.after (earlier ++ later) = (scheduler.after earlier).after later := by
  induction earlier generalizing scheduler with
  | nil => rfl
  | cons first others ih => exact ih _

theorem outcomes_append (scheduler : Scheduler) (earlier later : List (Nanos × Event)) :
    scheduler.outcomes (earlier ++ later) =
      scheduler.outcomes earlier ++ (scheduler.after earlier).outcomes later := by
  induction earlier generalizing scheduler with
  | nil => rfl
  | cons first others ih => exact congrArg (_ :: ·) (ih _)

end Scheduler

end TierSched
