import Mathlib.Algebra.BigOperators.Group.List.Basic
import Mathlib.Algebra.GroupWithZero.Nat
import TierSched.Proofs.Execution

/-!
# The moments of a run

A moment is an event together with the reading of the clock and the state in which it finds the
scheduler. The moments of a run are a list, so what happened in the run altogether is a sum or a
concatenation over this list, and a law of the run follows from a law of the single moment: a measure
of the state that changes by a gain and a loss in every moment has changed by all gains and all losses
in the end.
-/

namespace TierSched

/-- An event, and the state in which it finds the scheduler. -/
structure Moment where
  scheduler : Scheduler
  now : Nanos
  event : Event

namespace Moment

/-- What the event leads to. -/
def outcome (moment : Moment) : Outcome Reply :=
  moment.scheduler.handle moment.now moment.event

/-- The scheduler after the event. -/
def next (moment : Moment) : Scheduler :=
  moment.outcome.scheduler

section Outcome

variable (scheduler : Scheduler) (now : Nanos) (unit : Nat) (task : TaskId)

@[simp]
theorem outcome_wake (previous : Option Nat) (flags : WakeFlags) :
    outcome ⟨scheduler, now, .wake task previous flags⟩ =
      (scheduler.wake now task previous flags).map .placed := rfl

@[simp]
theorem outcome_enqueue (flags : EnqueueFlags) :
    outcome ⟨scheduler, now, .enqueue task flags⟩ =
      (scheduler.enqueue now task flags).map fun _ => .none := rfl

@[simp]
theorem outcome_dispatch :
    outcome ⟨scheduler, now, .dispatch unit⟩ = (scheduler.dispatch unit).map .dispatched := rfl

@[simp]
theorem outcome_start :
    outcome ⟨scheduler, now, .start unit task⟩ =
      (scheduler.start now unit task).map fun _ => .none := rfl

@[simp]
theorem outcome_stop (requeue : Bool) :
    outcome ⟨scheduler, now, .stop unit task requeue⟩ =
      (scheduler.stop now unit task requeue).map fun _ => .none := rfl

@[simp]
theorem outcome_tick :
    outcome ⟨scheduler, now, .tick unit task⟩ =
      (scheduler.tick now unit task).map fun _ => .none := rfl

@[simp]
theorem outcome_changeIdle (idle : Bool) :
    outcome ⟨scheduler, now, .changeIdle unit idle⟩ =
      (scheduler.changeIdle unit idle).map fun _ => .none := rfl

@[simp]
theorem outcome_exit :
    outcome ⟨scheduler, now, .exit task⟩ = (scheduler.exit task).map fun _ => .none := rfl

end Outcome

end Moment

namespace Scheduler

/-- The moments of a history, in order. -/
def moments (scheduler : Scheduler) : List (Nanos × Event) → List Moment
  | [] => []
  | (now, event) :: later =>
    ⟨scheduler, now, event⟩ :: (scheduler.handle now event).scheduler.moments later

/-- What the moments of a history gain and lose is what a measure has gained and lost in the end. -/
theorem balance (measure : Scheduler → Nat) {gain loss : Moment → Nat}
    (step : ∀ moment : Moment,
      measure moment.next + loss moment = measure moment.scheduler + gain moment)
    (scheduler : Scheduler) (history : List (Nanos × Event)) :
    measure (scheduler.after history) + ((scheduler.moments history).map loss).sum =
      measure scheduler + ((scheduler.moments history).map gain).sum := by
  induction history generalizing scheduler with
  | nil => rfl
  | cons reported later ih =>
      rcases reported with ⟨now, event⟩
      have first := step ⟨scheduler, now, event⟩
      have rest := ih (scheduler.handle now event).scheduler
      simp only [Moment.next, Moment.outcome] at first
      simp only [after, moments, List.map_cons, List.sum_cons]
      omega

end Scheduler

namespace Execution

/-- The moments of an execution, in order. -/
def moments (execution : Execution) : List Moment :=
  execution.initial.moments execution.history

/-- The sum of a number over all moments of an execution. -/
def total (execution : Execution) (number : Moment → Nat) : Nat :=
  (execution.moments.map number).sum

end Execution

end TierSched
