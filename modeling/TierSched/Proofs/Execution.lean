import Mathlib.Data.List.Induction
import TierSched.Scheduler.Event

/-!
# Executions

An execution is a scheduler that was created, together with everything that was reported to it
afterwards. Configuration and topology are the ones that `Scheduler.create` accepted. The history is
arbitrary: events come in any order, with any arguments and with any readings of the clock, so a
statement about all executions is a statement about every state that a scheduler can reach.

A property of all reachable states is proved by `Scheduler.after_induction`: it holds when the
scheduler is created, and handling one more event preserves it. The property may mention the history
so far, which lets invariants count events and refer to earlier ones.
-/

namespace TierSched

namespace Event

/-- The task that an event is about. A request for work and a change of a unit are about none. -/
def task? : Event → Option TaskId
  | wake task _ _ | enqueue task _ | start _ task | stop _ task _ | tick _ task | exit task =>
    some task
  | dispatch _ | changeIdle _ _ => none

def isEnqueue : Event → Bool
  | enqueue _ _ => true
  | _ => false

end Event

/-- The number of enqueues in a history, successful or not. -/
def enqueueCount (history : List (Nanos × Event)) : Nat :=
  history.countP fun reported => reported.2.isEnqueue

theorem enqueueCount_append (earlier later : List (Nanos × Event)) :
    enqueueCount (earlier ++ later) = enqueueCount earlier + enqueueCount later :=
  List.countP_append

theorem enqueueCount_concat (earlier : List (Nanos × Event)) (now : Nanos) (event : Event) :
    enqueueCount (earlier ++ [(now, event)]) =
      enqueueCount earlier + if event.isEnqueue then 1 else 0 := by
  rw [enqueueCount_append]
  simp [enqueueCount, List.countP_cons]

namespace Scheduler

theorem after_concat (scheduler : Scheduler) (earlier : List (Nanos × Event)) (now : Nanos)
    (event : Event) :
    scheduler.after (earlier ++ [(now, event)]) =
      ((scheduler.after earlier).handle now event).scheduler := by
  rw [after_append]
  rfl

/-- What holds of a scheduler and is preserved by every event holds after every history. -/
theorem after_induction {motive : List (Nanos × Event) → Scheduler → Prop} (scheduler : Scheduler)
    (start : motive [] scheduler)
    (step : ∀ earlier now event, motive earlier (scheduler.after earlier) →
      motive (earlier ++ [(now, event)]) ((scheduler.after earlier).handle now event).scheduler)
    (history : List (Nanos × Event)) : motive history (scheduler.after history) := by
  induction history using List.reverseRecOn with
  | nil => exact start
  | append_singleton earlier reported ih =>
      rw [after_concat]
      exact step earlier reported.1 reported.2 ih

end Scheduler

/-- A scheduler that was created, and what was reported to it. -/
structure Execution where
  config : Config
  topology : Topology
  initial : Scheduler
  created : (Scheduler.create config topology).1 = .ok initial
  history : List (Nanos × Event)

namespace Execution

/-- The scheduler at the end of an execution. -/
def scheduler (execution : Execution) : Scheduler :=
  execution.initial.after execution.history

/-- The number of enqueues in an execution, successful or not. -/
def enqueues (execution : Execution) : Nat :=
  enqueueCount execution.history

/-- The execution that goes on with further events. -/
def extend (execution : Execution) (later : List (Nanos × Event)) : Execution :=
  { execution with history := execution.history ++ later }

theorem scheduler_extend (execution : Execution) (later : List (Nanos × Event)) :
    (execution.extend later).scheduler = execution.scheduler.after later :=
  Scheduler.after_append execution.initial execution.history later

theorem enqueues_extend (execution : Execution) (later : List (Nanos × Event)) :
    (execution.extend later).enqueues = execution.enqueues + enqueueCount later :=
  enqueueCount_append execution.history later

theorem accepted (execution : Execution) : execution.config.Accepted :=
  (Scheduler.create_eq_ok_iff.mp execution.created).1

theorem initial_eq (execution : Execution) :
    execution.initial = Scheduler.initial execution.config execution.topology :=
  (Scheduler.create_eq_ok_iff.mp execution.created).2.2

theorem profile?_initial (execution : Execution) (task : TaskId) :
    execution.initial.profile? task = none := by
  rw [execution.initial_eq]
  exact Roster.get?_empty execution.config.capacity task

/-- What holds of every newly created scheduler and is preserved by every event holds at the end of
every execution. -/
theorem induction {motive : List (Nanos × Event) → Scheduler → Prop} (execution : Execution)
    (start : motive [] (Scheduler.initial execution.config execution.topology))
    (step : ∀ earlier scheduler now event, motive earlier scheduler →
      motive (earlier ++ [(now, event)]) (scheduler.handle now event).scheduler) :
    motive execution.history execution.scheduler := by
  apply Scheduler.after_induction
  · rw [execution.initial_eq]
    exact start
  · intro earlier now event holds
    exact step earlier _ now event holds

/-- The execution in which a history is reported to a scheduler with the given parameters and a flat
topology. -/
def ofConfig (config : Config) (accepted : config.Accepted) (history : List (Nanos × Event)) :
    Execution where
  config
  topology := .flat config.units
  initial := Scheduler.initial config (.flat config.units)
  created := Scheduler.create_eq_ok_iff.mpr ⟨accepted, rfl, rfl⟩
  history

/-- The execution in which a history is reported to a scheduler with the default parameters and a
flat topology. -/
def ofHistory (history : List (Nanos × Event)) : Execution where
  config := {}
  topology := .flat unitLimit
  initial := Scheduler.initial {} (.flat unitLimit)
  created := Scheduler.create_eq_ok_iff.mpr ⟨by decide, rfl, rfl⟩
  history

end Execution

end TierSched
