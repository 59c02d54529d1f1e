/-!
# Phases of a task

A task sleeps, is woken, waits in a queue, runs and stops, from where it sleeps or is queued again.
A woken task may also run at once. The host is the authority on what happened, so other moves can
occur; `Phase.permits` tells which moves are part of the regular life of a task.
-/

namespace TierSched

/-- What a task currently does. -/
inductive Phase where
  /-- The task cannot run. -/
  | sleeping
  /-- The task can run and a unit is being chosen for it. -/
  | waking
  /-- The task waits in a queue. -/
  | queued
  /-- The task runs on a unit. -/
  | running
  /-- The task leaves its unit. -/
  | stopping
deriving DecidableEq, Repr

namespace Phase

/-- A new task sleeps. -/
instance : Inhabited Phase := ⟨sleeping⟩

/-- All phases in the order of a regular life. -/
def all : List Phase := [sleeping, waking, queued, running, stopping]

/-- The name under which a phase appears in reports. -/
def title : Phase → String
  | sleeping => "Sleeping"
  | waking => "Waking"
  | queued => "Queued"
  | running => "Running"
  | stopping => "Stopping"

/-- The task can run but does not, so its wait goes on. -/
def isRunnable : Phase → Bool
  | waking | queued | stopping => true
  | sleeping | running => false

/-- The task waits in a queue. -/
def isQueued : Phase → Bool
  | queued => true
  | sleeping | waking | running | stopping => false

/-- The move from the first phase to the second is part of a regular life. -/
def permits : Phase → Phase → Bool
  | sleeping, waking | sleeping, queued => true
  | waking, queued | waking, running => true
  | queued, running => true
  | running, stopping => true
  | stopping, sleeping | stopping, queued => true
  | _, _ => false

end Phase

end TierSched
