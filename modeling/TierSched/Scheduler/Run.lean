import TierSched.Scheduler.Basic

/-!
# Runs

When a task starts, its wait is judged and its tier is entered in the occupancy. While it runs, ticks
check whether it has exceeded the ceiling of its tier. When it stops, the run decides about its next
tier. When it exits, its profile and its entries are dropped.
-/

namespace TierSched.Scheduler

/-- Drops the entries of a task from the lane of a tier. -/
def dropEntries (scheduler : Scheduler) (tier : Tier) (task : TaskId) : Scheduler :=
  { scheduler with queues := (scheduler.queues.drop tier task).2 }

/-- Counts and reports a wait that ended on a unit. -/
def settleWait (scheduler : Scheduler) (unit : Nat) (task : TaskId) (wait : Profile.Wait) :
    Outcome Unit :=
  let counted := scheduler.count unit (.wait wait.tier wait.duration)
  match wait.judgement with
  | .demotion source target =>
    { reply := ()
      scheduler := counted.count unit .waitDemotion
      notices := [.demoted task source target wait.duration] }
  | .tolerated | .breach _ | .unlimited => { reply := (), scheduler := counted }

/-- Enters in the occupancy that a unit runs a task of a tier. -/
def reportRunning (scheduler : Scheduler) (unit : Nat) (tier : Tier) : Scheduler :=
  { scheduler with occupancy := (scheduler.occupancy.reportRunning unit tier).2 }

/-- What is known about the start of a task that is not tracked. -/
def untrackedStart : Profile.Started where
  tier := .interactive
  wait := none
  undispatched := none
  regular := true

/-- A task starts to run on a unit: judges its wait, and drops the entry with which it still waits if
it was not dispatched. -/
def start (scheduler : Scheduler) (now : Nanos) (unit : Nat) (task : TaskId) : Outcome Unit :=
  let observed := scheduler.observe task unit
    (fun profile => profile.start scheduler.config.waitBudget now) untrackedStart
  observed.andThen fun started next =>
    let cleared :=
      match started.undispatched with
      | none => next
      | some tier => next.dropEntries tier task
    let settled : Outcome Unit :=
      match started.wait with
      | none => { reply := (), scheduler := cleared }
      | some wait => cleared.settleWait unit task wait
    { reply := ()
      scheduler := settled.scheduler.reportRunning unit started.tier
      notices := (if started.regular then [] else [.irregularStart task]) ++ settled.notices }

/-- A task leaves its unit: accounts for the run and classifies the task anew. -/
def stop (scheduler : Scheduler) (now : Nanos) (unit : Nat) (task : TaskId) (requeue : Bool) :
    Outcome Unit :=
  let stopped := scheduler.roster.update task fun profile =>
    profile.stop scheduler.config now requeue
  let next := { scheduler with roster := stopped.2 }
  match stopped.1.join with
  | none => { reply := (), scheduler := next }
  | some (source, target) =>
    { reply := ()
      scheduler := next.count unit (.reclassification source target)
      notices := if source = target then [] else [.reclassified task source target] }

/-- A unit ticks while it runs a task: kicks the unit if the task has run for too long. -/
def tick (scheduler : Scheduler) (now : Nanos) (unit : Nat) (task : TaskId) : Outcome Unit :=
  let checked := scheduler.roster.update task fun profile =>
    profile.checkCeiling scheduler.config.runCeiling now
  let next := { scheduler with roster := checked.2 }
  match checked.1.join with
  | none => { reply := (), scheduler := next }
  | some (tier, runtime) =>
    { reply := ()
      scheduler := next.count unit (.starvationKick tier)
      kicks := [⟨unit, .starvation⟩]
      notices := [.overran task tier runtime (scheduler.config.runCeiling tier) unit] }

/-- A unit went idle or left idle. -/
def changeIdle (scheduler : Scheduler) (unit : Nat) (idle : Bool) : Outcome Unit :=
  if unit < scheduler.config.units then
    let occupancy :=
      if idle then scheduler.occupancy.reportIdle unit else scheduler.occupancy.reportBusy unit
    { reply := (), scheduler := { scheduler with occupancy } }
  else
    { reply := (), scheduler, notices := [.unknownUnit unit] }

/-- A task exited: forgets it and drops its entries, from the lane in which it waits and from the
lane in which it waited while it was not tracked. -/
def exit (scheduler : Scheduler) (task : TaskId) : Outcome Unit :=
  let removed := scheduler.roster.remove task
  let forgotten := { scheduler with roster := removed.2 }
  let cleared :=
    match removed.1.bind fun profile => profile.waitsIn with
    | none => forgotten
    | some tier => forgotten.dropEntries tier task
  { reply := (), scheduler := cleared.dropEntries .interactive task }

end TierSched.Scheduler
