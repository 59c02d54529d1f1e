import TierSched.Task.WaitBudget

/-!
# The life of one task

What each event in the life of a task does to its profile, and what it tells the scheduler: a task
is woken, queued, started, checked while it runs, and stopped. Each event is a function from one
profile to the next, so that the scheduler only has to look the profile up and to write it back.
-/

namespace TierSched.Profile

/-- The task was woken: returns the tier and the slice with which a unit is chosen. -/
def wake (profile : Profile) (now : Nanos) : (Tier × Nanos) × Profile :=
  ((profile.tier, profile.slice),
    { profile.moveTo .waking with
      runnableSince := now
      kickedOnWake := false
      wakes := profile.wakes + 1 })

/-- What is pushed when a task is queued. -/
structure Enqueued where
  tier : Tier
  slice : Nanos
  generation : Generation
  /-- A unit was already kicked for the wake-up that led here. -/
  kickedOnWake : Bool
deriving DecidableEq, Repr

/-- The task is queued, unless it already is. A task that could not run before waits from now on. -/
def enqueue (profile : Profile) (now : Nanos) : Option Enqueued × Profile :=
  if profile.phase.isQueued then
    (none, profile)
  else
    let runnableSince := if profile.phase.isRunnable then profile.runnableSince else now
    let queued := { profile.moveTo .queued with runnableSince }.issueEntry profile.tier
    (some ⟨queued.tier, queued.slice, queued.generation, queued.kickedOnWake⟩, queued)

/-- A wait that was judged when its task started. -/
structure Wait where
  duration : Nanos
  /-- The tier in which the task waited. -/
  tier : Tier
  judgement : Judgement
deriving DecidableEq, Repr

/-- What the scheduler learns when a task starts. -/
structure Started where
  /-- The tier in which the task runs. -/
  tier : Tier
  /-- The wait that ends, none if the task could not run before. -/
  wait : Option Wait
  /-- The queue that still holds an entry of the task, because it was not dispatched. -/
  undispatched : Option Tier
  /-- The start is part of a regular life. -/
  regular : Bool
deriving DecidableEq, Repr

/-- The task starts to run; the wait that ends is held against the budget. -/
def start (profile : Profile) (budget : WaitBudget) (now : Nanos) : Started × Profile :=
  let running :=
    { profile.moveTo .running with
      waitsIn := none
      startedAt := now
      kickedInRun := false
      kickedOnWake := false
      runs := profile.runs + 1 }
  let regular := profile.phase.permits .running
  if profile.phase.isRunnable then
    let duration := Nanos.elapsed profile.runnableSince now
    let judged := budget.judge running duration
    (⟨judged.2.tier, some ⟨duration, profile.tier, judged.1⟩, profile.waitsIn, regular⟩, judged.2)
  else
    (⟨running.tier, none, profile.waitsIn, regular⟩, running)

/-- The task has run for the given time: its score, its estimate and with them its tier change. -/
def account (profile : Profile) (config : Config) (runtime : Nanos) : Profile :=
  let score := profile.score.afterRun runtime config.shortRunThreshold
  let estimate := profile.runtime.add runtime
  { profile.assign (score.tier estimate.average config.criticalGate) config.quantum with
    score
    runtime := estimate
    isNew := false
    isSparse := Score.sparseFloor ≤ score
    totalRuntime := profile.totalRuntime + runtime }

/-- The task stops. If it ran, the run is accounted for and the old and the new tier are returned;
a task that will be queued again waits from now on. -/
def stop (profile : Profile) (config : Config) (now : Nanos) (requeue : Bool) :
    Option (Tier × Tier) × Profile :=
  let next := if requeue then Phase.stopping else Phase.sleeping
  if profile.phase = .running then
    let accounted := profile.account config (Nanos.elapsed profile.startedAt now)
    let runnableSince := if requeue then now else profile.runnableSince
    (some (profile.tier, accounted.tier), { accounted.moveTo next with runnableSince })
  else
    (none, profile.moveTo next)

/-- Checks a task that may run for too long: its tier and its runtime are returned at most once in
each run, when the runtime has passed the ceiling of the tier. -/
def checkCeiling (profile : Profile) (ceiling : Tier → Nanos) (now : Nanos) :
    Option (Tier × Nanos) × Profile :=
  let runtime := Nanos.elapsed profile.startedAt now
  if profile.phase = .running ∧ profile.kickedInRun = false ∧
      ceiling profile.tier < runtime then
    (some (profile.tier, runtime), { profile with kickedInRun := true })
  else
    (none, profile)

end TierSched.Profile
