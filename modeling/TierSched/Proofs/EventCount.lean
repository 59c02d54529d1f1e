import TierSched.Proofs.Counting
import TierSched.Proofs.Overrun
import TierSched.Proofs.TierMove

/-!
# What single events add to the counters

`Scheduler.occurrences` lists what an event counts. Here the list is summed up for each kind of event,
for an arbitrary value of the single occurrences that disregards tasks without room in the roster. The
sum depends on the outcome of the event only: on the answer, on the kicks and on what happened to the
profile of the task.
-/

namespace TierSched

namespace Scheduler

variable {scheduler : Scheduler} {now : Nanos} {task : TaskId}

section Kicks

/-- A task that is placed on an idle unit kicks nobody. -/
theorem kicks_place_of_direct {previous : Option Nat} {flags : WakeFlags} {tier : Tier}
    {slice : Nanos}
    (direct : (scheduler.place now task previous flags tier slice).reply.direct = true) :
    (scheduler.place now task previous flags tier slice).kicks = [] := by
  rcases taken : scheduler.occupancy.takeIdle (scheduler.topology.preferences
      (if flags.fork then none else previous) tier) with ⟨_ | unit, occupancy⟩
  · simp only [place, taken, Outcome.reply_andThen] at direct
    split at direct <;> contradiction
  · simp [place, taken]

theorem kicks_wake_of_direct {previous : Option Nat} {flags : WakeFlags}
    (direct : (scheduler.wake now task previous flags).reply.direct = true) :
    (scheduler.wake now task previous flags).kicks = [] := by
  simp only [wake, Outcome.reply_andThen, Outcome.kicks_andThen, kicks_observe,
    List.nil_append] at direct ⊢
  exact kicks_place_of_direct direct

/-- An enqueue that is refused kicks nobody. -/
theorem kicks_enqueue_of_refused {flags : EnqueueFlags} (refused : scheduler.pushed? now task = none) :
    (scheduler.enqueue now task flags).kicks = [] := by
  have pushed_eq : (scheduler.observe task task (fun profile => profile.enqueue now)
      (some scheduler.untrackedEntry)).reply = none :=
    (reply_observe scheduler task task _ _).trans refused
  simp [enqueue, kicks_observe, pushed_eq]

end Kicks

end Scheduler

/-- Something that is read off the counters: the sum of what the single occurrences add to it, to which
a task without room in the roster adds nothing. -/
structure Reading (Value : Type) [AddCommMonoid Value] where
  read : Counters → Value
  read_zero : read 0 = 0
  read_add : ∀ left right, read (left + right) = read left + read right
  read_fallback : read (.single .fallback) = 0

theorem Reading.read_sum {Value : Type} [AddCommMonoid Value] (reading : Reading Value)
    (counters : List Counters) : reading.read counters.sum = (counters.map reading.read).sum :=
  map_list_sum (⟨⟨reading.read, reading.read_zero⟩, reading.read_add⟩ : Counters →+ Value) counters

namespace Moment

/-- What the event counts, in order. -/
def occurrences (moment : Moment) : List Occurrence :=
  moment.scheduler.occurrences moment.now moment.event

variable {Value : Type} [AddCommMonoid Value]

/-- What the event adds to a reading. -/
def adds (moment : Moment) (reading : Reading Value) : Value :=
  (moment.occurrences.map fun occurrence => reading.read (.single occurrence)).sum

variable (reading : Reading Value) {scheduler : Scheduler} {now : Nanos} {task : TaskId}

theorem sum_refusals :
    ((scheduler.refusals task).map fun occurrence => reading.read (.single occurrence)).sum = 0 := by
  rw [Scheduler.refusals]
  split
  · simpa using reading.read_fallback
  · rfl

@[simp]
theorem adds_wake (previous : Option Nat) (flags : WakeFlags) :
    adds ⟨scheduler, now, .wake task previous flags⟩ reading =
      if (scheduler.wake now task previous flags).reply.direct = true then
        reading.read (.single (.dispatch
          (((scheduler.observed? task).map Profile.tier).getD .interactive) true))
      else
        (scheduler.wake now task previous flags).kicks.length •
          reading.read (.single .victimKick) := by
  simp only [adds, occurrences, Scheduler.occurrences, List.map_append, List.sum_append,
    sum_refusals, zero_add]
  split
  · simp
  · simp

@[simp]
theorem adds_enqueue (flags : EnqueueFlags) :
    adds ⟨scheduler, now, .enqueue task flags⟩ reading =
      if (scheduler.pushed? now task).isSome = true then
        reading.read (.single (.enqueue flags.genuineWakeup)) +
          (scheduler.enqueue now task flags).kicks.length • reading.read (.single .victimKick)
      else 0 := by
  simp only [adds, occurrences, Scheduler.occurrences, List.map_append, List.sum_append,
    sum_refusals, zero_add]
  split
  · simp
  · simp

@[simp]
theorem adds_dispatch (unit : Nat) :
    adds ⟨scheduler, now, .dispatch unit⟩ reading =
      ((scheduler.dispatch unit).reply.toList.map fun assignment =>
        reading.read (.single (.dispatch assignment.tier false))).sum := by
  simp [adds, occurrences, Scheduler.occurrences, Function.comp_def]

@[simp]
theorem adds_start (unit : Nat) :
    adds ⟨scheduler, now, .start unit task⟩ reading =
      ((scheduler.judgedWait? now task).toList.map fun wait =>
        reading.read (.single (.wait wait.tier wait.duration)) +
          if wait.demotes = true then reading.read (.single .waitDemotion) else 0).sum := by
  simp only [adds, occurrences, Scheduler.occurrences, Scheduler.startOccurrences, List.map_append,
    List.sum_append, sum_refusals, zero_add]
  cases scheduler.judgedWait? now task with
  | none => rfl
  | some wait =>
      rcases wait with ⟨duration, tier, judgement⟩
      cases judgement with
      | _ => simp [Profile.Wait.occurrences, Profile.Wait.demotes]

@[simp]
theorem adds_stop (unit : Nat) (requeue : Bool) :
    adds ⟨scheduler, now, .stop unit task requeue⟩ reading =
      (((scheduler.profile? task).bind fun profile =>
        (profile.stop scheduler.config now requeue).1).toList.map fun tiers =>
          reading.read (.single (.reclassification tiers.1 tiers.2))).sum := by
  simp [adds, occurrences, Scheduler.occurrences, Function.comp_def]

@[simp]
theorem adds_tick (unit : Nat) :
    adds ⟨scheduler, now, .tick unit task⟩ reading =
      (((scheduler.profile? task).bind fun profile =>
        (profile.checkCeiling scheduler.config.runCeiling now).1).toList.map fun found =>
          reading.read (.single (.starvationKick found.1))).sum := by
  simp [adds, occurrences, Scheduler.occurrences, Function.comp_def]

@[simp]
theorem adds_changeIdle (unit : Nat) (idle : Bool) :
    adds ⟨scheduler, now, .changeIdle unit idle⟩ reading = 0 := rfl

@[simp]
theorem adds_exit : adds ⟨scheduler, now, .exit task⟩ reading = 0 := rfl

end Moment

end TierSched
