import Mathlib.Algebra.Order.BigOperators.Group.List
import Mathlib.Algebra.Order.Group.Nat
import TierSched.Proofs.Moment
import TierSched.Proofs.QueueStep

/-!
# Where queue entries go

An entry enters the queues when a task is queued and leaves them in one of three ways: it is handed out
or discarded when a unit asks for work, or it is dropped because its task starts or exits. No entry is
lost in any other way, so everything that was ever pushed is still queued or has left in one of these.
-/

namespace TierSched

namespace ReadyQueues

variable (queues : ReadyQueues)

theorem weight_push (tier : Tier) (entry : Entry) :
    (queues.push tier entry).weight = queues.weight + 1 := by
  simp only [weight, Tier.all, List.map_cons, List.map_nil, List.foldl_cons, List.foldl_nil,
    entries_push]
  cases tier <;> simp <;> omega

theorem weight_drop_le (tier : Tier) (task : TaskId) :
    (queues.drop tier task).2.weight ≤ queues.weight := by
  have shorter : ∀ read, ((queues.drop tier task).2.entries read).length ≤
      (queues.entries read).length := by
    intro read
    rw [entries_drop]
    split
    · exact List.length_filter_le _ _
    · exact Nat.le_refl _
  simp only [weight, ← List.sum_eq_foldl]
  exact List.sum_le_sum fun tier _ => shorter tier

theorem weight_dropFrom_le (source : Option Tier) (task : TaskId) :
    (queues.dropFrom source task).weight ≤ queues.weight := by
  cases source with
  | none => exact Nat.le_refl _
  | some tier => exact queues.weight_drop_le tier task

theorem Consistent.total_eq {queues : ReadyQueues} (consistent : queues.Consistent) :
    queues.total = queues.weight := by
  have same : queues.length = fun tier => (queues.entries tier).length := by
    funext tier
    exact consistent tier
  rw [total, weight, same]

end ReadyQueues

namespace Moment

variable (moment : Moment)

/-- The number of entries that the event pushes: by so many the queues grow. -/
def pushed : Nat :=
  moment.next.queues.weight - moment.scheduler.queues.weight

/-- The number of tasks that are handed out to a unit that asked for work. -/
def handedOut : Nat :=
  match moment.outcome.reply with
  | .dispatched answer => answer.toList.length
  | .none | .placed _ => 0

/-- The number of stale entries that are discarded when a unit asks for work. -/
def discarded : Nat :=
  match moment.event with
  | .dispatch _ => (draw moment.scheduler.queues moment.scheduler.roster).stale.length
  | _ => 0

/-- The number of entries that are dropped because a task starts or exits. -/
def dropped : Nat :=
  match moment.event with
  | .start _ _ | .exit _ => moment.scheduler.queues.weight - moment.next.queues.weight
  | _ => 0

section Weight

variable (scheduler : Scheduler) (now : Nanos) (task : TaskId)

theorem weight_enqueue (flags : EnqueueFlags) :
    (scheduler.enqueue now task flags).scheduler.queues.weight =
      scheduler.queues.weight + (scheduler.pushed? now task).toList.length := by
  rw [Scheduler.queues_enqueue]
  cases scheduler.pushed? now task with
  | none => rfl
  | some pushed => exact scheduler.queues.weight_push _ _

theorem weight_dispatch (unit : Nat) :
    (scheduler.dispatch unit).scheduler.queues.weight +
        ((scheduler.dispatch unit).reply.toList.length +
          (draw scheduler.queues scheduler.roster).stale.length) = scheduler.queues.weight := by
  have weight_eq := (draw_sound scheduler.queues scheduler.roster).weight_eq
  rw [Scheduler.reply_dispatch, Scheduler.queues_dispatch, Option.toList_map, List.length_map]
  omega

theorem weight_start_le (unit : Nat) :
    (scheduler.start now unit task).scheduler.queues.weight ≤ scheduler.queues.weight := by
  rw [Scheduler.queues_start]
  exact scheduler.queues.weight_dropFrom_le _ task

theorem weight_exit_le :
    (scheduler.exit task).scheduler.queues.weight ≤ scheduler.queues.weight := by
  rw [Scheduler.queues_exit]
  exact Nat.le_trans (ReadyQueues.weight_dropFrom_le _ _ task)
    (scheduler.queues.weight_dropFrom_le _ task)

end Weight

/-- An enqueue pushes at most one entry, and no other event pushes one. -/
theorem pushed_eq :
    moment.pushed =
      match moment.event with
      | .enqueue task _ => (moment.scheduler.pushed? moment.now task).toList.length
      | _ => 0 := by
  rcases moment with ⟨scheduler, now, event⟩
  cases event with
  | wake task previous flags => simp [pushed, next, Scheduler.queues_wake]
  | enqueue task flags => simp [pushed, next, weight_enqueue]
  | dispatch unit =>
      have weight_eq := weight_dispatch scheduler unit
      simp only [pushed, next, outcome_dispatch, Outcome.scheduler_map]
      omega
  | start unit task => exact Nat.sub_eq_zero_of_le (weight_start_le scheduler now task unit)
  | stop unit task requeue => simp [pushed, next, Scheduler.queues_stop]
  | tick unit task => simp [pushed, next, Scheduler.queues_tick]
  | changeIdle unit idle => simp [pushed, next, Scheduler.queues_changeIdle]
  | exit task => exact Nat.sub_eq_zero_of_le (weight_exit_le scheduler task)

/-- In every moment the queues change by what is pushed and by what leaves them. -/
theorem weight_next :
    moment.next.queues.weight + (moment.handedOut + moment.discarded + moment.dropped) =
      moment.scheduler.queues.weight + moment.pushed := by
  rw [pushed_eq]
  rcases moment with ⟨scheduler, now, event⟩
  cases event with
  | wake task previous flags =>
      simp [handedOut, discarded, dropped, next, Scheduler.queues_wake]
  | enqueue task flags => simp [handedOut, discarded, dropped, next, weight_enqueue]
  | dispatch unit => simpa [handedOut, discarded, dropped, next] using weight_dispatch scheduler unit
  | start unit task =>
      have balanced := Nat.add_sub_of_le (weight_start_le scheduler now task unit)
      simpa [handedOut, discarded, dropped, next] using balanced
  | stop unit task requeue =>
      simp [handedOut, discarded, dropped, next, Scheduler.queues_stop]
  | tick unit task => simp [handedOut, discarded, dropped, next, Scheduler.queues_tick]
  | changeIdle unit idle =>
      simp [handedOut, discarded, dropped, next, Scheduler.queues_changeIdle]
  | exit task =>
      have balanced := Nat.add_sub_of_le (weight_exit_le scheduler task)
      simpa [handedOut, discarded, dropped, next] using balanced

end Moment

namespace Execution

variable (execution : Execution)

/-- Every entry that was pushed is still queued, or it was handed out, discarded or dropped. -/
theorem total_pushed :
    execution.total Moment.pushed =
      execution.scheduler.queues.total + execution.total Moment.handedOut +
        execution.total Moment.discarded + execution.total Moment.dropped := by
  have balanced := Scheduler.balance (fun scheduler => scheduler.queues.weight) Moment.weight_next
    execution.initial execution.history
  have empty : execution.initial.queues.weight = 0 := by
    rw [execution.initial_eq]
    simp [Scheduler.initial, ReadyQueues.weight, Tier.all]
  rw [execution.consistent.total_eq]
  simp only [List.sum_map_add, empty] at balanced
  simp only [total, moments, scheduler]
  omega

end Execution

end TierSched
