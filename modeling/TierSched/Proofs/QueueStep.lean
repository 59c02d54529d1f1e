import TierSched.Proofs.Callback
import TierSched.Proofs.Draw
import TierSched.Proofs.Execution
import TierSched.Proofs.QueueOperation

/-!
# What events do to the queues

The callbacks use the queues through three operations only, and each event causes operations of its own
kind: an enqueue pushes an entry of its task, a request for work makes attempts, and a start and an
exit drop entries of their task. `Scheduler.operations` lists them and `Scheduler.queues_handle` shows
that the list is complete, so what is known about all sequences of operations is known about the queues
of every execution.
-/

namespace TierSched

open ReadyQueues (Operation)

/-- The event can cause the operation on the queues. -/
def Event.Causes (event : Event) (operation : Operation) : Prop :=
  match event, operation with
  | enqueue task _, .push _ entry => entry.task = task
  | dispatch _, .pop => True
  | start _ task, .drop _ dropped => dropped = task
  | exit task, .drop _ dropped => dropped = task
  | _, _ => False

/-- A search makes one attempt for each stale entry that it discards, and one more. -/
theorem queues_draw (queues : ReadyQueues) (roster : Roster) :
    (draw queues roster).queues =
      queues.performAll (List.replicate ((draw queues roster).stale.length + 1) .pop) := by
  induction queues, roster using draw_induction with
  | exhausted queues roster rest popped => exact (congrArg Prod.snd popped).symm
  | found queues roster rest tier entry popped live => exact (congrArg Prod.snd popped).symm
  | discarded queues roster rest tier entry further popped stale ih =>
      have first : queues.perform .pop = rest := congrArg Prod.snd popped
      rw [List.length_cons, List.replicate_succ, ReadyQueues.performAll, List.foldl_cons, first]
      exact ih

theorem queues_dropFrom (queues : ReadyQueues) (source : Option Tier) (task : TaskId) :
    queues.dropFrom source task =
      queues.performAll (source.toList.map fun tier => .drop tier task) := by
  cases source with
  | none => rfl
  | some tier => rfl

namespace Scheduler

/-- The operations on the queues that an event causes, in order. -/
def operations (scheduler : Scheduler) (now : Nanos) : Event → List Operation
  | .enqueue task _ =>
    (scheduler.pushed? now task).toList.map fun pushed =>
      .push pushed.tier ⟨task, pushed.slice, pushed.generation⟩
  | .dispatch _ =>
    List.replicate ((draw scheduler.queues scheduler.roster).stale.length + 1) .pop
  | .start _ task =>
    ((scheduler.profile? task).bind Profile.waitsIn).toList.map fun tier => .drop tier task
  | .exit task =>
    (((scheduler.profile? task).bind Profile.waitsIn).toList ++ [Tier.interactive]).map
      fun tier => .drop tier task
  | .wake .. | .stop .. | .tick .. | .changeIdle .. => []

theorem queues_handle (scheduler : Scheduler) (now : Nanos) (event : Event) :
    (scheduler.handle now event).scheduler.queues =
      scheduler.queues.performAll (scheduler.operations now event) := by
  cases event with
  | wake task previous flags => exact scheduler.queues_wake now task previous flags
  | enqueue task flags =>
      have pushed_eq := scheduler.queues_enqueue now task flags
      rw [operations]
      cases found : scheduler.pushed? now task with
      | none =>
          rw [found] at pushed_eq
          exact pushed_eq
      | some pushed =>
          rw [found] at pushed_eq
          exact pushed_eq
  | dispatch unit => exact (scheduler.queues_dispatch unit).trans (queues_draw _ _)
  | start unit task => exact (scheduler.queues_start now unit task).trans (queues_dropFrom _ _ _)
  | stop unit task requeue => exact scheduler.queues_stop now unit task requeue
  | tick unit task => exact scheduler.queues_tick now unit task
  | changeIdle unit idle => exact scheduler.queues_changeIdle unit idle
  | exit task =>
      have exit_eq := scheduler.queues_exit task
      rw [queues_dropFrom, queues_dropFrom, ← ReadyQueues.performAll_append,
        ← List.map_append] at exit_eq
      exact exit_eq

/-- Every event keeps the recorded lengths right. -/
theorem consistent_handle {scheduler : Scheduler} (consistent : scheduler.queues.Consistent)
    (now : Nanos) (event : Event) :
    (scheduler.handle now event).scheduler.queues.Consistent := by
  rw [scheduler.queues_handle]
  exact consistent.performAll (scheduler.operations now event)

theorem causes_of_mem_operations {scheduler : Scheduler} {now : Nanos} {event : Event}
    {operation : Operation} (member : operation ∈ scheduler.operations now event) :
    event.Causes operation := by
  cases event with
  | enqueue task flags =>
      rcases List.mem_map.mp member with ⟨pushed, _, rfl⟩
      rfl
  | dispatch unit =>
      rw [List.eq_of_mem_replicate member]
      trivial
  | start unit task =>
      rcases List.mem_map.mp member with ⟨tier, _, rfl⟩
      rfl
  | exit task =>
      rcases List.mem_map.mp member with ⟨tier, _, rfl⟩
      rfl
  | _ => simp [operations] at member

end Scheduler

/-- An interval of zero counts as one. -/
theorem ReadyQueues.toNat_interval_empty (interval : UInt64) :
    (empty interval).interval.toNat = max interval.toNat 1 := by
  simp only [empty]
  split
  · rename_i zero
    rw [zero]
    rfl
  · rename_i positive
    rw [← UInt64.toNat_inj] at positive
    change interval.toNat ≠ 0 at positive
    omega

namespace Execution

theorem consistent (execution : Execution) : execution.scheduler.queues.Consistent := by
  apply execution.induction (motive := fun _ scheduler => scheduler.queues.Consistent)
  · exact ReadyQueues.consistent_empty execution.config.lowTierInterval
  · intro _ scheduler now event consistent
    exact Scheduler.consistent_handle consistent now event

theorem toNat_interval (execution : Execution) :
    execution.scheduler.queues.interval.toNat =
      max execution.config.lowTierInterval.toNat 1 := by
  apply execution.induction (motive := fun _ scheduler => scheduler.queues.interval.toNat =
    max execution.config.lowTierInterval.toNat 1)
  · exact ReadyQueues.toNat_interval_empty _
  · intro _ scheduler now event interval_eq
    rw [scheduler.queues_handle, ReadyQueues.interval_performAll]
    exact interval_eq

end Execution

end TierSched
