import TierSched.Proofs.QueueStep
import TierSched.Proofs.TaskStep

/-!
# Tasks do not disturb one another

The profiles of many tasks share a shard, and the entries of all tasks of a tier share a lane. Still a
callback about one task leaves the profile of every other task alone, and what other tasks have in a
lane keeps its order: an enqueue appends an entry of its own task, and a start and an exit drop entries
of their own task only. A request for work is about no task. It may discard many entries, all of them
from the fronts of their lanes, but it changes only the profile of the task that it hands out.

For the lanes the argument is made once for each operation on the queues and not for each callback:
`ReadyQueues.Operation.OwnedBy` names the operations with entries of one task, and they are the only
ones that a callback about this task causes.
-/

namespace TierSched

namespace ReadyQueues

/-- The entries of all other tasks in the lane of each tier, from the front to the back. -/
def besides (queues : ReadyQueues) (task : TaskId) : Waiting :=
  fun tier => (queues.entries tier).filter fun entry => entry.task ≠ task

/-- The operation writes or drops entries of this task, and takes none. -/
def Operation.OwnedBy (task : TaskId) : Operation → Prop
  | push _ entry => entry.task = task
  | pop => False
  | drop _ dropped => dropped = task

theorem besides_push (queues : ReadyQueues) (tier : Tier) (entry : Entry) :
    (queues.push tier entry).besides entry.task = queues.besides entry.task := by
  funext read
  simp only [besides, entries_push]
  by_cases same : tier = read
  · simp [same, List.filter_append]
  · simp [same]

theorem besides_drop (queues : ReadyQueues) (tier : Tier) (task : TaskId) :
    (queues.drop tier task).2.besides task = queues.besides task := by
  funext read
  simp only [besides, entries_drop]
  by_cases same : tier = read
  · simp [same, List.filter_filter]
  · simp [same]

theorem besides_perform {operation : Operation} {task : TaskId} (queues : ReadyQueues)
    (owned : operation.OwnedBy task) :
    (queues.perform operation).besides task = queues.besides task := by
  cases operation with
  | push tier entry =>
      rw [← (owned : entry.task = task)]
      exact queues.besides_push tier entry
  | pop => exact owned.elim
  | drop tier dropped =>
      rw [← (owned : dropped = task)]
      exact queues.besides_drop tier dropped

theorem besides_performAll {operations : List Operation} {task : TaskId} (queues : ReadyQueues)
    (owned : ∀ operation ∈ operations, operation.OwnedBy task) :
    (queues.performAll operations).besides task = queues.besides task := by
  induction operations generalizing queues with
  | nil => rfl
  | cons operation later ih =>
      have first := queues.besides_perform (owned operation (by simp))
      have others := ih (queues.perform operation) fun next member => owned next (by simp [member])
      exact others.trans first

end ReadyQueues

theorem Event.Causes.ownedBy {event : Event} {operation : ReadyQueues.Operation} {task : TaskId}
    (caused : event.Causes operation) (about : event.task? = some task) :
    operation.OwnedBy task := by
  cases event with
  | enqueue queued flags =>
      rcases Option.some.inj about with rfl
      cases operation with
      | push tier entry => exact caused
      | _ => exact caused.elim
  | start unit started =>
      rcases Option.some.inj about with rfl
      cases operation with
      | drop tier dropped => exact caused
      | _ => exact caused.elim
  | exit gone =>
      rcases Option.some.inj about with rfl
      cases operation with
      | drop tier dropped => exact caused
      | _ => exact caused.elim
  | dispatch unit => contradiction
  | _ => exact (caused : False).elim

namespace Scheduler

theorem besides_handle (scheduler : Scheduler) (now : Nanos) {event : Event} {task : TaskId}
    (about : event.task? = some task) :
    (scheduler.handle now event).scheduler.queues.besides task =
      scheduler.queues.besides task := by
  rw [queues_handle]
  apply ReadyQueues.besides_performAll
  intro operation member
  exact (causes_of_mem_operations member).ownedBy about

/-- The profile of a task that was not handed out survives a request for work. -/
theorem profile?_dispatch_eq (scheduler : Scheduler) (unit : Nat) (read : TaskId) :
    (scheduler.dispatch unit).scheduler.profile? read =
      if (scheduler.dispatch unit).reply.map Assignment.task = some read then
        (scheduler.profile? read).map fun profile => { profile with waitsIn := none }
      else scheduler.profile? read := by
  have sound := draw_sound scheduler.queues scheduler.roster
  have handedOut : (scheduler.dispatch unit).reply.map Assignment.task =
      (draw scheduler.queues scheduler.roster).task? := by
    rw [reply_dispatch, Draw.task?, Option.map_map]
    rfl
  rw [handedOut, profile?_dispatch, sound.get?_eq]
  rfl

theorem entries_dispatch_suffix (scheduler : Scheduler) (unit : Nat) (tier : Tier) :
    (scheduler.dispatch unit).scheduler.queues.entries tier <:+ scheduler.queues.entries tier := by
  have sound := draw_sound scheduler.queues scheduler.roster
  rcases sound.entries_eq tier with ⟨discarded, _, split⟩
  rw [queues_dispatch]
  exact ⟨_, split.symm⟩

/-- A callback about a task changes the profile of no other task and keeps the order in which the
entries of the other tasks wait. A request for work claims the entry of the task that it hands out,
changes no profile apart from this and takes entries from the fronts only. A change of a unit concerns
neither profiles nor queues. -/
theorem others_undisturbed (scheduler : Scheduler) (now : Nanos) :
    (∀ event task, event.task? = some task →
      (∀ other, other ≠ task →
        (scheduler.handle now event).scheduler.profile? other = scheduler.profile? other) ∧
      ∀ tier,
        ((scheduler.handle now event).scheduler.queues.entries tier).filter
            (fun entry => entry.task ≠ task) =
          (scheduler.queues.entries tier).filter fun entry => entry.task ≠ task) ∧
    (∀ unit,
      (∀ read, (scheduler.dispatch unit).scheduler.profile? read =
        if (scheduler.dispatch unit).reply.map Assignment.task = some read then
          (scheduler.profile? read).map fun profile => { profile with waitsIn := none }
        else scheduler.profile? read) ∧
      ∀ tier, (scheduler.dispatch unit).scheduler.queues.entries tier <:+
        scheduler.queues.entries tier) ∧
    ∀ unit idle,
      (∀ read, (scheduler.changeIdle unit idle).scheduler.profile? read =
        scheduler.profile? read) ∧
      (scheduler.changeIdle unit idle).scheduler.queues = scheduler.queues := by
  refine ⟨?_, ?_, ?_⟩
  · intro event task about
    refine ⟨?_, ?_⟩
    · intro other different
      have view_eq : (scheduler.handle now event).scheduler.view other = scheduler.view other := by
        apply scheduler.view_handle_of_ne now other
        · rw [about]
          simpa using different.symm
        · intro unit request
          rw [request] at about
          contradiction
      exact congrArg TaskView.profile? view_eq
    · intro tier
      exact congrFun (scheduler.besides_handle now about) tier
  · intro unit
    exact ⟨scheduler.profile?_dispatch_eq unit, scheduler.entries_dispatch_suffix unit⟩
  · intro unit idle
    exact ⟨scheduler.profile?_changeIdle unit idle, scheduler.queues_changeIdle unit idle⟩

/-- Tasks 1 and 17 share a shard and a lane, and the exit of task 1 does not touch task 17. -/
theorem others_undisturbed_of_shared_shard :
    let scheduler := (Execution.ofHistory
      [(1000, .enqueue 1 ⟨true, false, false⟩), (2000, .enqueue 17 ⟨true, false, false⟩)]).scheduler
    let exited := (scheduler.handle 3000 (.exit 1)).scheduler
    Roster.shardOf 1 = Roster.shardOf 17 ∧ Event.task? (.exit 1) = some 1 ∧
      (scheduler.queues.entries .interactive).map Entry.task = [1, 17] ∧
      exited.profile? 17 = scheduler.profile? 17 ∧
      (exited.queues.entries .interactive).filter (fun entry => entry.task ≠ 1) =
        (scheduler.queues.entries .interactive).filter fun entry => entry.task ≠ 1 := by
  intro scheduler exited
  have about : Event.task? (.exit 1) = some 1 := rfl
  rcases (scheduler.others_undisturbed 3000).1 (.exit 1) 1 about with ⟨profiles, lanes⟩
  refine ⟨rfl, about, ?_, profiles 17 (by decide), lanes .interactive⟩
  decide +kernel

theorem profile?_handle_of_other {event : Event} {task : TaskId} (scheduler : Scheduler)
    (now : Nanos) (other : event.task? ≠ some task) :
    (scheduler.handle now event).scheduler.profile? task = scheduler.profile? task ∨
      (scheduler.handle now event).scheduler.profile? task =
        (scheduler.profile? task).map Profile.claimed := by
  by_cases supply : ∃ unit, event = .dispatch unit
  · rcases supply with ⟨unit, rfl⟩
    have profile_eq := scheduler.profile?_dispatch_eq unit task
    split at profile_eq
    · exact Or.inr profile_eq
    · exact Or.inl profile_eq
  · have view_eq := scheduler.view_handle_of_ne now task other fun unit same => supply ⟨unit, same⟩
    exact Or.inl (congrArg TaskView.profile? view_eq)

/-- As long as nothing is reported about a task, its profile stays, apart from a claim of the entry
with which it waits. -/
theorem profile?_after_of_others {task : TaskId} (scheduler : Scheduler)
    {history : List (Nanos × Event)}
    (others : ∀ reported ∈ history, reported.2.task? ≠ some task) :
    (scheduler.after history).profile? task = scheduler.profile? task ∨
      (scheduler.after history).profile? task =
        (scheduler.profile? task).map Profile.claimed := by
  induction history generalizing scheduler with
  | nil => exact Or.inl rfl
  | cons reported later ih =>
      have first := scheduler.profile?_handle_of_other reported.1 (others reported (by simp))
      have rest := ih (scheduler.handle reported.1 reported.2).scheduler
        fun next member => others next (by simp [member])
      simp only [after]
      -- A second claim finds nothing left to claim.
      rcases first with kept | claimed
      · rwa [kept] at rest
      · rw [claimed, Option.map_map] at rest
        rcases rest with same | again
        · exact Or.inr same
        · exact Or.inr again

end Scheduler

end TierSched
