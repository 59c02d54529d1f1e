import TierSched.Proofs.Profile
import TierSched.Proofs.Waiting
import TierSched.Scheduler.Event

/-!
# What the callbacks do to profiles and queues

Every callback about a task changes the profile of this task and what waits for it, and nothing else
in the roster and in the queues. This file states, for each callback, the roster, the profile of an
arbitrary task and the queues afterwards. Statistics, occupancy, kicks and notices do not appear here, except
that a wake-up remembers whether it kicked a unit.

A callback that observes a task starts from `Scheduler.observed?`: the profile of a tracked task, a
fresh profile for a task that is tracked from now on, and nothing if the roster has no room for it.
-/

namespace TierSched

namespace Scheduler

/-- The profile with which a callback about a task begins, none if the task cannot be tracked. -/
def observed? (scheduler : Scheduler) (task : TaskId) : Option Profile :=
  match scheduler.profile? task with
  | some profile => some profile
  | none =>
    if scheduler.roster.capacity ≤ scheduler.roster.count then none
    else some scheduler.freshProfile

theorem observed?_of_profile? {scheduler : Scheduler} {task : TaskId} {profile : Profile}
    (tracked : scheduler.profile? task = some profile) :
    scheduler.observed? task = some profile := by
  simp [observed?, tracked]

/-- An observed task was tracked before or starts with a fresh profile. -/
theorem observed?_eq_some {scheduler : Scheduler} {task : TaskId} {profile : Profile}
    (observed : scheduler.observed? task = some profile) :
    scheduler.profile? task = some profile ∨
      scheduler.profile? task = none ∧ profile = scheduler.freshProfile := by
  rw [observed?] at observed
  split at observed
  · rename_i tracked found
    rw [← observed]
    exact Or.inl found
  · rename_i missing
    split at observed
    · contradiction
    · exact Or.inr ⟨missing, (Option.some.inj observed).symm⟩

theorem profile?_eq_none_of_observed? {scheduler : Scheduler} {task : TaskId}
    (unobserved : scheduler.observed? task = none) : scheduler.profile? task = none := by
  cases tracked : scheduler.profile? task with
  | none => rfl
  | some profile =>
      rw [observed?_of_profile? tracked] at unobserved
      contradiction

section Observe

variable {Report : Type} (scheduler : Scheduler) (task : TaskId) (hint : Nat)
  (change : Profile → Report × Profile) (untracked : Report)

theorem reply_observe :
    (scheduler.observe task hint change untracked).reply =
      ((scheduler.observed? task).map fun profile => (change profile).1).getD untracked := by
  simp only [observe, observed?, Roster.updateOrInsert, profile?]
  cases found : scheduler.roster.get? task with
  | some profile => simp
  | none =>
      by_cases full : scheduler.roster.capacity ≤ scheduler.roster.count
      · simp [full]
      · simp [full]

theorem roster_observe :
    (scheduler.observe task hint change untracked).scheduler.roster =
      (scheduler.roster.updateOrInsert task scheduler.freshProfile change).2 := by
  simp only [observe]
  split
  · rename_i report roster changed
    rw [changed]
  · rename_i fault roster refused
    rw [refused]
    rfl

theorem profile?_observe (read : TaskId) :
    (scheduler.observe task hint change untracked).scheduler.profile? read =
      if task = read then (scheduler.observed? task).map fun profile => (change profile).2
      else scheduler.profile? read := by
  have written := scheduler.roster.get?_updateOrInsert task read scheduler.freshProfile change
  simp only [profile?, roster_observe, written, observed?]
  by_cases same : task = read
  · rw [if_pos same, if_pos same]
    cases found : scheduler.roster.get? task with
    | some profile => simp
    | none =>
        by_cases full : scheduler.roster.capacity ≤ scheduler.roster.count
        · simp [full]
        · simp [full]
  · rw [if_neg same, if_neg same]

theorem queues_observe :
    (scheduler.observe task hint change untracked).scheduler.queues = scheduler.queues := by
  simp only [observe]
  split <;> rfl

theorem kicks_observe : (scheduler.observe task hint change untracked).kicks = [] := by
  simp only [observe]
  split <;> rfl

end Observe

section Wake

variable (scheduler : Scheduler) (now : Nanos) (task : TaskId)

theorem roster_kickVictim (tier : Tier) (hint : Nat) :
    (scheduler.kickVictim tier now hint).scheduler.roster = scheduler.roster := by
  simp only [kickVictim]
  split <;> rfl

theorem queues_kickVictim (tier : Tier) (hint : Nat) :
    (scheduler.kickVictim tier now hint).scheduler.queues = scheduler.queues := by
  simp only [kickVictim]
  split <;> rfl

theorem kicks_kickVictim (tier : Tier) (hint : Nat) :
    (scheduler.kickVictim tier now hint).kicks =
      (scheduler.kickVictim tier now hint).reply.toList.map fun unit => ⟨unit, .preemption⟩ := by
  simp only [kickVictim]
  split <;> rfl

theorem profile?_markKickedOnWake (read : TaskId) :
    (scheduler.markKickedOnWake task).profile? read =
      if task = read then
        (scheduler.profile? read).map fun profile => { profile with kickedOnWake := true }
      else scheduler.profile? read := by
  simp only [profile?, markKickedOnWake, Roster.get?_update]
  by_cases same : task = read
  · simp [same]
  · simp [same]

/-- Placing a task changes the roster only to remember that a unit was kicked. -/
theorem roster_place (previous : Option Nat) (flags : WakeFlags) (tier : Tier) (slice : Nanos) :
    (scheduler.place now task previous flags tier slice).scheduler.roster =
      if (scheduler.place now task previous flags tier slice).kicks = [] then scheduler.roster
      else (scheduler.markKickedOnWake task).roster := by
  rcases taken : scheduler.occupancy.takeIdle (scheduler.topology.preferences
      (if flags.fork then none else previous) tier) with ⟨_ | unit, occupancy⟩
  · simp only [place, taken, Outcome.scheduler_andThen, Outcome.kicks_andThen]
    by_cases sync : flags.sync = true
    · simp [sync]
    · have kicks_eq := scheduler.kicks_kickVictim now tier (previous.getD 0)
      have roster_eq := scheduler.roster_kickVictim now tier (previous.getD 0)
      rw [if_neg sync]
      cases chosen : (scheduler.kickVictim tier now (previous.getD 0)).reply with
      | none =>
          simp only [chosen, Option.toList_none, List.map_nil] at kicks_eq
          simp [kicks_eq, roster_eq]
      | some unit =>
          simp only [chosen, Option.toList_some, List.map_cons, List.map_nil] at kicks_eq
          simp [kicks_eq, markKickedOnWake, roster_eq]
  · simp [place, taken, count]

theorem profile?_place (previous : Option Nat) (flags : WakeFlags) (tier : Tier) (slice : Nanos)
    (read : TaskId) :
    (scheduler.place now task previous flags tier slice).scheduler.profile? read =
      if task = read ∧ (scheduler.place now task previous flags tier slice).kicks ≠ [] then
        (scheduler.profile? read).map fun profile => { profile with kickedOnWake := true }
      else scheduler.profile? read := by
  rw [profile?, roster_place]
  by_cases quiet : (scheduler.place now task previous flags tier slice).kicks = []
  · simp [quiet, profile?]
  · rw [if_neg quiet]
    simp only [ne_eq, quiet, not_false_eq_true, and_true]
    exact scheduler.profile?_markKickedOnWake task read

theorem queues_place (previous : Option Nat) (flags : WakeFlags) (tier : Tier) (slice : Nanos) :
    (scheduler.place now task previous flags tier slice).scheduler.queues = scheduler.queues := by
  rcases taken : scheduler.occupancy.takeIdle (scheduler.topology.preferences
      (if flags.fork then none else previous) tier) with ⟨_ | unit, occupancy⟩
  · simp only [place, taken, Outcome.scheduler_andThen]
    by_cases sync : flags.sync = true
    · simp [sync]
    · rw [if_neg sync]
      cases chosen : (scheduler.kickVictim tier now (previous.getD 0)).reply with
      | none => exact scheduler.queues_kickVictim now tier (previous.getD 0)
      | some unit => exact scheduler.queues_kickVictim now tier (previous.getD 0)
  · simp [place, taken, count]

theorem profile?_wake (previous : Option Nat) (flags : WakeFlags) (read : TaskId) :
    (scheduler.wake now task previous flags).scheduler.profile? read =
      if task = read then
        (scheduler.observed? task).map fun profile =>
          { (profile.wake now).2 with
            kickedOnWake := decide ((scheduler.wake now task previous flags).kicks ≠ []) }
      else scheduler.profile? read := by
  simp only [wake, Outcome.scheduler_andThen, Outcome.kicks_andThen, kicks_observe,
    List.nil_append, profile?_place, profile?_observe]
  by_cases same : task = read
  · rw [if_pos same, if_pos same]
    split
    · rename_i kicked
      rw [decide_eq_true kicked.2, Option.map_map]
      rfl
    · rename_i unkicked
      rw [decide_eq_false fun kicked => unkicked ⟨same, kicked⟩]
      rfl
  · rw [if_neg same, if_neg same, if_neg fun kicked => same kicked.1]

theorem queues_wake (previous : Option Nat) (flags : WakeFlags) :
    (scheduler.wake now task previous flags).scheduler.queues = scheduler.queues := by
  simp only [wake, Outcome.scheduler_andThen, queues_place, queues_observe]

end Wake

section Enqueue

variable (scheduler : Scheduler) (now : Nanos) (task : TaskId)

/-- What an enqueue pushes, none if the task waits already. -/
def pushed? : Option Profile.Enqueued :=
  ((scheduler.observed? task).map fun profile => (profile.enqueue now).1).getD
    (some scheduler.untrackedEntry)

variable {scheduler now task} in
/-- What is pushed is the entry of a task without room, or it shows the profile of the task. -/
theorem pushed?_cases {pushed : Profile.Enqueued}
    (queued : scheduler.pushed? now task = some pushed) :
    (scheduler.observed? task = none ∧ pushed = scheduler.untrackedEntry) ∨
      ∃ profile, scheduler.observed? task = some profile ∧
        pushed = ⟨profile.tier, profile.slice, profile.generation.next, profile.kickedOnWake⟩ := by
  rw [pushed?] at queued
  cases observed : scheduler.observed? task with
  | none =>
      rw [observed] at queued
      exact Or.inl ⟨rfl, (Option.some.inj queued).symm⟩
  | some profile =>
      rw [observed, Option.map_some, Option.getD_some] at queued
      refine Or.inr ⟨profile, rfl, ?_⟩
      by_cases waits : profile.phase = .queued
      · rw [Profile.enqueue_of_queued waits] at queued
        contradiction
      · rw [Profile.enqueue_of_not_queued waits] at queued
        exact (Option.some.inj queued).symm

theorem roster_enqueue (flags : EnqueueFlags) :
    (scheduler.enqueue now task flags).scheduler.roster =
      (scheduler.roster.updateOrInsert task scheduler.freshProfile
        fun profile => profile.enqueue now).2 := by
  rw [← scheduler.roster_observe task task (fun profile => profile.enqueue now)
    (some scheduler.untrackedEntry)]
  simp only [enqueue, Outcome.scheduler_andThen]
  split
  · rfl
  · split
    · simp only [Outcome.scheduler_andThen, roster_kickVictim]
      rfl
    · rfl

theorem profile?_enqueue (flags : EnqueueFlags) (read : TaskId) :
    (scheduler.enqueue now task flags).scheduler.profile? read =
      if task = read then (scheduler.observed? task).map fun profile => (profile.enqueue now).2
      else scheduler.profile? read := by
  rw [← scheduler.profile?_observe task task (fun profile => profile.enqueue now)
    (some scheduler.untrackedEntry), profile?, profile?, roster_enqueue, roster_observe]

theorem queues_enqueue (flags : EnqueueFlags) :
    (scheduler.enqueue now task flags).scheduler.queues =
      match scheduler.pushed? now task with
      | none => scheduler.queues
      | some pushed =>
        scheduler.queues.push pushed.tier ⟨task, pushed.slice, pushed.generation⟩ := by
  have queues_eq := scheduler.queues_observe task task (fun profile => profile.enqueue now)
    (some scheduler.untrackedEntry)
  simp only [enqueue, Outcome.scheduler_andThen, reply_observe]
  change (match scheduler.pushed? now task with | none => _ | some pushed => _ :
    Outcome Unit).scheduler.queues = _
  cases scheduler.pushed? now task with
  | none => exact queues_eq
  | some pushed =>
      simp only
      split
      · simp [queues_kickVictim, count, queues_eq]
      · simp [count, queues_eq]

end Enqueue

section Dispatch

variable (scheduler : Scheduler) (unit : Nat)

theorem reply_dispatch :
    (scheduler.dispatch unit).reply =
      (draw scheduler.queues scheduler.roster).taken.map fun found =>
        ⟨found.2.task, found.2.slice, found.1⟩ := by
  unfold dispatch
  cases taken : (draw scheduler.queues scheduler.roster).taken with
  | none => simp [taken]
  | some found => simp [taken]

theorem kicks_dispatch : (scheduler.dispatch unit).kicks = [] := by
  simp only [dispatch]
  split <;> rfl

theorem roster_dispatch :
    (scheduler.dispatch unit).scheduler.roster =
      (draw scheduler.queues scheduler.roster).roster := by
  simp only [dispatch]
  split <;> rfl

theorem profile?_dispatch (read : TaskId) :
    (scheduler.dispatch unit).scheduler.profile? read =
      (draw scheduler.queues scheduler.roster).roster.get? read := by
  rw [profile?, roster_dispatch]

theorem queues_dispatch :
    (scheduler.dispatch unit).scheduler.queues =
      (draw scheduler.queues scheduler.roster).queues := by
  simp only [dispatch]
  split <;> rfl

end Dispatch

/-- Only a request for work is answered by handing out a task. -/
theorem dispatch_of_reply {scheduler : Scheduler} {now : Nanos} {event : Event}
    {answer : Option Assignment}
    (reply_eq : (scheduler.handle now event).reply = .dispatched answer) :
    ∃ unit, event = .dispatch unit ∧ (scheduler.dispatch unit).reply = answer := by
  cases event with
  | dispatch unit => exact ⟨unit, rfl, Reply.dispatched.inj reply_eq⟩
  | _ => contradiction

section Run

variable (scheduler : Scheduler) (now : Nanos) (unit : Nat) (task : TaskId)

theorem roster_settleWait (wait : Profile.Wait) :
    (scheduler.settleWait unit task wait).scheduler.roster = scheduler.roster := by
  simp only [settleWait]
  split <;> rfl

theorem queues_settleWait (wait : Profile.Wait) :
    (scheduler.settleWait unit task wait).scheduler.queues = scheduler.queues := by
  simp only [settleWait]
  split <;> rfl

theorem roster_start :
    (scheduler.start now unit task).scheduler.roster =
      (scheduler.roster.updateOrInsert task scheduler.freshProfile
        fun profile => profile.start scheduler.config.waitBudget now).2 := by
  rw [← scheduler.roster_observe task unit
    (fun profile => profile.start scheduler.config.waitBudget now) untrackedStart]
  simp only [start, Outcome.scheduler_andThen, reportRunning]
  split
  · split <;> rfl
  · rw [roster_settleWait]
    split <;> rfl

theorem profile?_start (read : TaskId) :
    (scheduler.start now unit task).scheduler.profile? read =
      if task = read then
        (scheduler.observed? task).map fun profile =>
          (profile.start scheduler.config.waitBudget now).2
      else scheduler.profile? read := by
  rw [← scheduler.profile?_observe task unit
    (fun profile => profile.start scheduler.config.waitBudget now) untrackedStart, profile?,
    profile?, roster_start, roster_observe]

/-- A start drops the entries of its task from the lane in which the task still waits. -/
theorem queues_start :
    (scheduler.start now unit task).scheduler.queues =
      scheduler.queues.dropFrom ((scheduler.profile? task).bind Profile.waitsIn) task := by
  have queues_eq := scheduler.queues_observe task unit
    (fun profile => profile.start scheduler.config.waitBudget now) untrackedStart
  have undispatched_eq :
      (scheduler.observe task unit (fun profile => profile.start scheduler.config.waitBudget now)
        untrackedStart).reply.undispatched =
      (scheduler.profile? task).bind Profile.waitsIn := by
    rw [reply_observe]
    cases observed : scheduler.observed? task with
    | none => simp [profile?_eq_none_of_observed? observed, untrackedStart]
    | some profile =>
        have kept := profile.undispatched_start scheduler.config.waitBudget now
        rcases observed?_eq_some observed with tracked | ⟨missing, rfl⟩
        · simp [tracked, kept]
        · simp only [Option.map_some, Option.getD_some, missing, Option.bind_none]
          exact kept
  simp only [start, Outcome.scheduler_andThen, reportRunning, undispatched_eq]
  split
  · cases (scheduler.profile? task).bind Profile.waitsIn with
    | none => exact queues_eq
    | some tier => simp [dropEntries, ReadyQueues.dropFrom, queues_eq]
  · rw [queues_settleWait]
    cases (scheduler.profile? task).bind Profile.waitsIn with
    | none => exact queues_eq
    | some tier => simp [dropEntries, ReadyQueues.dropFrom, queues_eq]

theorem kicks_start : (scheduler.start now unit task).kicks = [] := by
  simp only [start, Outcome.kicks_andThen, kicks_observe, List.append_nil]

theorem kicks_stop (requeue : Bool) : (scheduler.stop now unit task requeue).kicks = [] := by
  simp only [stop]
  split <;> rfl

theorem roster_stop (requeue : Bool) :
    (scheduler.stop now unit task requeue).scheduler.roster =
      (scheduler.roster.update task fun profile =>
        profile.stop scheduler.config now requeue).2 := by
  simp only [stop]
  split <;> rfl

theorem profile?_stop (requeue : Bool) (read : TaskId) :
    (scheduler.stop now unit task requeue).scheduler.profile? read =
      if task = read then
        (scheduler.profile? task).map fun profile => (profile.stop scheduler.config now requeue).2
      else scheduler.profile? read := by
  rw [profile?, roster_stop, Roster.get?_update]
  rfl

theorem queues_stop (requeue : Bool) :
    (scheduler.stop now unit task requeue).scheduler.queues = scheduler.queues := by
  simp only [stop]
  split <;> rfl

theorem roster_tick :
    (scheduler.tick now unit task).scheduler.roster =
      (scheduler.roster.update task fun profile =>
        profile.checkCeiling scheduler.config.runCeiling now).2 := by
  simp only [tick]
  split <;> rfl

theorem profile?_tick (read : TaskId) :
    (scheduler.tick now unit task).scheduler.profile? read =
      if task = read then
        (scheduler.profile? task).map fun profile =>
          (profile.checkCeiling scheduler.config.runCeiling now).2
      else scheduler.profile? read := by
  rw [profile?, roster_tick, Roster.get?_update]
  rfl

theorem queues_tick :
    (scheduler.tick now unit task).scheduler.queues = scheduler.queues := by
  simp only [tick]
  split <;> rfl

theorem kicks_changeIdle (idle : Bool) : (scheduler.changeIdle unit idle).kicks = [] := by
  simp only [changeIdle]
  split <;> rfl

theorem roster_changeIdle (idle : Bool) :
    (scheduler.changeIdle unit idle).scheduler.roster = scheduler.roster := by
  simp only [changeIdle]
  split <;> rfl

theorem profile?_changeIdle (idle : Bool) (read : TaskId) :
    (scheduler.changeIdle unit idle).scheduler.profile? read = scheduler.profile? read := by
  rw [profile?, roster_changeIdle]
  rfl

theorem queues_changeIdle (idle : Bool) :
    (scheduler.changeIdle unit idle).scheduler.queues = scheduler.queues := by
  simp only [changeIdle]
  split <;> rfl

theorem roster_exit :
    (scheduler.exit task).scheduler.roster = (scheduler.roster.remove task).2 := by
  simp only [exit, dropEntries]
  split <;> rfl

theorem profile?_exit (read : TaskId) :
    (scheduler.exit task).scheduler.profile? read =
      if task = read then none else scheduler.profile? read := by
  rw [profile?, roster_exit, Roster.get?_remove]
  rfl

/-- An exit drops the entries of its task from the lane in which the task waits, and from the lane
in which it waited while it was not tracked. -/
theorem queues_exit :
    (scheduler.exit task).scheduler.queues =
      (scheduler.queues.dropFrom ((scheduler.profile? task).bind Profile.waitsIn) task).dropFrom
        (some .interactive) task := by
  have removed_eq : (scheduler.roster.remove task).1 = scheduler.profile? task := by
    simp only [Roster.remove, profile?]
    split <;> simp_all
  simp only [exit, dropEntries, removed_eq]
  cases (scheduler.profile? task).bind Profile.waitsIn with
  | none => rfl
  | some tier => rfl

end Run

end Scheduler

end TierSched
