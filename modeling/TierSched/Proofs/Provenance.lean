import TierSched.Proofs.Ownership

/-!
# Where an assignment comes from

A tracked task that waits has waited since an enqueue that pushed its current entry. After this
enqueue, it was not woken, started, stopped or removed, and it was not handed out. So an assignment
of a tracked task belongs to an enqueue of its own, and it is never the answer to an enqueue from
before the task moved on. This is shown by following the history: `TaskView.Step.origin` says which
steps can lead to a task that waits, and the enqueue is found where the wait began.
-/

namespace TierSched

namespace Event

/-- The event is the wake-up, the start, the stop or the exit of a task. -/
def MovesOn (event : Event) (task : TaskId) : Prop :=
  match event with
  | wake moved _ _ | start _ moved | stop _ moved _ | exit moved => moved = task
  | enqueue _ _ | dispatch _ | tick _ _ | changeIdle _ _ => False

theorem task?_eq_of_movesOn {event : Event} {task : TaskId} (moves : event.MovesOn task) :
    event.task? = some task := by
  cases event with
  | wake woken previous flags => exact congrArg some moves
  | start unit started => exact congrArg some moves
  | stop unit stopped requeue => exact congrArg some moves
  | exit gone => exact congrArg some moves
  | enqueue queued flags => exact moves.elim
  | dispatch unit => exact moves.elim
  | tick unit ticked => exact moves.elim
  | changeIdle unit idle => exact moves.elim

end Event

/-- The task waits with this entry in the lane of a tier. -/
structure Profile.WaitsWith (profile : Profile) (tier : Tier) (entry : Entry) : Prop where
  queued : profile.phase = .queued
  waits : profile.waitsIn ≠ none
  tier_eq : profile.tier = tier
  slice_eq : profile.slice = entry.slice
  generation_eq : profile.generation = entry.generation

/-- A task that waits after a step has waited before it, or was pushed by it. -/
theorem TaskView.Step.origin {config : Config} {now : Nanos} {task : TaskId} {event : Event}
    {before after : TaskView} (step : TaskView.Step config now task event before after)
    {profile : Profile} (tracked : after.profile? = some profile) {tier : Tier} {entry : Entry}
    (waits : profile.WaitsWith tier entry) (own : entry.task = task) :
    (¬event.MovesOn task ∧ ∃ earlier, before.profile? = some earlier ∧
        earlier.WaitsWith tier entry) ∨
      ∃ flags, event = .enqueue task flags ∧
        after.waiting = before.waiting.push tier entry := by
  cases step with
  | unaffected untracked =>
      refine Or.inl ⟨?_, profile, tracked, waits⟩
      intro moves
      rw [(untracked (Event.task?_eq_of_movesOn moves)).1] at tracked
      contradiction
  | wake earlier previous flags kicked observed =>
      rw [← Option.some.inj tracked] at waits
      have impossible := waits.queued
      contradiction
  | enqueue earlier flags observed accepted =>
      refine Or.inr ⟨flags, rfl, ?_⟩
      rw [← Option.some.inj tracked, Profile.enqueue_of_not_queued accepted] at waits
      rcases entry with ⟨owner, slice, generation⟩
      rcases waits with ⟨_, _, tier_eq, slice_eq, generation_eq⟩
      simp only at own tier_eq slice_eq generation_eq
      rw [own, tier_eq, slice_eq, generation_eq]
  | refuse earlier flags found queued => exact Or.inl ⟨False.elim, profile, tracked, waits⟩
  | enqueueUntracked flags slice untracked => contradiction
  | pass unit left split => exact Or.inl ⟨False.elim, profile, tracked, waits⟩
  | handOut unit source served left live split =>
      rcases Option.map_eq_some_iff.mp tracked with ⟨earlier, _, claimed⟩
      rw [← claimed] at waits
      exact absurd rfl waits.waits
  | start earlier unit observed =>
      rw [← Option.some.inj tracked] at waits
      exact absurd (earlier.start_frame config.waitBudget now).2.1 waits.waits
  | stop earlier unit requeue found =>
      rw [← Option.some.inj tracked] at waits
      exact absurd waits.queued (earlier.stop_frame config now requeue).2.1
  | tick earlier unit found =>
      rcases earlier.checkCeiling_eq config.runCeiling now with ⟨kicked, after_eq⟩
      rw [← Option.some.inj tracked, after_eq] at waits
      rcases waits with ⟨queued, waits, tier_eq, slice_eq, generation_eq⟩
      exact Or.inl ⟨False.elim, earlier, found, queued, waits, tier_eq, slice_eq, generation_eq⟩
  | exit => contradiction

/-- The live entry of a tracked task carries the tier and the slice of the task. -/
theorem TaskView.Ownership.waitsWith {view : TaskView} (ownership : view.Ownership)
    {profile : Profile} (tracked : view.profile? = some profile) {source : Tier} {entry : Entry}
    (member : entry ∈ view.waiting source) (owns : profile.Owns entry.generation) :
    profile.WaitsWith source entry := by
  rcases owns with ⟨queued, waits, generation_eq⟩
  rcases Option.ne_none_iff_exists'.mp waits with ⟨tier, waitsIn_eq⟩
  rcases ownership.waits profile tier tracked waitsIn_eq with ⟨tier_eq, positive⟩
  have issued : entry.generation ≠ Generation.untracked := by
    intro zero
    rw [generation_eq, zero] at positive
    contradiction
  have source_eq : tier = source := by
    rcases ownership.filed source entry member issued with ⟨same, same_eq, waitsIn, _⟩
    rw [tracked] at same_eq
    rw [← Option.some.inj same_eq, waitsIn_eq] at waitsIn
    exact Option.some.inj waitsIn
  rcases ownership.current profile tier tracked queued waitsIn_eq with
    ⟨older, current, waiting_eq, _, slice_eq, superseded⟩
  have entry_eq : entry = current := by
    rw [← source_eq, waiting_eq] at member
    rcases List.mem_append.mp member with old | last
    · exact absurd generation_eq.symm (superseded entry old)
    · exact List.mem_singleton.mp last
  refine ⟨queued, waits, tier_eq.symm.trans source_eq, ?_, generation_eq⟩
  rw [entry_eq, slice_eq]

namespace Scheduler

/-- No event of the history moves the task on, and none is answered by handing it out. -/
structure Undisturbed (scheduler : Scheduler) (task : TaskId)
    (history : List (Nanos × Event)) : Prop where
  unmoved : ∀ reported ∈ history, ¬reported.2.MovesOn task
  kept : ∀ outcome ∈ scheduler.outcomes history, ∀ assignment,
    outcome.reply = .dispatched (some assignment) → assignment.task ≠ task

theorem undisturbed_nil (scheduler : Scheduler) (task : TaskId) :
    scheduler.Undisturbed task [] := by
  refine ⟨?_, ?_⟩
  · intro reported impossible
    contradiction
  · intro outcome impossible
    contradiction

theorem Undisturbed.concat {scheduler : Scheduler} {task : TaskId}
    {history : List (Nanos × Event)} (undisturbed : scheduler.Undisturbed task history)
    {now : Nanos} {event : Event} (stays : ¬event.MovesOn task)
    (kept : ∀ assignment, ((scheduler.after history).handle now event).reply =
      .dispatched (some assignment) → assignment.task ≠ task) :
    scheduler.Undisturbed task (history ++ [(now, event)]) := by
  refine ⟨?_, ?_⟩
  · intro reported member
    rcases List.mem_append.mp member with earlier | last
    · exact undisturbed.unmoved reported earlier
    · rw [List.mem_singleton.mp last]
      exact stays
  · intro outcome member
    rw [outcomes_append] at member
    rcases List.mem_append.mp member with earlier | last
    · exact undisturbed.kept outcome earlier
    · rw [List.mem_singleton.mp last]
      exact kept

/-- The history contains an enqueue that pushed the entry to the lane of a tier, and nothing after it
disturbed the task. -/
def WaitsSinceEnqueue (initial : Scheduler) (history : List (Nanos × Event)) (tier : Tier)
    (entry : Entry) : Prop :=
  ∃ earlier now flags later,
    history = earlier ++ (now, .enqueue entry.task flags) :: later ∧
      ((initial.after earlier).enqueue now entry.task flags).scheduler.queues.waiting entry.task =
        ((initial.after earlier).queues.waiting entry.task).push tier entry ∧
      ((initial.after earlier).enqueue now entry.task flags).scheduler.Undisturbed entry.task later

theorem WaitsSinceEnqueue.concat {initial : Scheduler} {history : List (Nanos × Event)}
    {tier : Tier} {entry : Entry} (holds : initial.WaitsSinceEnqueue history tier entry)
    {now : Nanos} {event : Event} (stays : ¬event.MovesOn entry.task)
    (kept : ∀ assignment, ((initial.after history).handle now event).reply =
      .dispatched (some assignment) → assignment.task ≠ entry.task) :
    initial.WaitsSinceEnqueue (history ++ [(now, event)]) tier entry := by
  rcases holds with ⟨earlier, pushedAt, flags, later, history_eq, pushed, undisturbed⟩
  refine ⟨earlier, pushedAt, flags, later ++ [(now, event)], ?_, pushed, ?_⟩
  · rw [history_eq, List.append_assoc, List.cons_append]
  · rw [history_eq, after_append] at kept
    exact undisturbed.concat stays kept

/-- A task that was handed out waits nowhere any more. -/
theorem profile?_of_dispatched {scheduler : Scheduler} {now : Nanos} {event : Event}
    {assignment : Assignment}
    (handedOut : (scheduler.handle now event).reply = .dispatched (some assignment)) :
    (scheduler.handle now event).scheduler.profile? assignment.task =
      (scheduler.profile? assignment.task).map Profile.claimed := by
  rcases dispatch_of_reply handedOut with ⟨unit, rfl, reply_eq⟩
  rw [reply_dispatch] at reply_eq
  rcases Option.map_eq_some_iff.mp reply_eq with ⟨found, taken, rfl⟩
  change (scheduler.dispatch unit).scheduler.profile? found.2.task = _
  rw [profile?_dispatch, (draw_sound _ _).get?_eq, Draw.task?, taken]
  exact if_pos rfl

end Scheduler

namespace Execution

/-- A tracked task that waits was pushed with the entry it waits with, and not disturbed since. -/
theorem waitsSinceEnqueue (execution : Execution) {profile : Profile} {tier : Tier} {entry : Entry}
    (tracked : execution.scheduler.profile? entry.task = some profile)
    (waits : profile.WaitsWith tier entry) :
    execution.initial.WaitsSinceEnqueue execution.history tier entry := by
  have holds := Scheduler.after_induction (motive := fun history scheduler =>
    ∀ profile, scheduler.profile? entry.task = some profile → profile.WaitsWith tier entry →
      execution.initial.WaitsSinceEnqueue history tier entry) execution.initial ?_ ?_
    execution.history
  · exact holds profile tracked waits
  · intro profile tracked
    rw [execution.initial_eq] at tracked
    simp [Scheduler.profile?, Scheduler.initial] at tracked
  · intro earlier now event ih profile tracked waits
    have step := (execution.initial.after earlier).step_of_handle now entry.task event
    rcases step.origin tracked waits rfl with ⟨stays, before, wasTracked, waited⟩ | pushedNow
    · refine (ih before wasTracked waited).concat stays ?_
      intro assignment handedOut same
      have claimed := Scheduler.profile?_of_dispatched handedOut
      rw [same, tracked] at claimed
      rcases Option.map_eq_some_iff.mp claimed.symm with ⟨_, _, profile_eq⟩
      rw [← profile_eq] at waits
      exact waits.waits rfl
    · rcases pushedNow with ⟨flags, rfl, pushed⟩
      exact ⟨earlier, now, flags, [], rfl, pushed, Scheduler.undisturbed_nil _ _⟩

/-- As long as the generations have not started again from one, a tracked task is handed out with its
tier and its slice, on account of an enqueue after which it was neither moved on nor handed out. -/
theorem provenance (execution : Execution) (few : execution.enqueues < UInt32.size - 1) (unit : Nat)
    {assignment : Assignment} {profile : Profile}
    (handedOut : (execution.scheduler.dispatch unit).reply = some assignment)
    (tracked : execution.scheduler.profile? assignment.task = some profile) :
    assignment.tier = profile.tier ∧ assignment.slice = profile.slice ∧
      execution.initial.WaitsSinceEnqueue execution.history assignment.tier
        ⟨assignment.task, assignment.slice, profile.generation⟩ := by
  have sound := draw_sound execution.scheduler.queues execution.scheduler.roster
  rw [Scheduler.reply_dispatch] at handedOut
  rcases Option.map_eq_some_iff.mp handedOut with ⟨⟨source, entry⟩, taken, rfl⟩
  have member : entry ∈ (execution.scheduler.view entry.task).waiting source :=
    ReadyQueues.mem_waiting.mpr ⟨sound.mem_of_taken taken, rfl⟩
  have owns := (Roster.live_iff_of_tracked tracked).mp (sound.live source entry taken)
  have ownership := (execution.invariant entry.task).owned few
  have waits := ownership.waitsWith tracked member owns
  refine ⟨waits.tier_eq.symm, waits.slice_eq.symm, ?_⟩
  rw [waits.generation_eq]
  exact execution.waitsSinceEnqueue tracked waits

/-- A task that is woken while it waits is handed out on account of its second enqueue. -/
theorem provenance_of_woken_while_waiting :
    let execution := ofHistory
      [(1000, .enqueue 1 ⟨true, false, false⟩), (2000, .wake 1 none ⟨false, false⟩),
        (3000, .enqueue 1 ⟨true, false, false⟩)]
    ∃ assignment profile, execution.enqueues < UInt32.size - 1 ∧
      (execution.scheduler.dispatch 0).reply = some assignment ∧
      execution.scheduler.profile? assignment.task = some profile ∧ profile.generation = 2 ∧
      assignment.tier = profile.tier ∧ assignment.slice = profile.slice ∧
      execution.initial.WaitsSinceEnqueue execution.history assignment.tier
        ⟨assignment.task, assignment.slice, profile.generation⟩ := by
  intro execution
  have few : execution.enqueues < UInt32.size - 1 := by decide
  have reply_eq : (execution.scheduler.dispatch 0).reply =
      some ⟨1, 10000000, .interactive⟩ := by decide +kernel
  have generation_eq : (execution.scheduler.profile? 1).map Profile.generation = some 2 := by
    decide +kernel
  rcases Option.map_eq_some_iff.mp generation_eq with ⟨profile, tracked, second⟩
  exact ⟨_, profile, few, reply_eq, tracked, second,
    execution.provenance few 0 reply_eq tracked⟩

end Execution

end TierSched
