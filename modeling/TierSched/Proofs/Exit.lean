import TierSched.Proofs.Ownership

/-!
# What an exit leaves behind

An exit drops the entries of its task from two lanes only: the one in which the task waits according
to its profile, and the one in which tasks wait that are not tracked. These are all lanes in which
the task can have entries, so the queues hold nothing of it afterwards, and everything else is where
it was before.

The completeness matters because the next profile of the task begins with the first generation again,
so that an entry from before the exit could pass for one of the new profile. After the exit the lanes
of the task start out empty. `Scheduler.pushes` lists what later events push for the task, and what
is found in a lane at any later time is the end of this list; so whatever is handed out afterwards
was pushed afterwards.
-/

namespace TierSched

/-- The task has not been queued since it was last forgotten. -/
structure TaskView.Unqueued (view : TaskView) : Prop where
  waiting_eq : ∀ tier, view.waiting tier = []
  profile : ∀ profile, view.profile? = some profile →
    profile.phase ≠ .queued ∧ profile.generation = Generation.untracked

namespace TaskView.Unqueued

variable {config : Config} {now : Nanos} {task : TaskId} {event : Event}

theorem of_observes {view : TaskView} (unqueued : view.Unqueued) {profile : Profile}
    (observed : view.Observes config profile) :
    profile.phase ≠ .queued ∧ profile.generation = Generation.untracked := by
  rcases observed with tracked | ⟨_, fresh⟩
  · exact unqueued.profile profile tracked
  · rw [fresh]
    exact ⟨by simp [Profile.fresh], rfl⟩

theorem step {before after : TaskView} (unqueued : before.Unqueued)
    (step : Step config now task event before after)
    (other : ∀ flags, event ≠ .enqueue task flags) : after.Unqueued := by
  refine ⟨?_, ?_⟩
  · intro tier
    have suffix := step.waiting_suffix other tier
    rw [unqueued.waiting_eq tier] at suffix
    exact List.suffix_nil.mp suffix
  · intro found tracked
    cases step with
    | unaffected untracked => exact unqueued.profile found tracked
    | wake profile previous flags kicked observed =>
        rw [← Option.some.inj tracked]
        exact ⟨by simp [Profile.wake, Profile.moveTo], (unqueued.of_observes observed).2⟩
    | enqueue profile flags observed accepted => exact absurd rfl (other flags)
    | refuse profile flags same queued => exact absurd rfl (other flags)
    | enqueueUntracked flags slice untracked => exact absurd rfl (other flags)
    | pass unit left split => exact unqueued.profile found tracked
    | handOut unit source entry left live split =>
        rcases Option.map_eq_some_iff.mp tracked with ⟨profile, wasTracked, claimed⟩
        rw [← claimed]
        exact unqueued.profile profile wasTracked
    | start profile unit observed =>
        rcases profile.start_frame config.waitBudget now with ⟨running, _, generation_eq⟩
        rw [← Option.some.inj tracked, running, generation_eq]
        exact ⟨by simp, (unqueued.of_observes observed).2⟩
    | stop profile unit requeue wasTracked =>
        rcases profile.stop_frame config now requeue with ⟨_, notQueued, _, generation_eq⟩
        rw [← Option.some.inj tracked, generation_eq]
        exact ⟨notQueued, (unqueued.profile profile wasTracked).2⟩
    | tick profile unit wasTracked =>
        rcases profile.checkCeiling_eq config.runCeiling now with ⟨kicked, after_eq⟩
        rw [← Option.some.inj tracked, after_eq]
        exact unqueued.profile profile wasTracked
    | exit => contradiction

end TaskView.Unqueued

namespace Scheduler

variable {scheduler : Scheduler} {task : TaskId}

/-- What an event pushes for a task, in the lane of each tier. -/
def pushedBy (scheduler : Scheduler) (task : TaskId) (now : Nanos) (event : Event) : Waiting :=
  match event with
  | .enqueue queued _ =>
    match if queued = task then scheduler.pushed? now task else none with
    | none => fun _ => []
    | some pushed => Waiting.push (fun _ => []) pushed.tier ⟨task, pushed.slice, pushed.generation⟩
  | _ => fun _ => []

/-- What the events of a history push for a task, in the lane of each tier and in order. -/
def pushes (scheduler : Scheduler) (task : TaskId) : List (Nanos × Event) → Waiting
  | [] => fun _ => []
  | (now, event) :: later => fun tier =>
    scheduler.pushedBy task now event tier ++
      (scheduler.handle now event).scheduler.pushes task later tier

theorem waiting_enqueue (scheduler : Scheduler) (now : Nanos) (task : TaskId)
    (flags : EnqueueFlags) (tier : Tier) :
    (scheduler.enqueue now task flags).scheduler.queues.waiting task tier =
      scheduler.queues.waiting task tier ++
        scheduler.pushedBy task now (.enqueue task flags) tier := by
  simp only [pushedBy, if_true, queues_enqueue]
  cases scheduler.pushed? now task with
  | none => simp
  | some pushed =>
      have own := scheduler.queues.waiting_push_self pushed.tier
        ⟨task, pushed.slice, pushed.generation⟩
      simp only [own, Waiting.push, List.nil_append]
      split
      · rfl
      · exact (List.append_nil _).symm

theorem pushedBy_of_ne (scheduler : Scheduler) {task : TaskId} (now : Nanos) {event : Event}
    (other : ∀ flags, event ≠ .enqueue task flags) (tier : Tier) :
    scheduler.pushedBy task now event tier = [] := by
  cases event with
  | enqueue queued flags =>
      have different : queued ≠ task := by
        intro same
        rw [same] at other
        exact other flags rfl
      simp only [pushedBy, if_neg different]
  | _ => rfl

theorem waiting_handle_suffix (scheduler : Scheduler) (task : TaskId) (now : Nanos)
    (event : Event) (tier : Tier) :
    (scheduler.handle now event).scheduler.queues.waiting task tier <:+
      scheduler.queues.waiting task tier ++ scheduler.pushedBy task now event tier := by
  by_cases own : ∃ flags, event = .enqueue task flags
  · rcases own with ⟨flags, rfl⟩
    rw [← waiting_enqueue]
    exact List.suffix_refl _
  · have other := not_exists.mp own
    rw [pushedBy_of_ne scheduler now other, List.append_nil]
    exact (scheduler.step_of_handle now task event).waiting_suffix other tier

/-- What waits for a task at the end of a history is the end of what waited before, followed by what
was pushed. -/
theorem waiting_after_suffix (scheduler : Scheduler) (task : TaskId)
    (later : List (Nanos × Event)) (tier : Tier) :
    (scheduler.after later).queues.waiting task tier <:+
      scheduler.queues.waiting task tier ++ scheduler.pushes task later tier := by
  induction later generalizing scheduler with
  | nil =>
      rw [pushes, List.append_nil]
      exact List.suffix_refl _
  | cons reported later ih =>
      rcases scheduler.waiting_handle_suffix task reported.1 reported.2 tier with ⟨gone, split⟩
      have next := ih (scheduler.handle reported.1 reported.2).scheduler
      rw [pushes, ← List.append_assoc, ← split, List.append_assoc]
      exact next.trans (List.suffix_append gone _)

/-- The task is not enqueued in the course of the history. -/
def NotEnqueued (task : TaskId) (history : List (Nanos × Event)) : Prop :=
  ∀ reported ∈ history, ∀ flags, reported.2 ≠ .enqueue task flags

theorem unqueued_after (unqueued : (scheduler.view task).Unqueued)
    {later : List (Nanos × Event)} (quiet : NotEnqueued task later) :
    ((scheduler.after later).view task).Unqueued := by
  induction later generalizing scheduler with
  | nil => exact unqueued
  | cons reported later ih =>
      rcases List.forall_mem_cons.mp quiet with ⟨first, others⟩
      exact ih (unqueued.step (scheduler.step_of_handle reported.1 task reported.2) first) others

/-- An entry of the task that is handed out comes from the front of what waits for it. -/
theorem waiting_of_dispatched {unit : Nat} {assignment : Assignment}
    (handedOut : (scheduler.dispatch unit).reply = some assignment) :
    ∃ discarded entry,
      scheduler.queues.waiting assignment.task assignment.tier =
        discarded ++ entry ::
          (scheduler.dispatch unit).scheduler.queues.waiting assignment.task assignment.tier ∧
        entry.slice = assignment.slice ∧ scheduler.roster.Live entry := by
  have sound := draw_sound scheduler.queues scheduler.roster
  rw [reply_dispatch] at handedOut
  rcases Option.map_eq_some_iff.mp handedOut with ⟨⟨source, entry⟩, taken, rfl⟩
  rcases surrenders_of_sound sound entry.task source with ⟨discarded, _, split⟩
  refine ⟨discarded, entry, ?_, rfl, sound.live source entry taken⟩
  rw [queues_dispatch]
  change scheduler.queues.waiting entry.task source = _ at split
  simp only [Draw.takenFrom, taken] at split
  rw [split]
  simp

theorem not_dispatched_of_unqueued {now : Nanos} {event : Event}
    (unqueued : (scheduler.view task).Unqueued) {assignment : Assignment}
    (handedOut : (scheduler.handle now event).reply = .dispatched (some assignment)) :
    assignment.task ≠ task := by
  rcases dispatch_of_reply handedOut with ⟨unit, rfl, reply_eq⟩
  rcases waiting_of_dispatched reply_eq with ⟨discarded, entry, split, _⟩
  intro own
  have empty := unqueued.waiting_eq assignment.tier
  change scheduler.queues.waiting task assignment.tier = [] at empty
  rw [← own, split] at empty
  simp at empty

theorem silent_of_unqueued (unqueued : (scheduler.view task).Unqueued)
    {later : List (Nanos × Event)} (quiet : NotEnqueued task later)
    {outcome : Outcome Reply} (member : outcome ∈ scheduler.outcomes later)
    {assignment : Assignment} (handedOut : outcome.reply = .dispatched (some assignment)) :
    assignment.task ≠ task := by
  induction later generalizing scheduler with
  | nil => contradiction
  | cons reported later ih =>
      rcases List.forall_mem_cons.mp quiet with ⟨first, others⟩
      rcases List.mem_cons.mp member with rfl | afterwards
      · exact not_dispatched_of_unqueued unqueued handedOut
      · have step := scheduler.step_of_handle reported.1 task reported.2
        exact ih (unqueued.step step first) others afterwards

theorem generation_of_unqueued (unqueued : (scheduler.view task).Unqueued) {now : Nanos}
    {flags : EnqueueFlags} {profile : Profile}
    (tracked : (scheduler.enqueue now task flags).scheduler.profile? task = some profile) :
    profile.generation = 1 := by
  rw [profile?_enqueue, if_pos rfl] at tracked
  rcases Option.map_eq_some_iff.mp tracked with ⟨before, observed, profile_eq⟩
  rcases unqueued.of_observes (observed?_eq_some observed) with ⟨notQueued, generation_eq⟩
  rw [← profile_eq, Profile.enqueue_of_not_queued notQueued, generation_eq]
  rfl

/-- All entries of the task are in the lane in which it waits or in the one for untracked tasks. -/
theorem task_ne_of_filed (filed : (scheduler.view task).Filed) {tier : Tier}
    (elsewhere : (scheduler.profile? task).bind Profile.waitsIn ≠ some tier)
    (tracked : tier ≠ .interactive) {entry : Entry}
    (member : entry ∈ scheduler.queues.entries tier) : entry.task ≠ task := by
  intro own
  have waits : entry ∈ (scheduler.view task).waiting tier :=
    ReadyQueues.mem_waiting.mpr ⟨member, own⟩
  by_cases issued : entry.generation = Generation.untracked
  · exact tracked (filed.untracked tier entry waits issued)
  · rcases filed.filed tier entry waits issued with ⟨profile, profile_eq, waitsIn_eq, _⟩
    change scheduler.profile? task = some profile at profile_eq
    rw [profile_eq] at elsewhere
    exact elsewhere waitsIn_eq

theorem entries_exit (filed : (scheduler.view task).Filed) (tier : Tier) :
    (scheduler.exit task).scheduler.queues.entries tier =
      (scheduler.queues.entries tier).filter fun entry => entry.task ≠ task := by
  rw [queues_exit, ReadyQueues.entries_dropFrom, ReadyQueues.entries_dropFrom]
  by_cases waits : (scheduler.profile? task).bind Profile.waitsIn = some tier
  · rw [if_pos waits, List.filter_filter]
    simp
  · rw [if_neg waits]
    by_cases fallback : tier = .interactive
    · rw [if_pos (congrArg some fallback.symm)]
    · rw [if_neg fun same => fallback (Option.some.inj same).symm]
      symm
      rw [List.filter_eq_self]
      intro entry member
      exact decide_eq_true (task_ne_of_filed filed waits fallback member)

/-- The scheduler has forgotten a task and knows everything else that it knew before. -/
structure Forgets (before after : Scheduler) (task : TaskId) : Prop where
  untracked : after.profile? task = none
  dropped : ∀ tier, ∀ entry ∈ after.queues.entries tier, entry.task ≠ task
  kept : ∀ tier, after.queues.entries tier =
    (before.queues.entries tier).filter fun entry => entry.task ≠ task
  /-- The task is not handed out until it is enqueued again. -/
  silent : ∀ later, NotEnqueued task later → ∀ outcome ∈ after.outcomes later, ∀ assignment,
    outcome.reply = .dispatched (some assignment) → assignment.task ≠ task
  /-- When it is, its generations start again from one. -/
  restarts : ∀ later, NotEnqueued task later → ∀ now flags profile,
    ((after.after later).enqueue now task flags).scheduler.profile? task = some profile →
      profile.generation = 1
  /-- What waits for the task at a later time is the end of what was pushed in the meantime. -/
  renewed : ∀ later tier,
    (after.after later).queues.waiting task tier <:+ after.pushes task later tier
  /-- The entry with which it is handed out is one of those. -/
  served : ∀ later unit assignment,
    ((after.after later).dispatch unit).reply = some assignment → assignment.task = task →
      ∃ older entry, after.pushes task later assignment.tier =
        older ++ entry ::
          ((after.after later).dispatch unit).scheduler.queues.waiting task assignment.tier ∧
        entry.slice = assignment.slice ∧ (after.after later).roster.Live entry

theorem forgets_of_filed (filed : (scheduler.view task).Filed) :
    scheduler.Forgets (scheduler.exit task).scheduler task := by
  have dropped : ∀ tier, ∀ entry ∈ (scheduler.exit task).scheduler.queues.entries tier,
      entry.task ≠ task := by
    intro tier entry member
    rw [entries_exit filed, List.mem_filter] at member
    exact of_decide_eq_true member.2
  have untracked : (scheduler.exit task).scheduler.profile? task = none := by
    rw [profile?_exit, if_pos rfl]
  have nothing : ∀ tier, (scheduler.exit task).scheduler.queues.waiting task tier = [] := by
    intro tier
    rw [ReadyQueues.waiting, List.filter_eq_nil_iff]
    intro entry member
    simpa using dropped tier entry member
  have unqueued : ((scheduler.exit task).scheduler.view task).Unqueued := by
    refine ⟨nothing, ?_⟩
    intro profile tracked
    change (scheduler.exit task).scheduler.profile? task = some profile at tracked
    rw [untracked] at tracked
    contradiction
  have renewed : ∀ later tier,
      ((scheduler.exit task).scheduler.after later).queues.waiting task tier <:+
        (scheduler.exit task).scheduler.pushes task later tier := by
    intro later tier
    have suffix := (scheduler.exit task).scheduler.waiting_after_suffix task later tier
    rwa [nothing tier, List.nil_append] at suffix
  refine ⟨untracked, dropped, entries_exit filed, ?_, ?_, renewed, ?_⟩
  · intro later quiet outcome member assignment handedOut
    exact silent_of_unqueued unqueued quiet member handedOut
  · intro later quiet now flags profile tracked
    exact generation_of_unqueued (unqueued_after unqueued quiet) tracked
  · intro later unit assignment handedOut own
    subst own
    rcases waiting_of_dispatched handedOut with ⟨discarded, entry, split, slice_eq, live⟩
    rcases renewed later assignment.tier with ⟨gone, pushes_eq⟩
    refine ⟨gone ++ discarded, entry, ?_, slice_eq, live⟩
    rw [← pushes_eq, split, List.append_assoc]

end Scheduler

namespace Execution

/-- As long as the generations have not started again from one, an exit leaves nothing behind. -/
theorem exit_forgets (execution : Execution) (few : execution.enqueues < UInt32.size - 1)
    (task : TaskId) :
    execution.scheduler.Forgets (execution.scheduler.exit task).scheduler task :=
  Scheduler.forgets_of_filed ((execution.invariant task).filed few)

/-- A task that was queued when there was no room for it, and again when there was, leaves neither of
its entries behind; the other task keeps its own. -/
theorem exit_forgets_of_late_room :
    let execution := ofConfig { capacity := 1 } (by decide)
      [(1000, .enqueue 1 ⟨true, false, false⟩), (2000, .enqueue 2 ⟨true, false, false⟩),
        (3000, .exit 1), (4000, .wake 2 none ⟨false, false⟩),
        (5000, .enqueue 2 ⟨true, false, false⟩), (6000, .enqueue 3 ⟨true, false, false⟩)]
    execution.enqueues < UInt32.size - 1 ∧
      ((execution.scheduler.queues.waiting 2 .interactive).map Entry.generation = [0, 1]) ∧
      ((execution.scheduler.exit 2).scheduler.queues.entries .interactive).map Entry.task = [3] ∧
      execution.scheduler.Forgets (execution.scheduler.exit 2).scheduler 2 := by
  intro execution
  have few : execution.enqueues < UInt32.size - 1 := by decide
  refine ⟨few, ?_, ?_, execution.exit_forgets few 2⟩
  · decide +kernel
  · decide +kernel

end Execution

end TierSched
