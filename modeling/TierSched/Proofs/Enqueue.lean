import TierSched.Proofs.Drain
import TierSched.Proofs.Provenance

/-!
# Enqueues that are lost

A task that was handed out stays in the phase `queued` until the host reports that it started. In
between it waits in no lane, yet an enqueue of it is refused because of its phase. Such a task is in
transit. It is shown that this is the only case in which an enqueue is lost: in every other state, the
task has a live entry afterwards, and it is handed out if units ask for work often enough. What the
host has seen of a task in transit is told by `Execution.inTransit_iff`: the task was handed out, and
nothing was reported since that moves it on.
-/

namespace TierSched

namespace TaskView

variable {config : Config} {now : Nanos} {task : TaskId}

/-- The task is queued, but waits in no lane. -/
def InTransit (view : TaskView) : Prop :=
  ∃ profile, view.profile? = some profile ∧ profile.phase = .queued ∧ profile.waitsIn = none

theorem not_inTransit_of_observes {view : TaskView} {profile : Profile}
    (observed : view.Observes config profile) (accepted : profile.phase ≠ .queued) :
    ¬view.InTransit := by
  rintro ⟨same, tracked, queued, _⟩
  rcases observed with same_eq | ⟨untracked, _⟩
  · rw [same_eq] at tracked
    rw [← Option.some.inj tracked] at queued
    exact accepted queued
  · rw [untracked] at tracked
    contradiction

theorem InTransit.step {before after : TaskView} {event : Event} (transit : before.InTransit)
    (step : Step config now task event before after) (stays : ¬event.MovesOn task) :
    after.InTransit := by
  cases step with
  | unaffected untracked => exact transit
  | wake profile previous flags kicked observed => exact absurd rfl stays
  | enqueue profile flags observed accepted =>
      exact absurd transit (not_inTransit_of_observes observed accepted)
  | refuse profile flags tracked queued => exact transit
  | enqueueUntracked flags slice untracked =>
      rcases transit with ⟨profile, tracked, _⟩
      rw [untracked] at tracked
      contradiction
  | pass unit left split => exact transit
  | handOut unit source entry left live split =>
      rcases transit with ⟨profile, tracked, queued, _⟩
      exact ⟨profile.claimed, by rw [tracked]; rfl, queued, rfl⟩
  | start profile unit observed => exact absurd rfl stays
  | stop profile unit requeue tracked => exact absurd rfl stays
  | tick profile unit tracked =>
      rcases transit with ⟨same, same_eq, queued, idle⟩
      rcases profile.checkCeiling_eq config.runCeiling now with ⟨kicked, after_eq⟩
      rw [tracked] at same_eq
      rw [← Option.some.inj same_eq] at queued idle
      exact ⟨_, rfl, by rw [after_eq]; exact queued, by rw [after_eq]; exact idle⟩
  | exit => exact absurd rfl stays

/-- A task that is in transit after a step was so before it, or was handed out by it. -/
theorem InTransit.origin {before after : TaskView} {event : Event} (transit : after.InTransit)
    (step : Step config now task event before after) :
    (¬event.MovesOn task ∧ before.InTransit) ∨
      ∃ unit profile, event = .dispatch unit ∧ before.profile? = some profile ∧
        profile.waitsIn ≠ none := by
  rcases transit with ⟨found, tracked, queued, idle⟩
  cases step with
  | unaffected untracked =>
      refine Or.inl ⟨?_, found, tracked, queued, idle⟩
      intro moves
      rw [(untracked (Event.task?_eq_of_movesOn moves)).1] at tracked
      contradiction
  | wake profile previous flags kicked observed =>
      rw [← Option.some.inj tracked] at queued
      contradiction
  | enqueue profile flags observed accepted =>
      rw [← Option.some.inj tracked, Profile.enqueue_of_not_queued accepted] at idle
      contradiction
  | refuse profile flags same_eq queuedBefore =>
      exact Or.inl ⟨False.elim, found, tracked, queued, idle⟩
  | enqueueUntracked flags slice untracked => contradiction
  | pass unit left split => exact Or.inl ⟨False.elim, found, tracked, queued, idle⟩
  | handOut unit source entry left live split =>
      rcases Option.map_eq_some_iff.mp tracked with ⟨profile, wasTracked, _⟩
      simp only [Live, wasTracked] at live
      exact Or.inr ⟨unit, profile, rfl, wasTracked, live.2.1⟩
  | start profile unit observed =>
      rw [← Option.some.inj tracked, (profile.start_frame config.waitBudget now).1] at queued
      contradiction
  | stop profile unit requeue wasTracked =>
      rw [← Option.some.inj tracked] at queued
      exact absurd queued (profile.stop_frame config now requeue).2.1
  | tick profile unit wasTracked =>
      rcases profile.checkCeiling_eq config.runCeiling now with ⟨kicked, after_eq⟩
      rw [← Option.some.inj tracked, after_eq] at queued idle
      exact Or.inl ⟨False.elim, profile, wasTracked, queued, idle⟩
  | exit => contradiction

/-- One of the entries that wait for the task is live. -/
def HasLive (view : TaskView) : Prop :=
  ∃ tier, ∃ entry ∈ view.waiting tier, view.Live entry

theorem HasLive.of_backed {view : TaskView} {profile : Profile} (backed : view.Backed)
    (tracked : view.profile? = some profile) (queued : profile.phase = .queued)
    (waits : profile.waitsIn ≠ none) : view.HasLive := by
  rcases Option.ne_none_iff_exists'.mp waits with ⟨tier, waitsIn_eq⟩
  rcases (backed profile tracked).current tier queued waitsIn_eq with
    ⟨older, entry, waiting_eq, generation_eq, _⟩
  refine ⟨tier, entry, ?_, ?_⟩
  · rw [waiting_eq]
    exact List.mem_append_right older (List.mem_singleton.mpr rfl)
  · simp only [Live, tracked]
    exact ⟨queued, waits, generation_eq.symm⟩

theorem not_hasLive_of_inTransit {view : TaskView} (transit : view.InTransit) : ¬view.HasLive := by
  rcases transit with ⟨profile, tracked, _, idle⟩
  rintro ⟨tier, entry, _, live⟩
  simp only [Live, tracked] at live
  exact live.2.1 idle

theorem hasLive_enqueue_iff {before after : TaskView} {flags : EnqueueFlags}
    (step : Step config now task (.enqueue task flags) before after) (backed : after.Backed) :
    after.HasLive ↔ ¬before.InTransit := by
  cases step with
  | unaffected untracked =>
      have impossible := (untracked rfl).2
      contradiction
  | enqueue profile flags observed accepted =>
      have pushed := Profile.enqueue_of_not_queued accepted now
      refine iff_of_true (HasLive.of_backed backed rfl ?_ ?_) ?_
      · rw [pushed]
      · rw [pushed]
        exact Option.some_ne_none profile.tier
      · exact not_inTransit_of_observes observed accepted
  | refuse profile flags tracked queued =>
      constructor
      · intro live transit
        exact not_hasLive_of_inTransit transit live
      · intro settled
        refine HasLive.of_backed backed tracked queued ?_
        intro idle
        exact settled ⟨profile, tracked, queued, idle⟩
  | enqueueUntracked flags slice untracked =>
      refine iff_of_true ⟨.interactive, ⟨task, slice, .untracked⟩, ?_, rfl⟩ ?_
      · simp [Waiting.push]
      · rintro ⟨profile, tracked, _⟩
        rw [untracked] at tracked
        contradiction

end TaskView

namespace Scheduler

/-- A live entry of the task is in the queues. -/
def HasLiveEntry (scheduler : Scheduler) (task : TaskId) : Prop :=
  ∃ found ∈ scheduler.liveEntries, found.2.task = task

instance (scheduler : Scheduler) (task : TaskId) : Decidable (scheduler.HasLiveEntry task) :=
  inferInstanceAs (Decidable (∃ found ∈ scheduler.liveEntries, found.2.task = task))

/-- The task is handed out, whichever units ask for work, if they do so often enough. -/
def HandsOut (scheduler : Scheduler) (task : TaskId) : Prop :=
  ∃ enough, ∀ units : List Nat, enough ≤ units.length →
    ∃ assignment, some assignment ∈ scheduler.handOuts units ∧ assignment.task = task

theorem hasLiveEntry_iff_view {scheduler : Scheduler} {task : TaskId} :
    scheduler.HasLiveEntry task ↔ (scheduler.view task).HasLive := by
  constructor
  · rintro ⟨⟨tier, entry⟩, member, own⟩
    rcases ReadyQueues.mem_live.mp member with ⟨waits, live⟩
    exact ⟨tier, entry, ReadyQueues.mem_waiting.mpr ⟨waits, own⟩, (live_view own).mpr live⟩
  · rintro ⟨tier, entry, member, live⟩
    rcases ReadyQueues.mem_waiting.mp member with ⟨waits, own⟩
    have found : (tier, entry) ∈ scheduler.liveEntries :=
      ReadyQueues.mem_live.mpr ⟨waits, (live_view own).mp live⟩
    exact ⟨(tier, entry), found, own⟩

theorem hasLiveEntry_of_handOut {scheduler : Scheduler} {units : List Nat}
    {assignment : Assignment} (member : some assignment ∈ scheduler.handOuts units) :
    scheduler.HasLiveEntry assignment.task := by
  induction units generalizing scheduler with
  | nil => contradiction
  | cons unit others ih =>
      have sound := draw_sound scheduler.queues scheduler.roster
      rcases List.mem_cons.mp member with first | later
      · rw [reply_dispatch] at first
        rcases Option.map_eq_some_iff.mp first.symm with ⟨found, taken, rfl⟩
        exact ⟨found, sound.mem_live_of_taken taken, rfl⟩
      · rcases ih later with ⟨found, foundMem, own⟩
        rw [liveEntries_dispatch] at foundMem
        exact ⟨found, sound.live_subset foundMem, own⟩

theorem handOut_of_hasLiveEntry {scheduler : Scheduler} {task : TaskId} {units : List Nat}
    (consistent : scheduler.queues.Consistent) (live : scheduler.HasLiveEntry task)
    (enough : scheduler.queues.weight < units.length) :
    ∃ assignment, some assignment ∈ scheduler.handOuts units ∧ assignment.task = task := by
  induction units generalizing scheduler with
  | nil => contradiction
  | cons unit others ih =>
      have sound := draw_sound scheduler.queues scheduler.roster
      rcases live with ⟨found, member, own⟩
      simp only [handOuts, reply_dispatch, List.mem_cons]
      by_cases first : (draw scheduler.queues scheduler.roster).task? = some task
      · rcases Option.map_eq_some_iff.mp first with ⟨served, taken, served_eq⟩
        rw [taken]
        exact ⟨Assignment.ofFound served, Or.inl rfl, served_eq⟩
      · have remains := sound.live_remains member (by rwa [own])
        rw [← liveEntries_dispatch scheduler unit] at remains
        have lighter : (draw scheduler.queues scheduler.roster).queues.weight <
            scheduler.queues.weight := by
          have weight_eq := sound.weight_eq
          cases taken : (draw scheduler.queues scheduler.roster).taken with
          | none =>
              have empty := (sound.taken_eq_none_iff consistent).mp taken
              change scheduler.liveEntries = [] at empty
              rw [empty] at member
              contradiction
          | some served =>
              rw [taken, Option.toList_some, List.length_singleton] at weight_eq
              omega
        rw [List.length_cons] at enough
        have next : ∃ assignment,
            some assignment ∈ (scheduler.dispatch unit).scheduler.handOuts others ∧
              assignment.task = task := by
          refine ih ?_ ⟨found, remains, own⟩ ?_
          · rw [queues_dispatch]
            exact sound.consistent consistent
          · rw [queues_dispatch]
            omega
        rcases next with ⟨assignment, later, task_eq⟩
        exact ⟨assignment, Or.inr later, task_eq⟩

/-- A task is handed out exactly if it has a live entry. -/
theorem handsOut_iff {scheduler : Scheduler} (consistent : scheduler.queues.Consistent)
    (task : TaskId) : scheduler.HandsOut task ↔ scheduler.HasLiveEntry task := by
  constructor
  · rintro ⟨enough, served⟩
    rcases served (List.replicate enough 0) (by simp) with ⟨assignment, member, task_eq⟩
    rw [← task_eq]
    exact hasLiveEntry_of_handOut member
  · intro live
    refine ⟨scheduler.queues.weight + 1, ?_⟩
    intro units enough
    exact handOut_of_hasLiveEntry consistent live enough

/-- The history contains an answer that hands out the tracked task, and no event after it moves the
task on. -/
def HandedOutIn (initial : Scheduler) (history : List (Nanos × Event)) (task : TaskId) : Prop :=
  ∃ earlier now unit later assignment,
    history = earlier ++ (now, .dispatch unit) :: later ∧
      ((initial.after earlier).dispatch unit).reply = some assignment ∧
        assignment.task = task ∧ (initial.after earlier).profile? task ≠ none ∧
          ∀ reported ∈ later, ¬reported.2.MovesOn task

theorem HandedOutIn.concat {initial : Scheduler} {history : List (Nanos × Event)} {task : TaskId}
    (handedOut : initial.HandedOutIn history task) (now : Nanos) {event : Event}
    (stays : ¬event.MovesOn task) : initial.HandedOutIn (history ++ [(now, event)]) task := by
  rcases handedOut with
    ⟨earlier, servedAt, unit, later, assignment, history_eq, reply_eq, own, tracked, unmoved⟩
  refine ⟨earlier, servedAt, unit, later ++ [(now, event)], assignment, ?_, reply_eq, own,
    tracked, ?_⟩
  · rw [history_eq, List.append_assoc, List.cons_append]
  · intro reported member
    rcases List.mem_append.mp member with old | last
    · exact unmoved reported old
    · rw [List.mem_singleton.mp last]
      exact stays

/-- Supplying a unit puts a task in transit only by handing it out. -/
theorem reply_of_inTransit {scheduler : Scheduler} {unit : Nat} {task : TaskId}
    {profile : Profile} (tracked : scheduler.profile? task = some profile)
    (waits : profile.waitsIn ≠ none)
    (transit : ((scheduler.dispatch unit).scheduler.view task).InTransit) :
    ∃ assignment, (scheduler.dispatch unit).reply = some assignment ∧ assignment.task = task := by
  rcases transit with ⟨after, after_eq, _, idle⟩
  change (scheduler.dispatch unit).scheduler.profile? task = some after at after_eq
  rw [profile?_dispatch, (draw_sound _ _).get?_eq] at after_eq
  split at after_eq
  · rename_i served
    rcases Option.map_eq_some_iff.mp served with ⟨found, taken, own⟩
    exact ⟨Assignment.ofFound found, by rw [reply_dispatch, taken]; rfl, own⟩
  · change scheduler.profile? task = some after at after_eq
    rw [tracked] at after_eq
    rw [← Option.some.inj after_eq] at idle
    exact absurd idle waits

theorem inTransit_dispatch {scheduler : Scheduler} {unit : Nat} {assignment : Assignment}
    (reply_eq : (scheduler.dispatch unit).reply = some assignment)
    (tracked : scheduler.profile? assignment.task ≠ none) :
    ((scheduler.dispatch unit).scheduler.view assignment.task).InTransit := by
  have sound := draw_sound scheduler.queues scheduler.roster
  rw [reply_dispatch] at reply_eq
  rcases Option.map_eq_some_iff.mp reply_eq with ⟨⟨source, entry⟩, taken, rfl⟩
  rcases Option.ne_none_iff_exists'.mp tracked with ⟨profile, found⟩
  have owns := (Roster.live_iff_of_tracked found).mp (sound.live source entry taken)
  refine ⟨profile.claimed, ?_, owns.1, rfl⟩
  change (scheduler.dispatch unit).scheduler.profile? entry.task = _
  change scheduler.roster.get? entry.task = _ at found
  rw [profile?_dispatch, sound.get?_eq, Draw.task?, taken, found]
  exact if_pos rfl

theorem inTransit_after {scheduler : Scheduler} {task : TaskId} {history : List (Nanos × Event)}
    (transit : (scheduler.view task).InTransit)
    (unmoved : ∀ reported ∈ history, ¬reported.2.MovesOn task) :
    ((scheduler.after history).view task).InTransit := by
  induction history generalizing scheduler with
  | nil => exact transit
  | cons reported later ih =>
      have stays := unmoved reported List.mem_cons_self
      refine ih (transit.step (scheduler.step_of_handle reported.1 task reported.2) stays) ?_
      intro other member
      exact unmoved other (List.mem_cons_of_mem reported member)

end Scheduler

namespace Execution

/-- A task is in transit exactly if it was handed out while it was tracked and has not been moved on
since. -/
theorem inTransit_iff (execution : Execution) (task : TaskId) :
    (execution.scheduler.view task).InTransit ↔
      execution.initial.HandedOutIn execution.history task := by
  constructor
  · refine Scheduler.after_induction (motive := fun history scheduler =>
      (scheduler.view task).InTransit → execution.initial.HandedOutIn history task)
      execution.initial ?_ ?_ execution.history
    · rintro ⟨profile, tracked, _⟩
      rw [execution.initial_eq] at tracked
      simp [Scheduler.view, Scheduler.profile?, Scheduler.initial] at tracked
    · intro history now event ih transit
      have step := (execution.initial.after history).step_of_handle now task event
      rcases transit.origin step with ⟨stays, before⟩ | ⟨unit, profile, rfl, tracked, waits⟩
      · exact (ih before).concat now stays
      · rcases (execution.initial.after history).reply_of_inTransit tracked waits transit with
          ⟨assignment, reply_eq, own⟩
        refine ⟨history, now, unit, [], assignment, rfl, reply_eq, own, ?_, by simp⟩
        exact Option.ne_none_iff_exists'.mpr ⟨profile, tracked⟩
  · rintro ⟨earlier, now, unit, later, assignment, history_eq, reply_eq, own, tracked, unmoved⟩
    rw [scheduler, history_eq, Scheduler.after_append]
    rw [← own] at tracked unmoved ⊢
    change ((((execution.initial.after earlier).dispatch unit).scheduler.after later).view
      assignment.task).InTransit
    exact Scheduler.inTransit_after (Scheduler.inTransit_dispatch reply_eq tracked) unmoved

/-- After an enqueue, the task has a live entry and is handed out, unless the task was in transit. -/
theorem handsOut_enqueue_iff (execution : Execution) (now : Nanos) (task : TaskId)
    (flags : EnqueueFlags) :
    ((execution.scheduler.enqueue now task flags).scheduler.HasLiveEntry task ↔
        ¬(execution.scheduler.view task).InTransit) ∧
      ((execution.scheduler.enqueue now task flags).scheduler.HandsOut task ↔
        ¬(execution.scheduler.view task).InTransit) := by
  have next_eq := execution.scheduler_extend [(now, .enqueue task flags)]
  change _ = (execution.scheduler.enqueue now task flags).scheduler at next_eq
  have consistent := (execution.extend [(now, .enqueue task flags)]).consistent
  have backed := ((execution.extend [(now, .enqueue task flags)]).invariant task).backed
  rw [next_eq] at consistent backed
  have step := execution.scheduler.step_of_enqueue now task flags
  have live_iff : (execution.scheduler.enqueue now task flags).scheduler.HasLiveEntry task ↔
      ¬(execution.scheduler.view task).InTransit := by
    rw [Scheduler.hasLiveEntry_iff_view]
    exact TaskView.hasLive_enqueue_iff step backed
  exact ⟨live_iff, (Scheduler.handsOut_iff consistent task).trans live_iff⟩

/-- An enqueue between the dispatch of a task and its start is lost. -/
theorem enqueue_lost_after_dispatch :
    ¬∀ (execution : Execution) (now : Nanos) (task : TaskId) (flags : EnqueueFlags),
      (execution.scheduler.enqueue now task flags).scheduler.HasLiveEntry task := by
  intro kept
  have found := kept
    (ofHistory [(1000, .enqueue 1 ⟨true, false, false⟩), (1000, .dispatch 0)]) 1000 1
    ⟨false, false, true⟩
  revert found
  decide +kernel

end Execution

end TierSched
