import TierSched.Proofs.Callback
import TierSched.Proofs.Draw
import TierSched.Proofs.Execution

/-!
# One task at a time

A `TaskView` is what a scheduler holds about one task: the profile, if the task is tracked, and the
entries that wait for it. `TaskView.Step` lists everything that an event can do to a view, and
`Scheduler.step_of_handle` shows that the list is complete. An invariant about tasks has to be checked
against this list only; the callbacks are not opened again.
-/

namespace TierSched

/-- What a scheduler holds about one task. -/
structure TaskView where
  profile? : Option Profile
  waiting : Waiting

def Scheduler.view (scheduler : Scheduler) (task : TaskId) : TaskView where
  profile? := scheduler.profile? task
  waiting := scheduler.queues.waiting task

theorem Scheduler.view_initial (config : Config) (topology : Topology) (task : TaskId) :
    (initial config topology).view task = ⟨none, fun _ => []⟩ := by
  simp only [view, profile?, initial, Roster.get?_empty]
  congr 1
  funext tier
  exact ReadyQueues.waiting_empty config.lowTierInterval task tier

namespace TaskView

/-- The entry is the one with which the task waits. -/
def Live (view : TaskView) (entry : Entry) : Prop :=
  match view.profile? with
  | some profile => profile.Owns entry.generation
  | none => entry.generation = Generation.untracked

/-- A callback that observes the task begins with this profile. -/
def Observes (view : TaskView) (config : Config) (profile : Profile) : Prop :=
  view.profile? = some profile ∨ view.profile? = none ∧ profile = .fresh config

/-- The lanes have lost entries that are not live from their fronts, and then those that are taken. -/
def Surrenders (view : TaskView) (taken left : Waiting) : Prop :=
  ∀ tier, ∃ discarded, (∀ entry ∈ discarded, ¬view.Live entry) ∧
    view.waiting tier = discarded ++ taken tier ++ left tier

/-- What an event can do to the view of a task. -/
inductive Step (config : Config) (now : Nanos) (task : TaskId) :
    Event → TaskView → TaskView → Prop where
  | unaffected {event : Event} {view : TaskView}
      (untracked : event.task? = some task → view.profile? = none ∧ event.isEnqueue = false) :
      Step config now task event view view
  | wake {view : TaskView} (profile : Profile) (previous : Option Nat) (flags : WakeFlags)
      (kicked : Bool) (observed : view.Observes config profile) :
      Step config now task (.wake task previous flags) view
        ⟨some { (profile.wake now).2 with kickedOnWake := kicked }, view.waiting⟩
  | enqueue {view : TaskView} (profile : Profile) (flags : EnqueueFlags)
      (observed : view.Observes config profile) (accepted : profile.phase ≠ .queued) :
      Step config now task (.enqueue task flags) view
        ⟨some (profile.enqueue now).2,
          view.waiting.push profile.tier ⟨task, profile.slice, profile.generation.next⟩⟩
  | refuse {view : TaskView} (profile : Profile) (flags : EnqueueFlags)
      (tracked : view.profile? = some profile) (queued : profile.phase = .queued) :
      Step config now task (.enqueue task flags) view view
  | enqueueUntracked {view : TaskView} (flags : EnqueueFlags) (slice : Nanos)
      (untracked : view.profile? = none) :
      Step config now task (.enqueue task flags) view
        ⟨none, view.waiting.push .interactive ⟨task, slice, .untracked⟩⟩
  | pass {view : TaskView} (unit : Nat) (left : Waiting)
      (split : view.Surrenders (fun _ => []) left) :
      Step config now task (.dispatch unit) view ⟨view.profile?, left⟩
  | handOut {view : TaskView} (unit : Nat) (source : Tier) (entry : Entry) (left : Waiting)
      (live : view.Live entry)
      (split : view.Surrenders (fun tier => if source = tier then [entry] else []) left) :
      Step config now task (.dispatch unit) view ⟨view.profile?.map Profile.claimed, left⟩
  | start {view : TaskView} (profile : Profile) (unit : Nat)
      (observed : view.Observes config profile) :
      Step config now task (.start unit task) view
        ⟨some (profile.start config.waitBudget now).2, view.waiting.dropFrom profile.waitsIn⟩
  | stop {view : TaskView} (profile : Profile) (unit : Nat) (requeue : Bool)
      (tracked : view.profile? = some profile) :
      Step config now task (.stop unit task requeue) view
        ⟨some (profile.stop config now requeue).2, view.waiting⟩
  | tick {view : TaskView} (profile : Profile) (unit : Nat)
      (tracked : view.profile? = some profile) :
      Step config now task (.tick unit task) view
        ⟨some (profile.checkCeiling config.runCeiling now).2, view.waiting⟩
  | exit {view : TaskView} :
      Step config now task (.exit task) view
        ⟨none, (view.waiting.dropFrom (view.profile?.bind Profile.waitsIn)).dropFrom
          (some .interactive)⟩

/-- Nothing but an enqueue of the task adds to what waits for it, and entries leave a lane from its
front, or all together. -/
theorem Step.waiting_suffix {config : Config} {now : Nanos} {task : TaskId} {event : Event}
    {before after : TaskView} (step : Step config now task event before after)
    (other : ∀ flags, event ≠ .enqueue task flags) (tier : Tier) :
    after.waiting tier <:+ before.waiting tier := by
  cases step with
  | unaffected untracked => exact List.suffix_refl _
  | wake profile previous flags kicked observed => exact List.suffix_refl _
  | enqueue profile flags observed accepted => exact absurd rfl (other flags)
  | refuse profile flags tracked queued => exact absurd rfl (other flags)
  | enqueueUntracked flags slice untracked => exact absurd rfl (other flags)
  | pass unit left split =>
      rcases split tier with ⟨discarded, _, split⟩
      exact ⟨_, split.symm⟩
  | handOut unit source entry left live split =>
      rcases split tier with ⟨discarded, _, split⟩
      exact ⟨_, split.symm⟩
  | start profile unit observed => exact before.waiting.suffix_dropFrom profile.waitsIn tier
  | stop profile unit requeue tracked => exact List.suffix_refl _
  | tick profile unit tracked => exact List.suffix_refl _
  | exit =>
      exact (Waiting.suffix_dropFrom _ _ tier).trans (Waiting.suffix_dropFrom _ _ tier)

/-- A tracked task is forgotten only when it exits. -/
theorem Step.remains_tracked {config : Config} {now : Nanos} {task : TaskId} {event : Event}
    {before after : TaskView} (step : Step config now task event before after) {profile : Profile}
    (tracked : before.profile? = some profile) (stays : event ≠ .exit task) :
    ∃ next, after.profile? = some next := by
  cases step with
  | unaffected untracked => exact ⟨profile, tracked⟩
  | wake previous previousUnit flags kicked observed => exact ⟨_, rfl⟩
  | enqueue previous flags observed accepted => exact ⟨_, rfl⟩
  | refuse previous flags wasTracked queued => exact ⟨profile, tracked⟩
  | enqueueUntracked flags slice untracked =>
      rw [untracked] at tracked
      contradiction
  | pass unit left split => exact ⟨profile, tracked⟩
  | handOut unit source entry left live split =>
      exact ⟨profile.claimed, congrArg (Option.map Profile.claimed) tracked⟩
  | start previous unit observed => exact ⟨_, rfl⟩
  | stop previous unit requeue wasTracked => exact ⟨_, rfl⟩
  | tick previous unit wasTracked => exact ⟨_, rfl⟩
  | exit => exact absurd rfl stays

/-- What is observed of a tracked task is its profile. -/
theorem Observes.eq_of_tracked {config : Config} {view : TaskView} {observed profile : Profile}
    (observes : view.Observes config observed) (tracked : view.profile? = some profile) :
    observed = profile := by
  rcases observes with same | ⟨untracked, _⟩
  · rw [tracked] at same
    exact (Option.some.inj same).symm
  · rw [untracked] at tracked
    contradiction

end TaskView

namespace Scheduler

variable (scheduler : Scheduler) (now : Nanos) (task : TaskId)

/-- A callback about one task does not change the view of another one. -/
theorem view_handle_of_ne {event : Event} (other : event.task? ≠ some task)
    (supply : ∀ unit, event ≠ .dispatch unit) :
    (scheduler.handle now event).scheduler.view task = scheduler.view task := by
  cases event with
  | wake woken previous flags =>
      have different : woken ≠ task := fun same => other (congrArg some same)
      change (scheduler.wake now woken previous flags).scheduler.view task = _
      rw [view, profile?_wake, queues_wake, if_neg different]
      rfl
  | enqueue queued flags =>
      have different : queued ≠ task := fun same => other (congrArg some same)
      change (scheduler.enqueue now queued flags).scheduler.view task = _
      rw [view, profile?_enqueue, queues_enqueue, if_neg different]
      cases scheduler.pushed? now queued with
      | none => rfl
      | some pushed =>
          simp only
          rw [ReadyQueues.waiting_push_of_ne _ _ different]
          rfl
  | dispatch unit => exact absurd rfl (supply unit)
  | start unit started =>
      have different : started ≠ task := fun same => other (congrArg some same)
      change (scheduler.start now unit started).scheduler.view task = _
      rw [view, profile?_start, queues_start, if_neg different,
        ReadyQueues.waiting_dropFrom_of_ne _ _ different]
      rfl
  | stop unit stopped requeue =>
      have different : stopped ≠ task := fun same => other (congrArg some same)
      change (scheduler.stop now unit stopped requeue).scheduler.view task = _
      rw [view, profile?_stop, queues_stop, if_neg different]
      rfl
  | tick unit ticked =>
      have different : ticked ≠ task := fun same => other (congrArg some same)
      change (scheduler.tick now unit ticked).scheduler.view task = _
      rw [view, profile?_tick, queues_tick, if_neg different]
      rfl
  | changeIdle unit idle =>
      change (scheduler.changeIdle unit idle).scheduler.view task = _
      rw [view, profile?_changeIdle, queues_changeIdle]
      rfl
  | exit gone =>
      have different : gone ≠ task := fun same => other (congrArg some same)
      change (scheduler.exit gone).scheduler.view task = _
      rw [view, profile?_exit, queues_exit, if_neg different]
      rw [ReadyQueues.waiting_dropFrom_of_ne _ _ different,
        ReadyQueues.waiting_dropFrom_of_ne _ _ different]
      rfl

theorem step_of_wake (previous : Option Nat) (flags : WakeFlags) :
    TaskView.Step scheduler.config now task (.wake task previous flags) (scheduler.view task)
      ((scheduler.wake now task previous flags).scheduler.view task) := by
  rw [view, view, profile?_wake, queues_wake, if_pos rfl]
  cases observed : scheduler.observed? task with
  | none =>
      have untracked := profile?_eq_none_of_observed? observed
      rw [untracked]
      exact .unaffected fun _ => ⟨rfl, rfl⟩
  | some profile =>
      exact .wake profile previous flags _ (observed?_eq_some observed)

theorem step_of_enqueue (flags : EnqueueFlags) :
    TaskView.Step scheduler.config now task (.enqueue task flags) (scheduler.view task)
      ((scheduler.enqueue now task flags).scheduler.view task) := by
  rw [view, view, profile?_enqueue, queues_enqueue, if_pos rfl, pushed?]
  cases observed : scheduler.observed? task with
  | none =>
      have untracked := profile?_eq_none_of_observed? observed
      simp only [untracked, Option.map_none, Option.getD_none]
      rw [ReadyQueues.waiting_push_self _ _ ⟨task, _, _⟩]
      exact .enqueueUntracked flags _ rfl
  | some profile =>
      by_cases queued : profile.phase = .queued
      · have tracked : scheduler.profile? task = some profile := by
          rcases observed?_eq_some observed with tracked | ⟨_, fresh⟩
          · exact tracked
          · rw [fresh] at queued
            contradiction
        simp only [tracked, Option.map_some, Option.getD_some, Profile.enqueue_of_queued queued]
        exact .refuse profile flags rfl queued
      · have accepted := @TaskView.Step.enqueue scheduler.config now task (scheduler.view task)
          profile flags (observed?_eq_some observed) queued
        rw [Profile.enqueue_of_not_queued queued] at accepted
        simp only [Option.map_some, Option.getD_some, Profile.enqueue_of_not_queued queued]
        rw [ReadyQueues.waiting_push_self _ _ ⟨task, _, _⟩]
        exact accepted

theorem live_view {scheduler : Scheduler} {task : TaskId} {entry : Entry}
    (own : entry.task = task) :
    (scheduler.view task).Live entry ↔ scheduler.roster.Live entry := by
  subst own
  exact Iff.rfl

theorem surrenders_of_sound {scheduler : Scheduler} {drawn : Draw}
    (sound : drawn.Sound scheduler.queues scheduler.roster) (task : TaskId) :
    (scheduler.view task).Surrenders
      (fun tier => (drawn.takenFrom tier).filter fun entry => entry.task = task)
      (drawn.queues.waiting task) := by
  intro tier
  rcases sound.entries_eq tier with ⟨discarded, allStale, split⟩
  refine ⟨discarded.filter fun entry => entry.task = task, ?_, ?_⟩
  · intro entry member
    rcases List.mem_filter.mp member with ⟨discardedMem, own⟩
    rw [live_view (of_decide_eq_true own)]
    exact allStale entry discardedMem
  · simp only [view, ReadyQueues.waiting, split, List.filter_append]

/-- Supplying a unit hands the task out or takes stale entries of it at most. -/
theorem step_of_dispatch (unit : Nat) :
    TaskView.Step scheduler.config now task (.dispatch unit) (scheduler.view task)
      ((scheduler.dispatch unit).scheduler.view task) := by
  have sound := draw_sound scheduler.queues scheduler.roster
  have split := surrenders_of_sound sound task
  rw [view, view, profile?_dispatch, queues_dispatch, sound.get?_eq]
  cases taken : (draw scheduler.queues scheduler.roster).taken with
  | none =>
      simp only [Draw.takenFrom, taken, List.filter_nil] at split
      simp only [Draw.task?, taken, Option.map_none, reduceCtorEq, if_false]
      exact .pass unit _ split
  | some found =>
      rcases found with ⟨source, entry⟩
      simp only [Draw.takenFrom, taken] at split
      simp only [Draw.task?, taken, Option.map_some, Option.some.injEq]
      by_cases own : entry.task = task
      · rw [if_pos own]
        have live := (live_view own).mpr (sound.live source entry taken)
        refine .handOut unit source entry _ live ?_
        intro tier
        rcases split tier with ⟨discarded, allStale, split⟩
        refine ⟨discarded, allStale, split.trans ?_⟩
        by_cases same : source = tier
        · simp [same, own]
        · simp [same]
      · rw [if_neg own]
        refine .pass unit _ ?_
        intro tier
        rcases split tier with ⟨discarded, allStale, split⟩
        refine ⟨discarded, allStale, split.trans ?_⟩
        by_cases same : source = tier
        · simp [same, own]
        · simp [same]

theorem step_of_start (unit : Nat) :
    TaskView.Step scheduler.config now task (.start unit task) (scheduler.view task)
      ((scheduler.start now unit task).scheduler.view task) := by
  rw [view, view, profile?_start, queues_start, if_pos rfl, ReadyQueues.waiting_dropFrom_self]
  cases observed : scheduler.observed? task with
  | none =>
      have untracked := profile?_eq_none_of_observed? observed
      rw [untracked]
      exact .unaffected fun _ => ⟨rfl, rfl⟩
  | some profile =>
      have waitsIn_eq : (scheduler.profile? task).bind Profile.waitsIn = profile.waitsIn := by
        rcases observed?_eq_some observed with tracked | ⟨untracked, fresh⟩
        · rw [tracked]
          rfl
        · rw [untracked, fresh]
          rfl
      rw [waitsIn_eq]
      exact .start profile unit (observed?_eq_some observed)

theorem step_of_stop (unit : Nat) (requeue : Bool) :
    TaskView.Step scheduler.config now task (.stop unit task requeue) (scheduler.view task)
      ((scheduler.stop now unit task requeue).scheduler.view task) := by
  rw [view, view, profile?_stop, queues_stop, if_pos rfl]
  cases tracked : scheduler.profile? task with
  | none => exact .unaffected fun _ => ⟨rfl, rfl⟩
  | some profile => exact .stop profile unit requeue rfl

theorem step_of_tick (unit : Nat) :
    TaskView.Step scheduler.config now task (.tick unit task) (scheduler.view task)
      ((scheduler.tick now unit task).scheduler.view task) := by
  rw [view, view, profile?_tick, queues_tick, if_pos rfl]
  cases tracked : scheduler.profile? task with
  | none => exact .unaffected fun _ => ⟨rfl, rfl⟩
  | some profile => exact .tick profile unit rfl

theorem step_of_exit :
    TaskView.Step scheduler.config now task (.exit task) (scheduler.view task)
      ((scheduler.exit task).scheduler.view task) := by
  rw [view, view, profile?_exit, queues_exit, if_pos rfl, ReadyQueues.waiting_dropFrom_self,
    ReadyQueues.waiting_dropFrom_self]
  exact .exit

/-- Every event takes one of the listed steps with every task. -/
theorem step_of_handle (event : Event) :
    TaskView.Step scheduler.config now task event (scheduler.view task)
      ((scheduler.handle now event).scheduler.view task) := by
  by_cases own : event.task? = some task
  · cases event with
    | wake woken previous flags =>
        rw [Option.some.inj own]
        exact scheduler.step_of_wake now task previous flags
    | enqueue queued flags =>
        rw [Option.some.inj own]
        exact scheduler.step_of_enqueue now task flags
    | start unit started =>
        rw [Option.some.inj own]
        exact scheduler.step_of_start now task unit
    | stop unit stopped requeue =>
        rw [Option.some.inj own]
        exact scheduler.step_of_stop now task unit requeue
    | tick unit ticked =>
        rw [Option.some.inj own]
        exact scheduler.step_of_tick now task unit
    | exit gone =>
        rw [Option.some.inj own]
        exact scheduler.step_of_exit now task
    | dispatch unit => contradiction
    | changeIdle unit idle => contradiction
  · by_cases supply : ∃ unit, event = .dispatch unit
    · rcases supply with ⟨unit, rfl⟩
      exact scheduler.step_of_dispatch now task unit
    · rw [view_handle_of_ne scheduler now task own fun unit same => supply ⟨unit, same⟩]
      exact .unaffected fun same => absurd same own

end Scheduler

end TierSched
