import TierSched.Proofs.Drain

/-!
# Tasks that are not tracked

A task for which the roster has no room is queued without a profile. Its entries carry no generation
of their own, they all wait in the interactive lane, and each of them is live as long as the task is
not tracked. Nothing tells the scheduler whether such a task waits already or runs: an enqueue pushes
an entry in any case, and a start drops none. An entry leaves the lane only when it is handed out or
when the task exits.

So the live entries of the task are those of its enqueues that have not been answered yet. `Tally`
counts the enqueues and the answers since the task was last removed, and
`Execution.length_liveEntriesOf` says that the live entries make up the difference.
-/

namespace TierSched

/-- How often a task was enqueued and handed out since it was last removed. -/
structure Tally where
  enqueued : Nat := 0
  handedOut : Nat := 0
deriving DecidableEq, Repr

/-- The answer hands out the task. -/
def Reply.assigns (reply : Reply) (task : TaskId) : Bool :=
  match reply with
  | .dispatched (some assignment) => assignment.task = task
  | _ => false

def Tally.record (tally : Tally) (task : TaskId) (event : Event) (reply : Reply) : Tally :=
  match event with
  | .enqueue queued _ =>
    if queued = task then { tally with enqueued := tally.enqueued + 1 } else tally
  | .dispatch _ =>
    if reply.assigns task then { tally with handedOut := tally.handedOut + 1 } else tally
  | .exit gone => if gone = task then {} else tally
  | .wake .. | .start .. | .stop .. | .tick .. | .changeIdle .. => tally

theorem Tally.handedOut_record_dispatch (tally : Tally) (task : TaskId) (unit : Nat)
    (reply : Reply) :
    (tally.record task (.dispatch unit) reply).handedOut =
      tally.handedOut + if reply.assigns task then 1 else 0 := by
  simp only [record]
  split <;> rfl

theorem Tally.enqueued_record_dispatch (tally : Tally) (task : TaskId) (unit : Nat)
    (reply : Reply) : (tally.record task (.dispatch unit) reply).enqueued = tally.enqueued := by
  simp only [record]
  split <;> rfl

/-- Nothing else is counted. -/
theorem Tally.record_of_other (tally : Tally) {task : TaskId} {event : Event} (reply : Reply)
    (enqueue : ∀ flags, event ≠ .enqueue task flags) (dispatch : ∀ unit, event ≠ .dispatch unit)
    (exit : event ≠ .exit task) : tally.record task event reply = tally := by
  cases event with
  | enqueue queued flags =>
      have different : queued ≠ task := fun same => enqueue flags (by rw [same])
      simp only [record, if_neg different]
  | dispatch unit => exact absurd rfl (dispatch unit)
  | exit gone =>
      have different : gone ≠ task := fun same => exit (by rw [same])
      simp only [record, if_neg different]
  | _ => rfl

namespace TaskView

variable {config : Config} {now : Nanos} {task : TaskId} {event : Event}

/-- Entries without a generation wait in one lane only. -/
def Lodged (view : TaskView) : Prop :=
  ∀ tier, ∀ entry ∈ view.waiting tier, entry.generation = Generation.untracked →
    tier = .interactive

theorem Lodged.step {before after : TaskView} (lodged : before.Lodged)
    (step : Step config now task event before after) : after.Lodged := by
  intro tier entry member zero
  by_cases pushing : ∃ flags, event = .enqueue task flags
  · rcases pushing with ⟨flags, rfl⟩
    cases step with
    | unaffected untracked => exact lodged tier entry member zero
    | enqueue profile flags observed accepted =>
        rcases Waiting.mem_push.mp member with old | ⟨_, rfl⟩
        · exact lodged tier entry old zero
        · exact absurd zero profile.generation.next_ne_untracked
    | refuse profile flags tracked queued => exact lodged tier entry member zero
    | enqueueUntracked flags slice untracked =>
        rcases Waiting.mem_push.mp member with old | ⟨same, _⟩
        · exact lodged tier entry old zero
        · exact same.symm
  · have suffix := step.waiting_suffix (not_exists.mp pushing) tier
    exact lodged tier entry (suffix.subset member) zero

/-- The entries with which the task waits while it is not tracked. -/
def fallback (view : TaskView) : List Entry :=
  (view.waiting .interactive).filter fun entry => entry.generation = Generation.untracked

/-- Stale entries of an untracked task have a generation. -/
theorem fallback_of_surrenders {view : TaskView} (untracked : view.profile? = none)
    {taken left : Waiting} (split : view.Surrenders taken left) :
    view.fallback =
      ((taken .interactive).filter fun entry => entry.generation = Generation.untracked) ++
        (left .interactive).filter fun entry => entry.generation = Generation.untracked := by
  rcases split .interactive with ⟨discarded, allStale, split⟩
  have discarded_eq :
      (discarded.filter fun entry => entry.generation = Generation.untracked) = [] := by
    rw [List.filter_eq_nil_iff]
    intro entry member zero
    apply allStale entry member
    simp only [Live, untracked]
    exact of_decide_eq_true zero
  rw [fallback, split, List.filter_append, List.filter_append, discarded_eq, List.nil_append]

/-- Nothing but an enqueue, an answer and an exit changes what an untracked task waits with. -/
theorem Step.eq_of_untracked {before after : TaskView}
    (step : Step config now task event before after) (untracked : after.profile? = none)
    (enqueue : ∀ flags, event ≠ .enqueue task flags) (dispatch : ∀ unit, event ≠ .dispatch unit)
    (exit : event ≠ .exit task) : after = before := by
  cases step with
  | unaffected same => rfl
  | wake profile previous flags kicked observed => contradiction
  | enqueue profile flags observed accepted => contradiction
  | refuse profile flags tracked queued => rfl
  | enqueueUntracked flags slice same => exact absurd rfl (enqueue flags)
  | pass unit left split => exact absurd rfl (dispatch unit)
  | handOut unit source entry left live split => exact absurd rfl (dispatch unit)
  | start profile unit observed => contradiction
  | stop profile unit requeue tracked => contradiction
  | tick profile unit tracked => contradiction
  | exit => exact absurd rfl exit

theorem fallback_enqueue {before after : TaskView} {flags : EnqueueFlags}
    (step : Step config now task (.enqueue task flags) before after)
    (untracked : after.profile? = none) :
    before.profile? = none ∧ after.fallback.length = before.fallback.length + 1 := by
  cases step with
  | unaffected same =>
      have impossible := (same rfl).2
      contradiction
  | enqueue profile flags observed accepted => contradiction
  | refuse profile flags tracked queued =>
      rw [tracked] at untracked
      contradiction
  | enqueueUntracked flags slice same =>
      refine ⟨same, ?_⟩
      simp [fallback, Waiting.push, List.filter_append]

end TaskView

namespace Scheduler

variable {scheduler : Scheduler} {task : TaskId}

/-- The live entries of one task in the queues of a scheduler. -/
def liveEntriesOf (scheduler : Scheduler) (task : TaskId) : List (Tier × Entry) :=
  scheduler.liveEntries.filter fun found => found.2.task = task

theorem live_iff_of_untracked (untracked : scheduler.profile? task = none) {entry : Entry}
    (own : entry.task = task) :
    scheduler.roster.Live entry ↔ entry.generation = Generation.untracked := by
  subst own
  change scheduler.roster.get? entry.task = none at untracked
  simp [Roster.Live, untracked]

theorem filter_live_of_untracked (untracked : scheduler.profile? task = none) (tier : Tier) :
    (((scheduler.queues.entries tier).filter fun entry => scheduler.roster.Live entry).filter
        fun entry => entry.task = task) =
      ((scheduler.view task).waiting tier).filter
        fun entry => entry.generation = Generation.untracked := by
  change _ = ((scheduler.queues.entries tier).filter _).filter _
  rw [List.filter_comm]
  apply List.filter_congr
  intro entry member
  have own := of_decide_eq_true (List.mem_filter.mp member).2
  exact decide_eq_decide.mpr (live_iff_of_untracked untracked own)

theorem liveEntriesOf_eq (untracked : scheduler.profile? task = none)
    (lodged : (scheduler.view task).Lodged) :
    scheduler.liveEntriesOf task =
      (scheduler.view task).fallback.map fun entry => (.interactive, entry) := by
  have lane : ∀ tier, (((scheduler.queues.entries tier).filter
      fun entry => scheduler.roster.Live entry).filter fun entry => entry.task = task) =
        if tier = .interactive then (scheduler.view task).fallback else [] := by
    intro tier
    rw [filter_live_of_untracked untracked]
    by_cases same : tier = .interactive
    · rw [if_pos same, same]
      rfl
    · rw [if_neg same, List.filter_eq_nil_iff]
      intro entry member zero
      exact same (lodged tier entry member (of_decide_eq_true zero))
  simp only [liveEntriesOf, liveEntries, ReadyQueues.live, List.filter_flatMap, List.filter_map,
    Function.comp_def, lane]
  simp [Tier.all]

/-- An answer takes an entry of the task away if it hands out the task, and none otherwise. -/
theorem length_fallback_dispatch (untracked : scheduler.profile? task = none)
    (lodged : (scheduler.view task).Lodged) (unit : Nat) :
    (scheduler.view task).fallback.length =
      ((scheduler.dispatch unit).scheduler.view task).fallback.length +
        if (Reply.dispatched (scheduler.dispatch unit).reply).assigns task then 1 else 0 := by
  have sound := draw_sound scheduler.queues scheduler.roster
  have fallback_eq := TaskView.fallback_of_surrenders untracked (surrenders_of_sound sound task)
  have after_eq : ((scheduler.dispatch unit).scheduler.view task).fallback =
      ((draw scheduler.queues scheduler.roster).queues.waiting task .interactive).filter
        fun entry => entry.generation = Generation.untracked := by
    rw [TaskView.fallback, view, queues_dispatch]
  rw [fallback_eq, after_eq, List.length_append, reply_dispatch, Nat.add_comm]
  congr 1
  cases taken : (draw scheduler.queues scheduler.roster).taken with
  | none => simp [Draw.takenFrom, taken, Reply.assigns]
  | some found =>
      rcases found with ⟨source, entry⟩
      by_cases own : entry.task = task
      · have zero := (live_iff_of_untracked untracked own).mp (sound.live source entry taken)
        have waits : entry ∈ (scheduler.view task).waiting source :=
          ReadyQueues.mem_waiting.mpr ⟨sound.mem_of_taken taken, own⟩
        have source_eq := lodged source entry waits zero
        simp [Draw.takenFrom, taken, Reply.assigns, own, zero, source_eq]
      · by_cases same : source = .interactive
        · simp [Draw.takenFrom, taken, Reply.assigns, own, same]
        · simp [Draw.takenFrom, taken, Reply.assigns, own, same]

theorem fallback_exit (scheduler : Scheduler) (task : TaskId) :
    ((scheduler.exit task).scheduler.view task).fallback = [] := by
  have waiting_eq : ((scheduler.exit task).scheduler.view task).waiting .interactive = [] := by
    change (scheduler.exit task).scheduler.queues.waiting task .interactive = []
    rw [queues_exit, ReadyQueues.waiting_dropFrom_self]
    simp [Waiting.dropFrom]
  rw [TaskView.fallback, waiting_eq]
  rfl

/-- What is counted for a task in the course of a history, beginning with a given tally. -/
def tally (scheduler : Scheduler) (task : TaskId) (start : Tally) :
    List (Nanos × Event) → Tally
  | [] => start
  | (now, event) :: later =>
    (scheduler.handle now event).scheduler.tally task
      (start.record task event (scheduler.handle now event).reply) later

theorem tally_concat (scheduler : Scheduler) (task : TaskId) (start : Tally)
    (earlier : List (Nanos × Event)) (now : Nanos) (event : Event) :
    scheduler.tally task start (earlier ++ [(now, event)]) =
      (scheduler.tally task start earlier).record task event
        ((scheduler.after earlier).handle now event).reply := by
  induction earlier generalizing scheduler start with
  | nil => rfl
  | cons first others ih => exact ih _ _

/-- If the task is not tracked, it waits with an entry for each enqueue that was not answered. -/
structure Balanced (scheduler : Scheduler) (task : TaskId) (tally : Tally) : Prop where
  lodged : (scheduler.view task).Lodged
  balance : scheduler.profile? task = none →
    (scheduler.view task).fallback.length + tally.handedOut = tally.enqueued

/-- An answer to a request for work does not make a task untracked. -/
theorem untracked_of_dispatch {unit : Nat}
    (untracked : (scheduler.dispatch unit).scheduler.profile? task = none) :
    scheduler.profile? task = none := by
  rw [profile?_dispatch, (draw_sound _ _).get?_eq] at untracked
  split at untracked
  · exact Option.map_eq_none_iff.mp untracked
  · exact untracked

theorem Balanced.handle {tally : Tally} (balanced : scheduler.Balanced task tally) (now : Nanos)
    (event : Event) :
    (scheduler.handle now event).scheduler.Balanced task
      (tally.record task event (scheduler.handle now event).reply) := by
  have step := scheduler.step_of_handle now task event
  refine ⟨balanced.lodged.step step, ?_⟩
  intro untracked
  by_cases enqueue : ∃ flags, event = .enqueue task flags
  · rcases enqueue with ⟨flags, rfl⟩
    rcases TaskView.fallback_enqueue step untracked with ⟨before, length_eq⟩
    have balance := balanced.balance before
    simp only [Tally.record, if_true]
    omega
  · by_cases dispatch : ∃ unit, event = .dispatch unit
    · rcases dispatch with ⟨unit, rfl⟩
      have before := untracked_of_dispatch untracked
      have balance := balanced.balance before
      rw [length_fallback_dispatch before balanced.lodged unit] at balance
      rw [Tally.handedOut_record_dispatch, Tally.enqueued_record_dispatch, ← balance,
        Nat.add_right_comm, Nat.add_assoc]
      rfl
    · by_cases exit : event = .exit task
      · subst exit
        change ((scheduler.exit task).scheduler.view task).fallback.length + _ = _
        simp only [fallback_exit, Tally.record, if_true, List.length_nil]
      · have enqueue := not_exists.mp enqueue
        have dispatch := not_exists.mp dispatch
        have same := step.eq_of_untracked untracked enqueue dispatch exit
        change ((scheduler.handle now event).scheduler.view task).profile? = none at untracked
        rw [same] at untracked ⊢
        rw [tally.record_of_other _ enqueue dispatch exit]
        exact balanced.balance untracked

end Scheduler

namespace Execution

/-- What is counted for a task in the course of an execution. -/
def tally (execution : Execution) (task : TaskId) : Tally :=
  execution.initial.tally task {} execution.history

theorem balanced (execution : Execution) (task : TaskId) :
    execution.scheduler.Balanced task (execution.tally task) := by
  refine Scheduler.after_induction (motive := fun history scheduler =>
    scheduler.Balanced task (execution.initial.tally task {} history)) execution.initial ?_ ?_
    execution.history
  · rw [execution.initial_eq]
    have view_eq := Scheduler.view_initial execution.config execution.topology task
    refine ⟨?_, ?_⟩
    · intro tier entry impossible
      rw [view_eq] at impossible
      contradiction
    · intro _
      rw [view_eq]
      rfl
  · intro earlier now event balanced
    rw [Scheduler.tally_concat]
    exact balanced.handle now event

/-- An untracked task has one live entry for each enqueue that was not answered yet. -/
theorem length_liveEntriesOf (execution : Execution) {task : TaskId}
    (untracked : execution.scheduler.profile? task = none) :
    (execution.scheduler.liveEntriesOf task).length + (execution.tally task).handedOut =
      (execution.tally task).enqueued := by
  have balanced := execution.balanced task
  rw [Scheduler.liveEntriesOf_eq untracked balanced.lodged, List.length_map]
  exact balanced.balance untracked

theorem tally_extend (execution : Execution) (task : TaskId) (now : Nanos) (event : Event) :
    (execution.extend [(now, event)]).tally task =
      (execution.tally task).record task event (execution.scheduler.handle now event).reply :=
  execution.initial.tally_concat task {} execution.history now event

/-- The live entries of an untracked task, counted against its enqueues and answers. -/
structure UntrackedEntries (execution : Execution) (task : TaskId) : Prop where
  balance : (execution.scheduler.liveEntriesOf task).length + (execution.tally task).handedOut =
    (execution.tally task).enqueued
  single_iff : (execution.scheduler.liveEntriesOf task).length ≤ 1 ↔
    (execution.tally task).enqueued ≤ (execution.tally task).handedOut + 1
  /-- An enqueue adds a live entry, whether the task has one already or not. -/
  enqueue : ∀ now flags,
    (execution.scheduler.enqueue now task flags).scheduler.profile? task = none →
      ((execution.scheduler.enqueue now task flags).scheduler.liveEntriesOf task).length =
        (execution.scheduler.liveEntriesOf task).length + 1
  /-- A start leaves no live entry exactly if every enqueue was answered before. -/
  start : ∀ now unit,
    (execution.scheduler.start now unit task).scheduler.profile? task = none →
      ((execution.scheduler.start now unit task).scheduler.liveEntriesOf task = [] ↔
        (execution.tally task).enqueued = (execution.tally task).handedOut)

/-- An untracked task has at most one live entry exactly if all of its enqueues but one were answered,
and it starts without leaving a live entry exactly if all of them were. -/
theorem untracked_entries (execution : Execution) {task : TaskId}
    (untracked : execution.scheduler.profile? task = none) : execution.UntrackedEntries task := by
  have balance := execution.length_liveEntriesOf untracked
  refine ⟨balance, by omega, ?_, ?_⟩
  · intro now flags still
    have next := @length_liveEntriesOf (execution.extend [(now, .enqueue task flags)]) task
    rw [tally_extend, scheduler_extend] at next
    have next := next still
    change ((execution.scheduler.enqueue now task flags).scheduler.liveEntriesOf task).length + _ =
      _ at next
    simp only [Tally.record, if_true] at next
    omega
  · intro now unit still
    have next := @length_liveEntriesOf (execution.extend [(now, .start unit task)]) task
    rw [tally_extend, scheduler_extend] at next
    have next := next still
    change ((execution.scheduler.start now unit task).scheduler.liveEntriesOf task).length +
      (execution.tally task).handedOut = (execution.tally task).enqueued at next
    rw [← List.length_eq_zero_iff]
    omega

/-- A task without room was queued twice and handed out once: it has one live entry left. -/
theorem untracked_entries_of_answered_once :
    let execution := ofConfig { capacity := 1 } (by decide)
      [(1000, .wake 1 none ⟨false, false⟩), (2000, .enqueue 2 ⟨true, false, false⟩),
        (3000, .enqueue 2 ⟨true, false, false⟩), (4000, .dispatch 0)]
    execution.scheduler.profile? 2 = none ∧ execution.tally 2 = ⟨2, 1⟩ ∧
      (execution.scheduler.liveEntriesOf 2).length = 1 ∧ execution.UntrackedEntries 2 := by
  intro execution
  have untracked : execution.scheduler.profile? 2 = none := by decide +kernel
  refine ⟨untracked, ?_, ?_, execution.untracked_entries untracked⟩
  · decide +kernel
  · decide +kernel

/-- A task without room that is queued twice has two live entries, and one that starts although it was
not handed out keeps its live entry. -/
theorem untracked_entries_pile_up :
    (¬∀ (execution : Execution) (task : TaskId), execution.scheduler.profile? task = none →
        (execution.scheduler.liveEntriesOf task).length ≤ 1) ∧
      ¬∀ (execution : Execution) (now : Nanos) (unit : Nat) (task : TaskId),
        (execution.scheduler.start now unit task).scheduler.profile? task = none →
          (execution.scheduler.start now unit task).scheduler.liveEntriesOf task = [] := by
  refine ⟨?_, ?_⟩
  · intro single
    have found := single
      (ofConfig { capacity := 1 } (by decide)
        [(1000, .wake 1 none ⟨false, false⟩), (1000, .enqueue 2 ⟨true, false, false⟩),
          (1000, .enqueue 2 ⟨true, false, false⟩)]) 2
    revert found
    decide +kernel
  · intro dropped
    have found := dropped
      (ofConfig { capacity := 1 } (by decide)
        [(1000, .wake 1 none ⟨false, false⟩), (1000, .enqueue 2 ⟨true, false, false⟩)]) 1000 0 2
    revert found
    decide +kernel

end Execution

end TierSched
