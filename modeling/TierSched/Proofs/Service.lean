import TierSched.Proofs.Bypass
import TierSched.Proofs.QueueStep
import TierSched.Proofs.Drain

/-!
# When a background task is served

A request for work makes an attempt for each stale entry that it discards, and one more. So a request
that does not hand out the task of a live entry uses up some of the patience of this entry, and no
other event about another task adds to it. `Scheduler.LiveAt.step` shows this for one event, and
`Scheduler.LiveAt.handsOutWithin` concludes for a history that the task is handed out before the
patience is used up.
-/

namespace TierSched

open ReadyQueues (Operation)

namespace Event

def isDispatch : Event → Bool
  | dispatch _ => true
  | _ => false

end Event

/-- The number of requests for work in a history. -/
def dispatchCount (history : List (Nanos × Event)) : Nat :=
  history.countP fun reported => reported.2.isDispatch

theorem dispatchCount_cons (now : Nanos) (event : Event) (later : List (Nanos × Event)) :
    dispatchCount ((now, event) :: later) =
      dispatchCount later + if event.isDispatch then 1 else 0 := by
  simp only [dispatchCount, List.countP_cons]

/-- A search finds the task of a live entry, or it leaves the entry and uses up some of its
patience. -/
theorem draw_serves (queues : ReadyQueues) (roster : Roster) {place : Place} {tier : Tier}
    (consistent : queues.Consistent) (located : place.lane = queues.entries tier)
    (live : roster.Live place.entry) :
    (draw queues roster).task? = some place.entry.task ∨
      ∃ next : Place, next.entry = place.entry ∧
        next.lane = (draw queues roster).queues.entries tier ∧
          next.patience (draw queues roster).queues tier 0 + 1 ≤
            place.patience queues tier 0 := by
  induction queues, roster using draw_induction generalizing place with
  | exhausted queues roster rest popped =>
      rcases place.taken_or_closer consistent located popped with impossible | closer
      · contradiction
      · exact Or.inr closer
  | found queues roster rest source entry popped _ =>
      rcases place.taken_or_closer consistent located popped with taken | closer
      · left
        rw [taken]
        rfl
      · exact Or.inr closer
  | discarded queues roster rest source entry further popped stale ih =>
      rcases place.taken_or_closer consistent located popped with
        taken | ⟨next, entry_eq, nextLocated, closer⟩
      · -- a live entry is not discarded
        rw [Option.some.injEq, Prod.mk.injEq] at taken
        rw [taken.2] at stale
        exact absurd live stale
      · rw [← entry_eq, ← Roster.live_claim_of_not_live stale] at live
        rcases ih (consistent.of_pop popped) nextLocated live with
          found | ⟨last, lastEntry_eq, lastLocated, closest⟩
        · rw [entry_eq] at found
          exact Or.inl found
        · refine Or.inr ⟨last, lastEntry_eq.trans entry_eq, lastLocated, ?_⟩
          exact (Nat.le_succ_of_le closest).trans closer

namespace Scheduler

/-- One of the next so many requests for work in the history is answered with the task. -/
def HandsOutWithin (scheduler : Scheduler) (task : TaskId) (requests : Nat)
    (history : List (Nanos × Event)) : Prop :=
  ∃ earlier now unit later assignment, history = earlier ++ (now, .dispatch unit) :: later ∧
    dispatchCount earlier < requests ∧
      ((scheduler.after earlier).dispatch unit).reply = some assignment ∧ assignment.task = task

theorem HandsOutWithin.cons {scheduler : Scheduler} {task : TaskId} {fewer requests : Nat}
    {later : List (Nanos × Event)} {now : Nanos} {event : Event}
    (served : (scheduler.handle now event).scheduler.HandsOutWithin task fewer later)
    (le : fewer + (if event.isDispatch then 1 else 0) ≤ requests) :
    scheduler.HandsOutWithin task requests ((now, event) :: later) := by
  rcases served with ⟨earlier, servedAt, unit, rest, assignment, rfl, soon, reply_eq, own⟩
  refine ⟨(now, event) :: earlier, servedAt, unit, rest, assignment, rfl, ?_, reply_eq, own⟩
  rw [dispatchCount_cons]
  omega

/-- A live entry is at this place in the lane of the lowest tier. -/
structure LiveAt (scheduler : Scheduler) (place : Place) : Prop where
  lane_eq : place.lane = scheduler.queues.entries .background
  live : scheduler.roster.Live place.entry

variable {scheduler : Scheduler} {now : Nanos} {event : Event} {place : Place}

theorem LiveAt.dispatch (liveAt : scheduler.LiveAt place) (consistent : scheduler.queues.Consistent)
    (unit : Nat) :
    (∃ assignment, (scheduler.dispatch unit).reply = some assignment ∧
        assignment.task = place.entry.task) ∨
      ∃ next : Place, next.entry = place.entry ∧ (scheduler.dispatch unit).scheduler.LiveAt next ∧
        next.patience (scheduler.dispatch unit).scheduler.queues .background 0 + 1 ≤
          place.patience scheduler.queues .background 0 := by
  have sound := draw_sound scheduler.queues scheduler.roster
  by_cases served : (draw scheduler.queues scheduler.roster).task? = some place.entry.task
  · rcases Option.map_eq_some_iff.mp served with ⟨found, taken, own⟩
    refine Or.inl ⟨Assignment.ofFound found, ?_, own⟩
    rw [reply_dispatch, taken]
    rfl
  · rcases draw_serves scheduler.queues scheduler.roster consistent liveAt.lane_eq liveAt.live with
      found | ⟨next, entry_eq, located, closer⟩
    · exact absurd found served
    · refine Or.inr ⟨next, entry_eq, ⟨?_, ?_⟩, ?_⟩
      · rw [queues_dispatch]
        exact located
      · rw [roster_dispatch, entry_eq]
        exact sound.live_after served liveAt.live
      · rw [queues_dispatch]
        exact closer

/-- Any other event that is not about the task leaves the entry and its patience alone. -/
theorem LiveAt.handle (liveAt : scheduler.LiveAt place) (consistent : scheduler.queues.Consistent)
    (other : event.task? ≠ some place.entry.task) (supply : ∀ unit, event ≠ .dispatch unit) :
    ∃ next : Place, next.entry = place.entry ∧
      (scheduler.handle now event).scheduler.LiveAt next ∧
        next.patience (scheduler.handle now event).scheduler.queues .background 0 ≤
          place.patience scheduler.queues .background 0 := by
  have queues_eq := scheduler.queues_handle now event
  -- only an attempt, or a drop of the entries of its own task, could take the entry away
  have kept : ∀ operation ∈ scheduler.operations now event, operation ≠ .pop ∧
      operation ≠ .drop .background place.entry.task := by
    intro operation member
    have cause := Scheduler.causes_of_mem_operations member
    refine ⟨?_, ?_⟩
    · rintro rfl
      cases event with
      | dispatch unit => exact supply unit rfl
      | _ => exact cause
    · rintro rfl
      cases event with
      | start unit task => exact other (congrArg some cause.symm)
      | exit task => exact other (congrArg some cause.symm)
      | _ => exact cause
  rcases Place.followAll_isSome liveAt.lane_eq kept with ⟨next, followed⟩
  rcases Place.lane_followAll liveAt.lane_eq followed with ⟨entry_eq, located⟩
  have patience := Place.patience_followAll consistent liveAt.lane_eq followed 0
  rw [Operation.countP_pushesTo_background, Nat.add_zero] at patience
  have view_eq := scheduler.view_handle_of_ne now place.entry.task other supply
  refine ⟨next, entry_eq, ⟨?_, ?_⟩, ?_⟩
  · rw [queues_eq]
    exact located
  · rw [entry_eq]
    exact (Roster.live_congr (congrArg TaskView.profile? view_eq)).mpr liveAt.live
  · rw [queues_eq]
    exact (Nat.le_add_right _ _).trans patience

/-- An event that is not about the task answers with it, or leaves the entry in its lane; a request
for work then uses up some of its patience. -/
theorem LiveAt.step (liveAt : scheduler.LiveAt place) (consistent : scheduler.queues.Consistent)
    (now : Nanos) (other : event.task? ≠ some place.entry.task) :
    (∃ unit assignment, event = .dispatch unit ∧
        (scheduler.dispatch unit).reply = some assignment ∧
          assignment.task = place.entry.task) ∨
      ∃ next : Place, next.entry = place.entry ∧
        (scheduler.handle now event).scheduler.LiveAt next ∧
          next.patience (scheduler.handle now event).scheduler.queues .background 0 +
              (if event.isDispatch then 1 else 0) ≤
            place.patience scheduler.queues .background 0 := by
  by_cases supply : ∃ unit, event = .dispatch unit
  · rcases supply with ⟨unit, rfl⟩
    rcases liveAt.dispatch consistent unit with ⟨assignment, reply_eq, own⟩ | closer
    · exact Or.inl ⟨unit, assignment, rfl, reply_eq, own⟩
    · exact Or.inr closer
  · have quiet : event.isDispatch = false := by
      cases event with
      | dispatch unit => exact absurd ⟨unit, rfl⟩ supply
      | _ => rfl
    simp only [quiet, Bool.false_eq_true, if_false, Nat.add_zero]
    exact Or.inr (liveAt.handle consistent other fun unit same => supply ⟨unit, same⟩)

/-- A live entry is handed out when its patience is used up by requests for work. -/
theorem LiveAt.handsOutWithin {history : List (Nanos × Event)} {requests : Nat}
    (liveAt : scheduler.LiveAt place) (consistent : scheduler.queues.Consistent)
    (others : ∀ reported ∈ history, reported.2.task? ≠ some place.entry.task)
    (patient : place.patience scheduler.queues .background 0 ≤ requests)
    (enough : requests ≤ dispatchCount history) :
    scheduler.HandsOutWithin place.entry.task requests history := by
  have turn := scheduler.queues.untilLowTurn_pos
  induction history generalizing scheduler place requests with
  | nil =>
      simp only [Place.patience] at patient
      simp only [dispatchCount, List.countP_nil] at enough
      omega
  | cons reported later ih =>
      rcases reported with ⟨now, event⟩
      have other : event.task? ≠ some place.entry.task := others (now, event) List.mem_cons_self
      rw [dispatchCount_cons] at enough
      rcases liveAt.step consistent now other with
        ⟨unit, assignment, rfl, reply_eq, own⟩ | ⟨next, entry_eq, nextLiveAt, closer⟩
      · refine ⟨[], now, unit, later, assignment, rfl, ?_, reply_eq, own⟩
        simp only [Place.patience] at patient
        simp only [dispatchCount, List.countP_nil]
        omega
      · have served := ih nextLiveAt (consistent_handle consistent now event) ?_ (Nat.le_refl _) ?_
          (ReadyQueues.untilLowTurn_pos _)
        · rw [entry_eq] at served
          exact served.cons (closer.trans patient)
        · intro reported member
          rw [entry_eq]
          exact others reported (List.mem_cons_of_mem _ member)
        · omega

end Scheduler

/-- A live entry of the lowest tier is handed out within the interval times the number of the entry in
its lane, as long as nothing else is reported about its task. -/
def Execution.ServesBackground (execution : Execution) : Prop :=
  ∀ place : Place, execution.scheduler.LiveAt place → ∀ later,
    (∀ reported ∈ later, reported.2.task? ≠ some place.entry.task) →
      (place.ahead.length + 1) * max execution.config.lowTierInterval.toNat 1 ≤
        dispatchCount later →
      execution.scheduler.HandsOutWithin place.entry.task
        ((place.ahead.length + 1) * max execution.config.lowTierInterval.toNat 1) later

theorem Execution.servesBackground (execution : Execution) : execution.ServesBackground := by
  intro place liveAt later others enough
  refine liveAt.handsOutWithin execution.consistent others ?_ enough
  rw [← execution.toNat_interval]
  have turn := execution.scheduler.queues.untilLowTurn_le
  have empty : execution.scheduler.queues.load (ReadyQueues.preceding .background) = 0 := rfl
  rw [Place.patience, empty, Nat.zero_add, Nat.succ_mul]
  exact Nat.add_le_add_left turn _

/-- In every state of the queues, whatever the counter of the attempts shows, the entries of the two
lowest tiers are taken or dropped after a bounded number of attempts, and in every execution the live
entries of the lowest tier are handed out after a bounded number of requests. -/
theorem bypass_bounded :
    (∀ interval operations, ((ReadyQueues.empty interval).performAll operations).interval.toNat =
        max interval.toNat 1) ∧
      (∀ queues : ReadyQueues, queues.Consistent → queues.BypassBounded) ∧
        ∀ execution : Execution, execution.ServesBackground := by
  refine ⟨?_, ?_, ?_⟩
  · intro interval operations
    rw [ReadyQueues.interval_performAll]
    exact ReadyQueues.toNat_interval_empty interval
  · intro queues consistent
    exact consistent.bypassBounded
  · intro execution
    exact execution.servesBackground

/-- An entry of the lowest tier that is served by the attempt at which the counter starts again, and
a task of the lowest tier that is handed out although two others wait in a higher tier. -/
theorem bypass_bounded_of_restarting_counter :
    let queues : ReadyQueues :=
      { (ReadyQueues.empty 6).push .background ⟨1, 0, 1⟩ with attempts := 18446744073709551614 }
    let operations : List Operation :=
      [.push .gaming ⟨2, 0, 1⟩, .push .gaming ⟨3, 0, 1⟩, .pop, .pop, .pop, .pop, .pop, .pop]
    let execution := Execution.ofConfig { lowTierInterval := 2 } (by decide)
      [(0, .start 0 1), (10000000, .stop 0 1 true), (10000000, .start 0 1),
        (20000000, .stop 0 1 true), (20000000, .start 0 1), (30000000, .stop 0 1 true),
        (30000000, .start 0 1), (40000000, .stop 0 1 true),
        (40000000, .enqueue 1 ⟨false, false, false⟩),
        (40000000, .enqueue 2 ⟨false, false, false⟩),
        (40000000, .enqueue 3 ⟨false, false, false⟩)]
    (queues.performAll (operations.take 4)).attempts = 0 ∧
      (Place.mk [] ⟨1, 0, 1⟩ []).followAll queues .background (operations.take 3) ≠ none ∧
      (Place.mk [] ⟨1, 0, 1⟩ []).followAll queues .background (operations.take 4) = none ∧
      (Place.mk [] ⟨1, 0, 1⟩ []).LeavesWithin queues .background 6 operations ∧
      (execution.scheduler.handOuts [0, 0]).map (fun reply => reply.map (·.task)) =
        [some 2, some 1] ∧
      execution.scheduler.HandsOutWithin 1 2 [(50000000, .dispatch 0), (50000000, .dispatch 0)] := by
  intro queues operations execution
  have consistent : queues.Consistent := by
    intro tier
    cases tier <;> rfl
  refine ⟨?_, ?_, ?_, ?_, ?_, ?_⟩
  · decide +kernel
  · decide +kernel
  · decide +kernel
  · exact (bypass_bounded.2.1 queues consistent).background _ rfl operations
  · decide +kernel
  · refine bypass_bounded.2.2 execution ⟨[], ⟨1, 2600000, 1⟩, []⟩ ⟨?_, ?_⟩ _ ?_ ?_
    · decide +kernel
    · decide +kernel
    · decide
    · decide +kernel

end TierSched
