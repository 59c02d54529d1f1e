import TierSched.Proofs.QueueStep

/-!
# How an entry leaves its lane

`Scheduler.follow` keeps track of one entry of a lane while events are handled. As long as the entry is
still there it is known where, and when it is gone, `Scheduler.Removal` says why: a search handed its
task out, a search discarded it because it was stale, its task started without being dispatched, or its
task exited. `removal_of_followEvent` shows that there is no other reason.

A unit that keeps asking for work takes every entry out in the end, because each answer makes the
queues lighter and an empty answer leaves nothing behind.
-/

namespace TierSched

namespace Scheduler

/-- Where the entry at a place in the lane of a tier is after an event, none if the event removed it. -/
def followEvent (scheduler : Scheduler) (place : Place) (tier : Tier) (now : Nanos)
    (event : Event) : Option Place :=
  place.followAll scheduler.queues tier (scheduler.operations now event)

/-- Where the entry at a place in the lane of a tier is after a history, none if one of the events
removed it. -/
def follow (scheduler : Scheduler) (place : Place) (tier : Tier) :
    List (Nanos × Event) → Option Place
  | [] => some place
  | (now, event) :: later =>
    match scheduler.followEvent place tier now event with
    | none => none
    | some next => (scheduler.handle now event).scheduler.follow next tier later

/-- How an event removes an entry from the lane of a tier. -/
inductive Removal (scheduler : Scheduler) (tier : Tier) (entry : Entry) : Event → Prop where
  | handedOut (unit : Nat) (live : scheduler.roster.Live entry)
      (taken : (draw scheduler.queues scheduler.roster).taken = some (tier, entry)) :
      Removal scheduler tier entry (.dispatch unit)
  | discarded (unit : Nat) (stale : ¬scheduler.roster.Live entry)
      (member : entry ∈ (draw scheduler.queues scheduler.roster).stale) :
      Removal scheduler tier entry (.dispatch unit)
  | started (unit : Nat)
      (waits : (scheduler.profile? entry.task).bind Profile.waitsIn = some tier) :
      Removal scheduler tier entry (.start unit entry.task)
  | exited : Removal scheduler tier entry (.exit entry.task)

variable {scheduler : Scheduler} {place next : Place} {tier : Tier} {now : Nanos} {event : Event}

theorem lane_followEvent (located : place.lane = scheduler.queues.entries tier)
    (followed : scheduler.followEvent place tier now event = some next) :
    next.entry = place.entry ∧
      next.lane = (scheduler.handle now event).scheduler.queues.entries tier := by
  rw [queues_handle]
  exact Place.lane_followAll located followed

theorem lane_follow {history : List (Nanos × Event)}
    (located : place.lane = scheduler.queues.entries tier)
    (followed : scheduler.follow place tier history = some next) :
    next.entry = place.entry ∧ next.lane = (scheduler.after history).queues.entries tier := by
  induction history generalizing scheduler place with
  | nil =>
      rw [← Option.some.inj followed]
      exact ⟨rfl, located⟩
  | cons reported later ih =>
      simp only [follow] at followed
      split at followed
      · contradiction
      · rename_i moved movedEq
        rcases lane_followEvent located movedEq with ⟨entry_eq, movedLocated⟩
        rcases ih movedLocated followed with ⟨lastEntry_eq, lastLocated⟩
        exact ⟨lastEntry_eq.trans entry_eq, lastLocated⟩

end Scheduler

/-- A search that takes an entry from its place handed it out, or discarded it because it was stale. -/
theorem removed_of_draw (queues : ReadyQueues) (roster : Roster) {place : Place} {tier : Tier}
    (located : place.lane = queues.entries tier)
    (removed : place.followAll queues tier
      (List.replicate ((draw queues roster).stale.length + 1) .pop) = none) :
    (roster.Live place.entry ∧ (draw queues roster).taken = some (tier, place.entry)) ∨
      (¬roster.Live place.entry ∧ place.entry ∈ (draw queues roster).stale) := by
  induction queues, roster using draw_induction generalizing place with
  | exhausted queues roster rest popped =>
      exfalso
      simp [Place.followAll, Place.follow, popped] at removed
  | found queues roster rest source entry popped live =>
      left
      have gone : place.follow queues tier .pop = none := by
        cases followed : place.follow queues tier .pop with
        | none => rfl
        | some next => simp [Place.followAll, followed] at removed
      rcases Place.removed_of_follow located gone with ⟨_, _, taken⟩ | impossible
      · rw [popped, Option.some.injEq, Prod.mk.injEq] at taken
        rcases taken with ⟨rfl, rfl⟩
        exact ⟨live, rfl⟩
      · contradiction
  | discarded queues roster rest source entry further popped stale ih =>
      cases followed : place.follow queues tier .pop with
      | none =>
          right
          rcases Place.removed_of_follow located followed with ⟨_, _, taken⟩ | impossible
          · rw [popped, Option.some.injEq, Prod.mk.injEq] at taken
            rcases taken with ⟨rfl, rfl⟩
            exact ⟨stale, by simp⟩
          · contradiction
      | some next =>
          rcases Place.lane_follow located followed with ⟨entry_eq, nextLocated⟩
          rw [ReadyQueues.perform, popped] at nextLocated
          rw [List.length_cons, List.replicate_succ, Place.followAll, followed] at removed
          simp only [ReadyQueues.perform, popped] at removed
          have later := ih nextLocated removed
          rw [entry_eq, Roster.live_claim_of_not_live stale] at later
          rcases later with handedOut | ⟨notLive, member⟩
          · exact Or.inl handedOut
          · exact Or.inr ⟨notLive, List.mem_cons_of_mem _ member⟩

namespace Scheduler

variable {scheduler : Scheduler} {place next : Place} {tier : Tier} {now : Nanos} {event : Event}

theorem removal_of_followEvent (located : place.lane = scheduler.queues.entries tier)
    (removed : scheduler.followEvent place tier now event = none) :
    scheduler.Removal tier place.entry event := by
  by_cases supply : ∃ unit, event = .dispatch unit
  · rcases supply with ⟨unit, rfl⟩
    rcases removed_of_draw _ _ located removed with ⟨live, taken⟩ | ⟨stale, member⟩
    · exact .handedOut unit live taken
    · exact .discarded unit stale member
  · -- nothing but a search makes attempts, so the entry was dropped with its task
    rcases Place.removed_of_followAll removed with
      ⟨earlier, operation, later, last, operations_eq, followed, gone⟩
    rcases Place.lane_followAll located followed with ⟨entry_eq, lastLocated⟩
    have member : operation ∈ scheduler.operations now event := by
      rw [operations_eq]
      simp
    rcases Place.removed_of_follow lastLocated gone with ⟨rfl, _⟩ | rfl
    · have cause := causes_of_mem_operations member
      cases event with
      | dispatch unit => exact absurd ⟨unit, rfl⟩ supply
      | _ => exact cause.elim
    · rw [entry_eq] at member
      cases event with
      | enqueue task flags => simp [operations] at member
      | dispatch unit => exact absurd ⟨unit, rfl⟩ supply
      | start unit task =>
          simp only [operations, List.mem_map, Option.mem_toList,
            ReadyQueues.Operation.drop.injEq] at member
          rcases member with ⟨source, waits, rfl, rfl⟩
          exact .started unit waits
      | exit task =>
          simp only [operations, List.mem_map, ReadyQueues.Operation.drop.injEq] at member
          rcases member with ⟨source, _, _, rfl⟩
          exact .exited
      | _ => simp [operations] at member

/-- An entry that is gone at the end of a history was removed by one of its events. -/
theorem removed_of_follow {history : List (Nanos × Event)}
    (gone : scheduler.follow place tier history = none) :
    ∃ earlier now event later last, history = earlier ++ (now, event) :: later ∧
      scheduler.follow place tier earlier = some last ∧
        (scheduler.after earlier).followEvent last tier now event = none := by
  induction history generalizing scheduler place with
  | nil => contradiction
  | cons reported later ih =>
      rcases reported with ⟨now, event⟩
      simp only [follow] at gone
      split at gone
      · rename_i removed
        exact ⟨[], now, event, later, place, rfl, rfl, removed⟩
      · rename_i next followed
        rcases ih gone with ⟨earlier, reading, removing, rest, last, rfl, kept, removed⟩
        refine ⟨(now, event) :: earlier, reading, removing, rest, last, rfl, ?_, removed⟩
        simp only [follow, followed]
        exact kept

theorem weight_dispatch_lt {scheduler : Scheduler} (consistent : scheduler.queues.Consistent)
    (unit : Nat)
    (remains : (scheduler.dispatch unit).scheduler.queues.entries tier ≠ []) :
    (scheduler.dispatch unit).scheduler.queues.weight < scheduler.queues.weight := by
  have sound := draw_sound scheduler.queues scheduler.roster
  rw [queues_dispatch] at remains ⊢
  have weight_eq := sound.weight_eq
  cases taken : (draw scheduler.queues scheduler.roster).taken with
  | none => exact absurd (sound.exhausted consistent taken tier) remains
  | some found =>
      rw [taken, Option.toList_some, List.length_singleton] at weight_eq
      omega

/-- Units that ask for work more often than there are entries have taken every one of them. -/
theorem follow_dispatches_eq_none (now : Nanos) (consistent : scheduler.queues.Consistent)
    (located : place.lane = scheduler.queues.entries tier) (units : List Nat)
    (enough : scheduler.queues.weight < units.length) :
    scheduler.follow place tier (units.map fun unit => (now, .dispatch unit)) = none := by
  induction units generalizing scheduler place with
  | nil => simp at enough
  | cons unit others ih =>
      simp only [List.map_cons, follow]
      split
      · rfl
      · rename_i next followed
        rcases lane_followEvent located followed with ⟨_, nextLocated⟩
        have remains : (scheduler.dispatch unit).scheduler.queues.entries tier ≠ [] := by
          intro empty
          have lane_eq : next.lane = [] := nextLocated.trans empty
          simp [Place.lane] at lane_eq
        have lighter := weight_dispatch_lt consistent unit remains
        refine ih (consistent_handle consistent now (.dispatch unit)) nextLocated ?_
        rw [List.length_cons] at enough
        change (scheduler.dispatch unit).scheduler.queues.weight < others.length
        omega

end Scheduler

end TierSched
