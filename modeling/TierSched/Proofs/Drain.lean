import Mathlib.Data.List.Perm.Basic
import TierSched.Proofs.Ownership
import TierSched.Proofs.QueueStep

/-!
# Draining the queues

Units that ask for work one after the other are handed the live entries, each of them once, and then
nothing. A search discards stale entries only, so it passes over no live one; and it changes no entry
of another task from live to stale or back, since it changes one profile at most.

That an entry is not handed out twice rests on the order of the generations. Behind the entry that a
tracked task waits with there is no other one of the same generation, so giving up this one entry
gives up no second one with it.
-/

namespace TierSched

namespace ReadyQueues

/-- The live entries of all lanes, each with the tier in which it waits. -/
def live (queues : ReadyQueues) (roster : Roster) : List (Tier × Entry) :=
  Tier.all.flatMap fun tier =>
    ((queues.entries tier).filter fun entry => roster.Live entry).map fun entry => (tier, entry)

theorem mem_live {queues : ReadyQueues} {roster : Roster} {found : Tier × Entry} :
    found ∈ queues.live roster ↔
      found.2 ∈ queues.entries found.1 ∧ roster.Live found.2 := by
  rcases found with ⟨source, entry⟩
  simp only [live, List.mem_flatMap, List.mem_map, List.mem_filter, decide_eq_true_eq]
  constructor
  · rintro ⟨tier, _, other, waits, same⟩
    rcases Prod.mk.inj same with ⟨rfl, rfl⟩
    exact waits
  · intro waits
    exact ⟨source, Tier.mem_all source, entry, waits, rfl⟩

theorem live_eq_nil_of_entries {queues : ReadyQueues} {roster : Roster}
    (stale : ∀ tier, ∀ entry ∈ queues.entries tier, ¬roster.Live entry) :
    queues.live roster = [] := by
  rw [List.eq_nil_iff_forall_not_mem]
  intro found member
  rcases mem_live.mp member with ⟨waits, live⟩
  exact stale found.1 found.2 waits live

end ReadyQueues

namespace Draw.Sound

variable {queues : ReadyQueues} {roster : Roster} {drawn : Draw}

theorem mem_live_of_taken (sound : drawn.Sound queues roster) {found : Tier × Entry}
    (taken : drawn.taken = some found) : found ∈ queues.live roster := by
  rcases found with ⟨source, entry⟩
  exact ReadyQueues.mem_live.mpr ⟨sound.mem_of_taken taken, sound.live source entry taken⟩

/-- A search is without result exactly if there is nothing live to find. -/
theorem taken_eq_none_iff (sound : drawn.Sound queues roster) (consistent : queues.Consistent) :
    drawn.taken = none ↔ queues.live roster = [] := by
  constructor
  · intro nothing
    apply ReadyQueues.live_eq_nil_of_entries
    intro tier entry member
    rcases sound.entries_eq tier with ⟨discarded, allStale, split⟩
    rw [split, sound.exhausted consistent nothing tier] at member
    apply allStale entry
    simpa [Draw.takenFrom, nothing] using member
  · intro empty
    cases taken : drawn.taken with
    | none => rfl
    | some found =>
        have member := sound.mem_live_of_taken taken
        rw [empty] at member
        contradiction

theorem live_before (sound : drawn.Sound queues roster) {entry : Entry}
    (live : drawn.roster.Live entry) : roster.Live entry := by
  have get?_eq := sound.get?_eq entry.task
  split at get?_eq
  · cases found : roster.get? entry.task with
    | none =>
        rw [found, Option.map_none] at get?_eq
        exact (Roster.live_congr (get?_eq.trans found.symm)).mp live
    | some profile =>
        rw [found, Option.map_some] at get?_eq
        have owns := (Roster.live_iff_of_tracked get?_eq).mp live
        exact absurd rfl owns.2.1
  · exact (Roster.live_congr get?_eq).mp live

theorem live_after (sound : drawn.Sound queues roster) {entry : Entry}
    (other : drawn.task? ≠ some entry.task) (live : roster.Live entry) :
    drawn.roster.Live entry := by
  have get?_eq := sound.get?_eq entry.task
  rw [if_neg other] at get?_eq
  exact (Roster.live_congr get?_eq).mpr live

/-- What is live after a search was live before it. -/
theorem live_subset (sound : drawn.Sound queues roster) {found : Tier × Entry}
    (remains : found ∈ drawn.queues.live drawn.roster) : found ∈ queues.live roster := by
  rcases ReadyQueues.mem_live.mp remains with ⟨waits, live⟩
  exact ReadyQueues.mem_live.mpr ⟨sound.mem_of_remains waits, sound.live_before live⟩

/-- A live entry of a task that is not found is still there and still live. -/
theorem live_remains (sound : drawn.Sound queues roster) {found : Tier × Entry}
    (member : found ∈ queues.live roster) (other : drawn.task? ≠ some found.2.task) :
    found ∈ drawn.queues.live drawn.roster := by
  rcases ReadyQueues.mem_live.mp member with ⟨waits, live⟩
  refine ReadyQueues.mem_live.mpr ⟨?_, sound.live_after other live⟩
  rcases sound.entries_eq found.1 with ⟨discarded, allStale, split⟩
  rw [split] at waits
  rcases List.mem_append.mp waits with gone | remains
  · rcases List.mem_append.mp gone with discardedMem | takenMem
    · exact absurd live (allStale found.2 discardedMem)
    · exfalso
      apply other
      rw [Draw.task?, Draw.mem_takenFrom.mp takenMem]
      rfl
  · exact remains

/-- No entry that is left belongs to the task that was found and is the one it waited with. -/
def Last (queues : ReadyQueues) (roster : Roster) (task? : Option TaskId) : Prop :=
  ∀ tier, ∀ entry ∈ queues.entries tier, task? = some entry.task →
    roster.get? entry.task ≠ none → ¬roster.Live entry

theorem live_iff_of_last (sound : drawn.Sound queues roster)
    (last : Last drawn.queues roster drawn.task?) {tier : Tier} {entry : Entry}
    (remains : entry ∈ drawn.queues.entries tier) :
    roster.Live entry ↔ drawn.roster.Live entry := by
  refine ⟨?_, sound.live_before⟩
  intro live
  by_cases own : drawn.task? = some entry.task
  · cases found : roster.get? entry.task with
    | none =>
        have get?_eq := sound.get?_eq entry.task
        rw [if_pos own, found, Option.map_none] at get?_eq
        exact (Roster.live_congr (get?_eq.trans found.symm)).mpr live
    | some profile => exact absurd live (last tier entry remains own (by simp [found]))
  · exact sound.live_after own live

theorem filter_live_eq (sound : drawn.Sound queues roster)
    (last : Last drawn.queues roster drawn.task?) (tier : Tier) :
    (queues.entries tier).filter (fun entry => roster.Live entry) =
      drawn.takenFrom tier ++
        (drawn.queues.entries tier).filter fun entry => drawn.roster.Live entry := by
  rcases sound.entries_eq tier with ⟨discarded, allStale, split⟩
  have discarded_eq : discarded.filter (fun entry => roster.Live entry) = [] := by
    rw [List.filter_eq_nil_iff]
    intro entry member
    simpa using allStale entry member
  have taken_eq : (drawn.takenFrom tier).filter (fun entry => roster.Live entry) =
      drawn.takenFrom tier := by
    rw [List.filter_eq_self]
    intro entry member
    exact decide_eq_true (sound.live tier entry (Draw.mem_takenFrom.mp member))
  have rest_eq : (drawn.queues.entries tier).filter (fun entry => roster.Live entry) =
      (drawn.queues.entries tier).filter fun entry => drawn.roster.Live entry := by
    apply List.filter_congr
    intro entry remains
    exact decide_eq_decide.mpr (sound.live_iff_of_last last remains)
  rw [split, List.filter_append, List.filter_append, discarded_eq, taken_eq, rest_eq,
    List.nil_append]

/-- A search takes one live entry away and leaves all other live entries. -/
theorem live_perm (sound : drawn.Sound queues roster)
    (last : Last drawn.queues roster drawn.task?) :
    (queues.live roster).Perm (drawn.taken.toList ++ drawn.queues.live drawn.roster) := by
  have taken_eq : (Tier.all.flatMap fun tier =>
      (drawn.takenFrom tier).map fun entry => (tier, entry)) = drawn.taken.toList := by
    simp only [Draw.takenFrom]
    cases drawn.taken with
    | none => rfl
    | some found =>
        rcases found with ⟨source, entry⟩
        cases source <;> rfl
  have split : queues.live roster = Tier.all.flatMap fun tier =>
      ((drawn.takenFrom tier).map fun entry => (tier, entry)) ++
        ((drawn.queues.entries tier).filter fun entry => drawn.roster.Live entry).map
          fun entry => (tier, entry) := by
    simp only [ReadyQueues.live, sound.filter_live_eq last, List.map_append]
  rw [split, ← taken_eq]
  exact (List.flatMap_append_perm Tier.all _ _).symm

end Draw.Sound

/-- The assignment of an entry that is handed out. -/
def Assignment.ofFound (found : Tier × Entry) : Assignment :=
  ⟨found.2.task, found.2.slice, found.1⟩

namespace Scheduler

/-- The live entries in the queues of a scheduler. -/
def liveEntries (scheduler : Scheduler) : List (Tier × Entry) :=
  scheduler.queues.live scheduler.roster

/-- What units are handed that ask for work one after the other. -/
def handOuts (scheduler : Scheduler) : List Nat → List (Option Assignment)
  | [] => []
  | unit :: others =>
    (scheduler.dispatch unit).reply :: (scheduler.dispatch unit).scheduler.handOuts others

/-- Units that ask for work often enough are handed the live entries, each of them once and in some
order, and then nothing. -/
def HandsOutLive (scheduler : Scheduler) : Prop :=
  ∀ units : List Nat, scheduler.liveEntries.length ≤ units.length →
    ∃ served : List (Tier × Entry), served.Perm scheduler.liveEntries ∧
      scheduler.handOuts units =
        served.map (fun found => some (Assignment.ofFound found)) ++
          List.replicate (units.length - served.length) none

/-- What supplying one unit does to the queues. -/
structure Supplied (scheduler : Scheduler) (outcome : Outcome (Option Assignment)) : Prop where
  handsOut_iff : outcome.reply.isSome ↔
    ∃ tier, ∃ entry ∈ scheduler.queues.entries tier, scheduler.roster.Live entry
  /-- The entries that are removed are stale, except for the one that is handed out. -/
  removed : ∃ taken : Option (Tier × Entry), outcome.reply = taken.map Assignment.ofFound ∧
    (∀ found, taken = some found → scheduler.roster.Live found.2) ∧
      ∀ tier, ∃ discarded, (∀ entry ∈ discarded, ¬scheduler.roster.Live entry) ∧
        scheduler.queues.entries tier =
          discarded ++ (taken.toList.filter fun found => found.1 = tier).map Prod.snd ++
            outcome.scheduler.queues.entries tier
  emptied : outcome.reply = none → ∀ tier, outcome.scheduler.queues.entries tier = []
  /-- The search ends after one attempt for each entry at the latest, and one more. -/
  attempts_eq : ∃ attempts ≤ scheduler.queues.weight + 1,
    outcome.scheduler.queues.attempts = scheduler.queues.attempts + .ofNat attempts

theorem liveEntries_dispatch (scheduler : Scheduler) (unit : Nat) :
    (scheduler.dispatch unit).scheduler.liveEntries =
      (draw scheduler.queues scheduler.roster).queues.live
        (draw scheduler.queues scheduler.roster).roster := by
  rw [liveEntries, queues_dispatch, roster_dispatch]

theorem supplied_dispatch {scheduler : Scheduler} (consistent : scheduler.queues.Consistent)
    (unit : Nat) : scheduler.Supplied (scheduler.dispatch unit) := by
  have sound := draw_sound scheduler.queues scheduler.roster
  refine ⟨?_, ?_, ?_, ?_⟩
  · rw [reply_dispatch, Option.isSome_map]
    constructor
    · intro isSome
      rcases Option.isSome_iff_exists.mp isSome with ⟨found, taken⟩
      rcases ReadyQueues.mem_live.mp (sound.mem_live_of_taken taken) with ⟨waits, live⟩
      exact ⟨found.1, found.2, waits, live⟩
    · rintro ⟨tier, entry, waits, live⟩
      have member : (tier, entry) ∈ scheduler.queues.live scheduler.roster :=
        ReadyQueues.mem_live.mpr ⟨waits, live⟩
      rw [Option.isSome_iff_ne_none]
      intro nothing
      rw [(sound.taken_eq_none_iff consistent).mp nothing] at member
      contradiction
  · refine ⟨(draw scheduler.queues scheduler.roster).taken, reply_dispatch scheduler unit, ?_, ?_⟩
    · intro found taken
      exact sound.live found.1 found.2 taken
    · intro tier
      rw [queues_dispatch]
      rcases sound.entries_eq tier with ⟨discarded, allStale, split⟩
      refine ⟨discarded, allStale, split.trans ?_⟩
      congr 2
      simp only [Draw.takenFrom]
      cases (draw scheduler.queues scheduler.roster).taken with
      | none => rfl
      | some found =>
          rcases found with ⟨source, entry⟩
          by_cases same : source = tier
          · simp [same]
          · simp [same]
  · intro nothing tier
    rw [queues_dispatch]
    rw [reply_dispatch, Option.map_eq_none_iff] at nothing
    exact sound.exhausted consistent nothing tier
  · rw [queues_dispatch]
    refine ⟨_, ?_, sound.attempts_eq⟩
    have weight_eq := sound.weight_eq
    omega

end Scheduler

namespace Execution

/-- The execution that goes on with one request for work. -/
def supply (execution : Execution) (unit : Nat) : Execution :=
  execution.extend [(0, .dispatch unit)]

theorem scheduler_supply (execution : Execution) (unit : Nat) :
    (execution.supply unit).scheduler = (execution.scheduler.dispatch unit).scheduler :=
  execution.scheduler_extend [(0, .dispatch unit)]

theorem enqueues_supply (execution : Execution) (unit : Nat) :
    (execution.supply unit).enqueues = execution.enqueues :=
  execution.enqueues_extend [(0, .dispatch unit)]

/-- The entry that is handed out for a tracked task is the only live one of this task. -/
theorem last_of_draw (execution : Execution) (few : execution.enqueues < UInt32.size - 1)
    (drawn : Draw) (drawn_eq : draw execution.scheduler.queues execution.scheduler.roster = drawn) :
    Draw.Sound.Last drawn.queues execution.scheduler.roster drawn.task? := by
  have sound := draw_sound execution.scheduler.queues execution.scheduler.roster
  rw [drawn_eq] at sound
  intro tier entry remains own tracked live
  rcases Option.ne_none_iff_exists'.mp tracked with ⟨profile, found⟩
  have owns := (Roster.live_iff_of_tracked found).mp live
  have issued := ((execution.invariant entry.task).backed profile found).issued owns.2.1
  -- after the search the task waits nowhere, so only entries of untracked times are left of it
  have filed := ((execution.supply 0).invariant entry.task).filed (by rwa [enqueues_supply])
  have after_eq := sound.get?_eq entry.task
  rw [if_pos own, found, Option.map_some] at after_eq
  rw [scheduler_supply, Scheduler.view, Scheduler.profile?_dispatch, Scheduler.queues_dispatch,
    drawn_eq, after_eq] at filed
  have zero := filed.eq_untracked rfl (ReadyQueues.mem_waiting.mpr ⟨remains, rfl⟩)
  exact issued (owns.2.2.trans zero)

theorem handsOutLive (execution : Execution) (few : execution.enqueues < UInt32.size - 1) :
    execution.scheduler.HandsOutLive := by
  intro units enough
  induction units generalizing execution with
  | nil =>
      refine ⟨[], ?_, rfl⟩
      rw [List.eq_nil_of_length_eq_zero (Nat.le_zero.mp enough)]
  | cons unit others ih =>
      have sound := draw_sound execution.scheduler.queues execution.scheduler.roster
      have perm : execution.scheduler.liveEntries.Perm _ :=
        sound.live_perm (execution.last_of_draw few _ rfl)
      rw [← Scheduler.liveEntries_dispatch execution.scheduler unit] at perm
      have next := ih (execution.supply unit) (by rwa [enqueues_supply])
      rw [scheduler_supply] at next
      simp only [Scheduler.handOuts, Scheduler.reply_dispatch]
      cases taken : (draw execution.scheduler.queues execution.scheduler.roster).taken with
      | none =>
          have empty := (sound.taken_eq_none_iff execution.consistent).mp taken
          change execution.scheduler.liveEntries = [] at empty
          rw [taken, empty] at perm
          have nextEmpty : (execution.scheduler.dispatch unit).scheduler.liveEntries = [] :=
            perm.symm.eq_nil
          rcases next (by simp [nextEmpty]) with ⟨served, servedPerm, next_eq⟩
          rw [nextEmpty] at servedPerm
          rw [next_eq, servedPerm.eq_nil]
          exact ⟨[], by rw [empty], rfl⟩
      | some found =>
          rw [taken] at perm
          have length_eq := perm.length_eq
          simp only [Option.toList_some, List.singleton_append, List.length_cons] at length_eq
          rw [List.length_cons] at enough
          rcases next (by omega) with ⟨served, servedPerm, next_eq⟩
          refine ⟨found :: served, ?_, ?_⟩
          · exact (servedPerm.cons found).trans perm.symm
          · rw [next_eq, List.length_cons, List.length_cons, Nat.add_sub_add_right]
            rfl

/-- As long as the generations have not started again from one, a unit that asks for work is handed
a live entry if there is one, at the cost of stale entries only, and units that keep asking are
handed exactly the live entries. -/
theorem drain (execution : Execution) (few : execution.enqueues < UInt32.size - 1) :
    (∀ unit, execution.scheduler.Supplied (execution.scheduler.dispatch unit)) ∧
      execution.scheduler.HandsOutLive :=
  ⟨fun unit => Scheduler.supplied_dispatch execution.consistent unit, execution.handsOutLive few⟩

/-- A stale entry in front of two live ones. -/
theorem drain_of_woken_while_waiting :
    let execution := ofHistory
      [(1000, .enqueue 1 ⟨true, false, false⟩), (2000, .wake 1 none ⟨false, false⟩),
        (3000, .enqueue 2 ⟨true, false, false⟩), (4000, .enqueue 1 ⟨true, false, false⟩)]
    execution.enqueues < UInt32.size - 1 ∧
      (execution.scheduler.liveEntries.map fun found => (found.2.task, found.2.generation)) =
        [(2, 1), (1, 2)] ∧
        (∀ unit, execution.scheduler.Supplied (execution.scheduler.dispatch unit)) ∧
          execution.scheduler.HandsOutLive := by
  intro execution
  have few : execution.enqueues < UInt32.size - 1 := by decide
  refine ⟨few, ?_, execution.drain few⟩
  decide +kernel

end Execution

end TierSched
