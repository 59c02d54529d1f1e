import TierSched.Proofs.Counting
import TierSched.Proofs.Course
import TierSched.Proofs.Directory
import TierSched.Proofs.Drain
import TierSched.Proofs.Isolation
import TierSched.Proofs.OccupancyStep
import TierSched.Proofs.Removal

/-!
# A full roster

When the roster has no room for a task, the callbacks treat the task as an interactive one with the bare
quantum. They take nothing away from the tasks that are tracked and leave a mark in one counter only.
`Scheduler.TurnsAway` says this for each callback.

An entry that was pushed in this way carries no generation. It is live as long as its task is not
tracked, and stale from the moment in which there is room after all, because a tracked task waits with
an entry of its own generation only. `Scheduler.Unclaimed` says what becomes of such an entry.
-/

namespace TierSched

namespace Scheduler

/-- The tasks of a scheduler were left alone, and one refusal was counted. -/
structure FailsClosed (before after : Scheduler) : Prop where
  roster_eq : after.roster = before.roster
  fallbacks_eq : after.statistics.summary.fallbacks =
    before.statistics.summary.fallbacks + if before.config.statisticsEnabled then 1 else 0

/-- What the callbacks do about a task for which there is no room. -/
structure TurnsAway (scheduler : Scheduler) (now : Nanos) (task : TaskId) : Prop where
  wake_closed : ∀ previous flags,
    scheduler.FailsClosed (scheduler.wake now task previous flags).scheduler
  /-- A unit is chosen as for an interactive task. -/
  wake_eq : ∀ previous flags,
    let placed := scheduler.place now task previous flags .interactive scheduler.config.quantum
    (scheduler.wake now task previous flags).reply = placed.reply ∧
      placed.reply.slice = scheduler.config.quantum ∧
      (scheduler.wake now task previous flags).kicks = placed.kicks ∧
      (scheduler.wake now task previous flags).scheduler.occupancy = placed.scheduler.occupancy
  /-- The choice is the one that would be made for any tracked interactive task. -/
  wake_alike : ∀ previous flags other profile, scheduler.profile? other = some profile →
    profile.tier = .interactive →
    let reference := scheduler.wake now other previous flags
    (scheduler.wake now task previous flags).reply =
        { reference.reply with slice := scheduler.config.quantum } ∧
      (scheduler.wake now task previous flags).kicks = reference.kicks ∧
      (scheduler.wake now task previous flags).scheduler.occupancy = reference.scheduler.occupancy
  enqueue_closed : ∀ flags,
    scheduler.FailsClosed (scheduler.enqueue now task flags).scheduler
  enqueue_entries : ∀ flags tier,
    (scheduler.enqueue now task flags).scheduler.queues.entries tier =
      scheduler.queues.entries tier ++
        if tier = .interactive then [⟨task, scheduler.config.quantum, Generation.untracked⟩]
        else []
  start_closed : ∀ unit,
    scheduler.FailsClosed (scheduler.start now unit task).scheduler
  start_running : ∀ unit,
    let started := (scheduler.start now unit task).scheduler
    started.occupancy = (scheduler.occupancy.reportRunning unit .interactive).2 ∧
      (unit < scheduler.config.units → started.occupancy.running? unit = some .interactive)
  stop_eq : ∀ unit requeue,
    scheduler.stop now unit task requeue = { reply := (), scheduler }
  tick_eq : ∀ unit, scheduler.tick now unit task = { reply := (), scheduler }

/-- What becomes of an entry that was pushed for a task without room. -/
structure Unclaimed (scheduler : Scheduler) (task : TaskId) (slice : Nanos) (place : Place) :
    Prop where
  entry_eq : place.entry = ⟨task, slice, Generation.untracked⟩
  located : place.lane = scheduler.queues.entries .interactive
  /-- A search that takes it hands the task out if the task is still not tracked. -/
  handedOut : scheduler.profile? task = none → ∀ now unit,
    scheduler.followEvent place .interactive now (.dispatch unit) = none →
      (scheduler.dispatch unit).reply = some ⟨task, slice, .interactive⟩
  /-- Units that keep asking for work reach it. -/
  reached : scheduler.profile? task = none → ∀ now units,
    scheduler.queues.weight < units.length →
      ∃ earlier unit later, units = earlier ++ unit :: later ∧
        ((scheduler.after (earlier.map fun unit => (now, .dispatch unit))).dispatch unit).reply =
          some ⟨task, slice, .interactive⟩
  /-- A search that takes it discards it if the task is tracked. The profile stays as it is, unless
  the same search goes on to hand the task out with an entry of its own. -/
  discarded : ∀ profile, scheduler.profile? task = some profile → ∀ now unit,
    scheduler.followEvent place .interactive now (.dispatch unit) = none →
      Notice.staleEntry task ∈ (scheduler.dispatch unit).notices ∧
        (scheduler.dispatch unit).scheduler.profile? task =
          if (scheduler.dispatch unit).reply.map Assignment.task = some task then
            some { profile with waitsIn := none }
          else some profile
  /-- Apart from searches, only a start of the task while it waits in the same lane and an exit of
  the task take the entry away. -/
  dropped : ∀ now event, scheduler.followEvent place .interactive now event = none →
    (∃ unit, event = .dispatch unit) ∨
      (∃ unit, event = .start unit task ∧
        (scheduler.profile? task).bind Profile.waitsIn = some .interactive) ∨
      event = .exit task

section Placement

variable (scheduler : Scheduler) (now : Nanos) (task : TaskId)

theorem slice_place (previous : Option Nat) (flags : WakeFlags) (tier : Tier) (slice : Nanos) :
    (scheduler.place now task previous flags tier slice).reply.slice = slice := by
  rcases taken : scheduler.occupancy.takeIdle (scheduler.topology.preferences
      (if flags.fork then none else previous) tier) with ⟨_ | unit, occupancy⟩
  · simp only [place, taken, Outcome.reply_andThen]
    split <;> rfl
  · simp only [place, taken]

/-- The choice of a unit depends on the occupancy and on the tier, not on the task. -/
theorem place_congr (now : Nanos) {left right : Scheduler} (config_eq : left.config = right.config)
    (topology_eq : left.topology = right.topology)
    (occupancy_eq : left.occupancy = right.occupancy) (first second : TaskId)
    (previous : Option Nat) (flags : WakeFlags) (tier : Tier) (slice other : Nanos) :
    (left.place now first previous flags tier slice).reply =
        { (right.place now second previous flags tier other).reply with slice } ∧
      (left.place now first previous flags tier slice).kicks =
        (right.place now second previous flags tier other).kicks ∧
      (left.place now first previous flags tier slice).scheduler.occupancy =
        (right.place now second previous flags tier other).scheduler.occupancy := by
  rcases taken : right.occupancy.takeIdle (right.topology.preferences
      (if flags.fork then none else previous) tier) with ⟨_ | unit, occupancy⟩
  · by_cases sync : flags.sync = true
    · simp [place, config_eq, topology_eq, occupancy_eq, taken, sync]
    · rcases chosen : right.occupancy.chooseVictim tier now with ⟨_ | victim, searched⟩
      · simp [place, kickVictim, config_eq, topology_eq, occupancy_eq, taken, sync, chosen]
      · simp [place, kickVictim, markKickedOnWake, count, topology_eq, occupancy_eq, taken, sync,
          chosen]
  · simp [place, topology_eq, occupancy_eq, taken, count]

/-- A woken task is placed by its tier and its slice, whatever else is known about it. -/
theorem wake_eq_place (previous : Option Nat) (flags : WakeFlags) (tier : Tier) (slice : Nanos)
    (woken : ((scheduler.observed? task).map fun profile => (profile.tier, profile.slice)).getD
      (.interactive, scheduler.config.quantum) = (tier, slice)) :
    let placed := scheduler.place now task previous flags tier slice
    (scheduler.wake now task previous flags).reply = placed.reply ∧
      (scheduler.wake now task previous flags).kicks = placed.kicks ∧
      (scheduler.wake now task previous flags).scheduler.occupancy =
        placed.scheduler.occupancy := by
  intro placed
  have woken_eq := (scheduler.reply_observe task (previous.getD 0)
    (fun profile => profile.wake now) (.interactive, scheduler.config.quantum)).trans woken
  rcases place_congr now (scheduler.config_observe task (previous.getD 0) _ _)
    (scheduler.topology_observe task (previous.getD 0) _ _)
    (scheduler.occupancy_observe task (previous.getD 0) (fun profile => profile.wake now)
      (.interactive, scheduler.config.quantum)) task task previous flags tier slice slice with
    ⟨reply_eq, kicks_eq, occupancy_eq⟩
  have slice_eq : placed.reply.slice = slice :=
    scheduler.slice_place now task previous flags tier slice
  simp only [wake, Outcome.reply_andThen, Outcome.kicks_andThen, Outcome.scheduler_andThen,
    kicks_observe, List.nil_append, woken_eq]
  refine ⟨reply_eq.trans ?_, kicks_eq, occupancy_eq⟩
  exact congrArg (fun given => { placed.reply with slice := given }) slice_eq.symm

end Placement

section Refused

variable {scheduler : Scheduler} {task : TaskId} (now : Nanos)

theorem updateOrInsert_of_refused {Report : Type} (refused : scheduler.observed? task = none)
    (change : Profile → Report × Profile) :
    (scheduler.roster.updateOrInsert task scheduler.freshProfile change).2 =
      scheduler.roster := by
  have untracked := profile?_eq_none_of_observed? refused
  rw [observed?, untracked] at refused
  change scheduler.roster.get? task = none at untracked
  by_cases full : scheduler.roster.capacity ≤ scheduler.roster.count
  · simp [Roster.updateOrInsert, untracked, full]
  · simp [full] at refused

theorem update_of_untracked {Report : Type} (untracked : scheduler.profile? task = none)
    (change : Profile → Report × Profile) :
    scheduler.roster.update task change = (none, scheduler.roster) := by
  change scheduler.roster.get? task = none at untracked
  simp [Roster.update, untracked]

theorem failsClosed_of_event (event : Event) (refused : scheduler.observed? task = none)
    (enabled_eq : scheduler.statistics.enabled = scheduler.config.statisticsEnabled)
    (observes : event.observes? = some task)
    (roster_eq : (scheduler.handle now event).scheduler.roster = scheduler.roster) :
    scheduler.FailsClosed (scheduler.handle now event).scheduler := by
  refine ⟨roster_eq, ?_⟩
  rw [fallbacks_handle, enabled_eq]
  simp [observes, refused]

theorem roster_wake_of_refused (refused : scheduler.observed? task = none)
    (previous : Option Nat) (flags : WakeFlags) :
    (scheduler.wake now task previous flags).scheduler.roster = scheduler.roster := by
  have untracked := profile?_eq_none_of_observed? refused
  have roster_eq : (scheduler.observe task (previous.getD 0) (fun profile => profile.wake now)
      (.interactive, scheduler.config.quantum)).scheduler.roster = scheduler.roster := by
    rw [roster_observe, updateOrInsert_of_refused refused]
  simp only [wake, Outcome.scheduler_andThen, roster_place]
  split
  · exact roster_eq
  · rw [markKickedOnWake, roster_eq, update_of_untracked untracked]

/-- The choice of a unit for the task is the one for a tracked interactive task. -/
theorem wake_alike_of_refused (refused : scheduler.observed? task = none)
    (previous : Option Nat) (flags : WakeFlags) {other : TaskId} {profile : Profile}
    (tracked : scheduler.profile? other = some profile) (interactive : profile.tier = .interactive) :
    let reference := scheduler.wake now other previous flags
    (scheduler.wake now task previous flags).reply =
        { reference.reply with slice := scheduler.config.quantum } ∧
      (scheduler.wake now task previous flags).kicks = reference.kicks ∧
      (scheduler.wake now task previous flags).scheduler.occupancy =
        reference.scheduler.occupancy := by
  intro reference
  have woken := scheduler.wake_eq_place now task previous flags .interactive
    scheduler.config.quantum (by rw [refused]; rfl)
  have otherWoken := scheduler.wake_eq_place now other previous flags .interactive profile.slice
    (by simp [observed?_of_profile? tracked, interactive])
  have same := place_congr now (rfl : scheduler.config = scheduler.config) rfl rfl task other
    previous flags .interactive scheduler.config.quantum profile.slice
  refine ⟨?_, ?_, ?_⟩
  · rw [woken.1, otherWoken.1]
    exact same.1
  · rw [woken.2.1, otherWoken.2.1]
    exact same.2.1
  · rw [woken.2.2, otherWoken.2.2]
    exact same.2.2

theorem entries_enqueue_of_refused (refused : scheduler.observed? task = none)
    (flags : EnqueueFlags) (tier : Tier) :
    (scheduler.enqueue now task flags).scheduler.queues.entries tier =
      scheduler.queues.entries tier ++
        if tier = .interactive then [⟨task, scheduler.config.quantum, Generation.untracked⟩]
        else [] := by
  rw [queues_enqueue, pushed?, refused]
  simp only [Option.map_none, Option.getD_none, untrackedEntry, ReadyQueues.entries_push]
  by_cases same : tier = .interactive
  · rw [if_pos same, if_pos same.symm]
  · rw [if_neg same, if_neg (Ne.symm same), List.append_nil]

theorem occupancy_start_of_refused (refused : scheduler.observed? task = none) (unit : Nat) :
    (scheduler.start now unit task).scheduler.occupancy =
      (scheduler.occupancy.reportRunning unit .interactive).2 := by
  rw [occupancy_start, profile?_start, if_pos rfl, refused]
  rfl

theorem turnsAway_of_refused (refused : scheduler.observed? task = none)
    (enabled_eq : scheduler.statistics.enabled = scheduler.config.statisticsEnabled)
    (units_eq : scheduler.occupancy.units = scheduler.config.units) :
    scheduler.TurnsAway now task where
  wake_closed previous flags :=
    failsClosed_of_event now (.wake task previous flags) refused enabled_eq rfl
      (roster_wake_of_refused now refused previous flags)
  wake_eq previous flags := by
    have woken := scheduler.wake_eq_place now task previous flags .interactive
      scheduler.config.quantum (by rw [refused]; rfl)
    exact ⟨woken.1, scheduler.slice_place now task previous flags _ _, woken.2⟩
  wake_alike previous flags other profile tracked interactive :=
    wake_alike_of_refused now refused previous flags tracked interactive
  enqueue_closed flags := by
    apply failsClosed_of_event now (.enqueue task flags) refused enabled_eq rfl
    exact (scheduler.roster_enqueue now task flags).trans (updateOrInsert_of_refused refused _)
  enqueue_entries flags tier := entries_enqueue_of_refused now refused flags tier
  start_closed unit := by
    apply failsClosed_of_event now (.start unit task) refused enabled_eq rfl
    exact (scheduler.roster_start now unit task).trans (updateOrInsert_of_refused refused _)
  start_running unit := by
    refine ⟨occupancy_start_of_refused now refused unit, ?_⟩
    intro exist
    rw [occupancy_start_of_refused now refused]
    apply Occupancy.running?_reportRunning_self
    rwa [units_eq]
  stop_eq unit requeue := by
    simp [stop, update_of_untracked (profile?_eq_none_of_observed? refused)]
  tick_eq unit := by
    simp [tick, update_of_untracked (profile?_eq_none_of_observed? refused)]

end Refused

section Unclaimed

variable {scheduler : Scheduler} {task : TaskId} {slice : Nanos} {place : Place}

theorem reply_of_untracked (untracked : scheduler.profile? task = none)
    (entry_eq : place.entry = ⟨task, slice, Generation.untracked⟩)
    (located : place.lane = scheduler.queues.entries .interactive) (now : Nanos) (unit : Nat)
    (removed : scheduler.followEvent place .interactive now (.dispatch unit) = none) :
    (scheduler.dispatch unit).reply = some ⟨task, slice, .interactive⟩ := by
  have removal := removal_of_followEvent located removed
  rw [entry_eq] at removal
  cases removal with
  | handedOut unit live taken =>
      rw [reply_dispatch, taken]
      rfl
  | discarded unit stale member =>
      change scheduler.roster.get? task = none at untracked
      simp [Roster.Live, untracked] at stale

theorem staleEntry_mem_notices {entry : Entry}
    (member : entry ∈ (draw scheduler.queues scheduler.roster).stale) (unit : Nat) :
    Notice.staleEntry entry.task ∈ (scheduler.dispatch unit).notices := by
  have listed : Notice.staleEntry entry.task ∈
      (draw scheduler.queues scheduler.roster).stale.map fun entry => .staleEntry entry.task :=
    List.mem_map_of_mem member
  simp only [dispatch]
  cases (draw scheduler.queues scheduler.roster).taken with
  | none => exact listed
  | some found => exact List.mem_append_left _ listed

theorem reached_of_untracked (consistent : scheduler.queues.Consistent)
    (untracked : scheduler.profile? task = none)
    (entry_eq : place.entry = ⟨task, slice, Generation.untracked⟩)
    (located : place.lane = scheduler.queues.entries .interactive) (now : Nanos)
    (units : List Nat) (enough : scheduler.queues.weight < units.length) :
    ∃ earlier unit later, units = earlier ++ unit :: later ∧
      ((scheduler.after (earlier.map fun unit => (now, .dispatch unit))).dispatch unit).reply =
        some ⟨task, slice, .interactive⟩ := by
  rcases removed_of_follow (follow_dispatches_eq_none now consistent located units enough)
    with ⟨served, reading, event, rest, last, split, followed, removed⟩
  rcases List.map_eq_append_iff.mp split with ⟨earlier, further, rfl, rfl, further_eq⟩
  rcases List.map_eq_cons_iff.mp further_eq with ⟨unit, later, rfl, reported_eq, rfl⟩
  rcases Prod.mk.inj reported_eq with ⟨rfl, rfl⟩
  refine ⟨earlier, unit, later, rfl, ?_⟩
  rcases lane_follow located followed with ⟨lastEntry_eq, lastLocated⟩
  refine reply_of_untracked ?_ (lastEntry_eq.trans entry_eq) lastLocated now unit removed
  have others : ∀ reported ∈ earlier.map fun unit => (now, Event.dispatch unit),
      reported.2.task? ≠ some task := by
    intro reported member
    rcases List.mem_map.mp member with ⟨_, _, rfl⟩
    exact Option.some_ne_none task ∘ Eq.symm
  rcases scheduler.profile?_after_of_others others with same | claimed
  · exact same.trans untracked
  · rw [claimed, untracked]
    rfl

end Unclaimed

end Scheduler

namespace Execution

/-- An entry without a generation is stale if its task is tracked. -/
theorem not_live_of_tracked (execution : Execution) {entry : Entry} {profile : Profile}
    (unissued : entry.generation = Generation.untracked)
    (tracked : execution.scheduler.profile? entry.task = some profile) :
    ¬execution.scheduler.roster.Live entry := by
  intro live
  have owns := (Roster.live_iff_of_tracked tracked).mp live
  have issued := ((execution.invariant entry.task).backed profile tracked).issued owns.2.1
  exact issued (owns.2.2.trans unissued)

theorem unclaimed (execution : Execution) {task : TaskId} {slice : Nanos} {place : Place}
    (entry_eq : place.entry = ⟨task, slice, Generation.untracked⟩)
    (located : place.lane = execution.scheduler.queues.entries .interactive) :
    execution.scheduler.Unclaimed task slice place := by
  refine ⟨entry_eq, located, ?_, ?_, ?_, ?_⟩
  · intro untracked now unit removed
    exact Scheduler.reply_of_untracked untracked entry_eq located now unit removed
  · intro untracked now units enough
    exact Scheduler.reached_of_untracked execution.consistent untracked entry_eq located now units
      enough
  · intro profile tracked now unit removed
    have removal := Scheduler.removal_of_followEvent located removed
    have owned : execution.scheduler.profile? place.entry.task = some profile := by
      rwa [entry_eq]
    have stale := execution.not_live_of_tracked (by rw [entry_eq]) owned
    refine ⟨?_, ?_⟩
    · cases removal with
      | handedOut unit live taken => exact absurd live stale
      | discarded unit _ member =>
          have noticed := Scheduler.staleEntry_mem_notices member unit
          rwa [entry_eq] at noticed
    · rw [Scheduler.profile?_dispatch_eq, tracked]
      rfl
  · intro now event removed
    have removal := Scheduler.removal_of_followEvent located removed
    rw [entry_eq] at removal
    cases removal with
    | handedOut unit live taken => exact Or.inl ⟨unit, rfl⟩
    | discarded unit stale member => exact Or.inl ⟨unit, rfl⟩
    | started unit waits => exact Or.inr (Or.inl ⟨unit, rfl, waits⟩)
    | exited => exact Or.inr (Or.inr rfl)

/-- When the roster is full, the callbacks turn a task away that it does not track, and the entry that
an enqueue pushes for it waits behind all others until it is taken or dropped. -/
theorem full_roster_turns_away (execution : Execution) {task : TaskId}
    (full : execution.scheduler.taskCount = execution.config.capacity)
    (untracked : execution.scheduler.profile? task = none) (now : Nanos) :
    execution.scheduler.TurnsAway now task ∧
      ∀ flags later last,
        let queued := (execution.scheduler.enqueue now task flags).scheduler
        let pushed : Place :=
          { ahead := execution.scheduler.queues.entries .interactive
            entry := ⟨task, execution.config.quantum, Generation.untracked⟩
            behind := [] }
        pushed.lane = queued.queues.entries .interactive ∧
          (queued.follow pushed .interactive later = some last →
            (queued.after later).Unclaimed task execution.config.quantum last) := by
  have refused : execution.scheduler.observed? task = none := by
    have no_room : execution.scheduler.roster.capacity ≤ execution.scheduler.roster.count := by
      rw [execution.capacity_roster]
      exact full.ge
    simp [Scheduler.observed?, untracked, no_room]
  have turnsAway : execution.scheduler.TurnsAway now task := by
    apply Scheduler.turnsAway_of_refused now refused
    · rw [execution.enabled_statistics, execution.config_eq]
    · rw [execution.units_occupancy, execution.config_eq]
  refine ⟨turnsAway, ?_⟩
  intro flags later last queued pushed
  have located : pushed.lane = queued.queues.entries .interactive := by
    rw [turnsAway.enqueue_entries flags .interactive, execution.config_eq]
    rfl
  refine ⟨located, ?_⟩
  intro followed
  rcases Scheduler.lane_follow located followed with ⟨entry_eq, lastLocated⟩
  have scheduler_eq : (execution.extend ((now, .enqueue task flags) :: later)).scheduler =
      queued.after later := execution.scheduler_extend _
  rw [← scheduler_eq] at lastLocated ⊢
  exact unclaimed _ entry_eq lastLocated

/-- There is room for task 1 only. The entry of task 2 waits behind the one of task 1, and is the next
one once task 1 was handed out. -/
theorem full_roster_turns_away_second_task :
    let execution := ofConfig { capacity := 1, units := 2 } (by decide)
      [(1000, .wake 1 none ⟨false, false⟩), (2000, .enqueue 1 ⟨true, false, false⟩)]
    let queued := (execution.scheduler.enqueue 3000 2 ⟨true, false, false⟩).scheduler
    let pushed : Place :=
      ⟨execution.scheduler.queues.entries .interactive, ⟨2, 2000000, Generation.untracked⟩, []⟩
    let last : Place := ⟨[], ⟨2, 2000000, Generation.untracked⟩, []⟩
    execution.scheduler.taskCount = execution.config.capacity ∧
      execution.scheduler.profile? 2 = none ∧
      execution.scheduler.TurnsAway 3000 2 ∧
      queued.follow pushed .interactive [(4000, .dispatch 0)] = some last ∧
      (queued.after [(4000, .dispatch 0)]).Unclaimed 2 2000000 last := by
  intro execution queued pushed last
  have full : execution.scheduler.taskCount = execution.config.capacity := by decide +kernel
  have untracked : execution.scheduler.profile? 2 = none := by decide +kernel
  have followed : queued.follow pushed .interactive [(4000, .dispatch 0)] = some last := by
    decide +kernel
  rcases execution.full_roster_turns_away full untracked 3000 with ⟨turnsAway, waits⟩
  refine ⟨full, untracked, turnsAway, followed, ?_⟩
  exact (waits ⟨true, false, false⟩ [(4000, .dispatch 0)] last).2 followed

end Execution

end TierSched
