import Mathlib.Order.Bounds.Basic
import TierSched.Proofs.FullRoster
import TierSched.Proofs.ShownTier

/-!
# Placing woken tasks on idle units

A woken task is placed directly whenever some unit is idle. `Topology.Suits` says which unit it gets, by
the four places at which one would look for it: the unit on which the task last ran, the fast units, the
units that share a cache with the former one, all units. Each place is looked at only if the earlier ones
have no idle unit, so the unit is determined. The places may be empty and may overlap.

A unit that is given away is not idle afterwards, and only the report of the host that it went idle makes
it so again. Hence no unit is given to two tasks unless the host said so in between.
-/

namespace TierSched

namespace UnitSet

theorem first?_eq_some_iff_isLeast {units : UnitSet} {slot : Fin unitLimit} :
    units.first? = some slot ↔ IsLeast {unit : Nat | unit ∈ units} slot := by
  rw [first?_eq_some_iff]
  refine and_congr_right fun _ => ?_
  constructor
  · intro absent unit member
    exact Nat.le_of_not_lt fun lower => absent unit lower member
  · intro least lower below member
    exact Nat.not_le_of_lt below (least member)

theorem first?_inter_eq_some_iff {left right : UnitSet} {slot : Fin unitLimit} :
    (left.inter right).first? = some slot ↔
      IsLeast {unit : Nat | unit ∈ left ∧ unit ∈ right} slot := by
  simp only [first?_eq_some_iff_isLeast, mem_inter]

theorem first?_inter_eq_none_iff {left right : UnitSet} :
    (left.inter right).first? = none ↔ ∀ unit ∈ right, unit ∉ left := by
  rw [first?_eq_none_iff]
  constructor
  · intro nothing unit inRight inLeft
    exact not_mem_empty unit (nothing ▸ mem_inter.mpr ⟨inLeft, inRight⟩)
  · intro disjoint
    apply ext_mem
    intro unit
    simp only [mem_inter, not_mem_empty, iff_false, not_and]
    exact fun inLeft inRight => disjoint unit inRight inLeft

end UnitSet

namespace Topology

/-- The unit that a woken task of a tier gets if it last ran on a known unit, or on none. -/
inductive Suits (topology : Topology) (idle : Nat → Prop) (tier : Tier) (last : Option Nat) :
    Nat → Prop where
  /-- The unit on which the task last ran is idle. -/
  | same {unit : Nat} (known : last = some unit) (free : idle unit) :
      Suits topology idle tier last unit
  /-- It is not, but the task is urgent and a fast unit is idle. -/
  | fast {unit : Nat} (moved : ∀ old ∈ last, ¬idle old) (urgent : tier ≤ .critical)
      (least : IsLeast {other | idle other ∧ other ∈ topology.fast} unit) :
      Suits topology idle tier last unit
  /-- No fast unit comes into question, but a unit near the one on which the task last ran is idle. -/
  | near {unit old : Nat} {domain : UnitSet} (moved : ∀ old ∈ last, ¬idle old)
      (slow : tier ≤ .critical → ∀ other ∈ topology.fast, ¬idle other) (known : last = some old)
      (nearest : topology.domains.find? (fun domain => domain.contains old) = some domain)
      (least : IsLeast {other | idle other ∧ other ∈ domain} unit) :
      Suits topology idle tier last unit
  /-- Only other units are idle. -/
  | any {unit : Nat} (moved : ∀ old ∈ last, ¬idle old)
      (slow : tier ≤ .critical → ∀ other ∈ topology.fast, ¬idle other)
      (far : ∀ old ∈ last, ∀ domain ∈ topology.domains.find? (fun domain => domain.contains old),
        ∀ other ∈ domain, ¬idle other)
      (least : IsLeast {other | idle other} unit) :
      Suits topology idle tier last unit

variable {topology : Topology} {idle : Nat → Prop} {tier : Tier} {last : Option Nat}

theorem Suits.free {unit : Nat} (suits : topology.Suits idle tier last unit) : idle unit := by
  cases suits with
  | same known free => exact free
  | fast moved urgent least => exact least.1.1
  | near moved slow known nearest least => exact least.1.1
  | any moved slow far least => exact least.1

/-- No two units suit a task. -/
theorem Suits.unique {first second : Nat} (left : topology.Suits idle tier last first)
    (right : topology.Suits idle tier last second) : first = second := by
  cases left with
  | same known free =>
      cases right with
      | same otherKnown => exact Option.some.inj (known.symm.trans otherKnown)
      | fast moved | near moved | any moved => exact absurd free (moved first known)
  | fast moved urgent least =>
      cases right with
      | same known free => exact absurd free (moved second known)
      | fast _ _ otherLeast => exact least.unique otherLeast
      | near _ slow | any _ slow => exact absurd least.1.1 (slow urgent first least.1.2)
  | near moved slow known nearest least =>
      cases right with
      | same otherKnown free => exact absurd free (moved second otherKnown)
      | fast _ urgent otherLeast =>
          exact absurd otherLeast.1.1 (slow urgent second otherLeast.1.2)
      | near _ _ otherKnown otherNearest otherLeast =>
          cases known.symm.trans otherKnown
          cases nearest.symm.trans otherNearest
          exact least.unique otherLeast
      | any _ _ far => exact absurd least.1.1 (far _ known _ nearest first least.1.2)
  | any moved slow far least =>
      cases right with
      | same known free => exact absurd free (moved second known)
      | fast _ urgent otherLeast =>
          exact absurd otherLeast.1.1 (slow urgent second otherLeast.1.2)
      | near _ _ known nearest otherLeast =>
          exact absurd otherLeast.1.1 (far _ known _ nearest second otherLeast.1.2)
      | any _ _ _ otherLeast => exact least.unique otherLeast

section Preferences

variable (topology)

theorem mem_same (within : topology.units ≤ unitLimit) (previous : Option Nat) (unit : Nat) :
    unit ∈ ((previous.filter fun old => old < topology.units).map UnitSet.singleton).getD .empty ↔
      previous.filter (fun old => old < topology.units) = some unit := by
  cases known : previous.filter fun old => old < topology.units with
  | none => simp
  | some old =>
      have exists_old : old < topology.units := by
        simpa using (Option.filter_eq_some_iff.mp known).2
      have old_eq : old % unitLimit = old := Nat.mod_eq_of_lt (Nat.lt_of_lt_of_le exists_old within)
      simp [old_eq, eq_comm]

theorem mem_fast {unit : Nat} : unit ∈ (if tier ≤ .critical then topology.fast else .empty) ↔
    tier ≤ .critical ∧ unit ∈ topology.fast := by
  split
  · rename_i urgent
    simp [urgent]
  · rename_i relaxed
    simp [relaxed]

theorem mem_near {unit : Nat} : unit ∈ (last.map topology.domainOf).getD .empty ↔
    ∃ old ∈ last, ∃ domain ∈ topology.domains.find? (fun domain => domain.contains old),
      unit ∈ domain := by
  cases last with
  | none => simp
  | some old =>
      cases found : topology.domains.find? fun domain => domain.contains old with
      | none => simp [domainOf, found]
      | some domain => simp [domainOf, found]

end Preferences

end Topology

namespace Occupancy

variable {occupancy after : Occupancy} {topology : Topology} {previous : Option Nat} {tier : Tier}

theorem Faithful.isIdle_iff (faithful : occupancy.Faithful) {unit : Nat} :
    occupancy.isIdle unit = true ↔ unit ∈ occupancy.idle := by
  by_cases exist : unit < occupancy.units
  · simp [isIdle, slot?, exist]
  · have absent : unit ∉ occupancy.idle := fun member => exist (faithful.idle_lt unit member)
    simp [isIdle, slot?, exist, absent]

/-- A unit is taken from the first preferred set that has an idle one. -/
theorem takeIdle_eq_some {preferences : List UnitSet} {unit : Nat}
    (taken : occupancy.takeIdle preferences = (some unit, after)) :
    ∃ earlier preferred later, preferences = earlier ++ preferred :: later ∧
      (∀ skipped ∈ earlier, ∀ other ∈ skipped, other ∉ occupancy.idle) ∧
      IsLeast {other | other ∈ occupancy.idle ∧ other ∈ preferred} unit ∧
      after = { occupancy with idle := occupancy.idle.erase unit } := by
  induction preferences with
  | nil => simp [takeIdle] at taken
  | cons preferred others ih =>
      rw [takeIdle] at taken
      split at taken
      · rename_i nothing
        rcases ih taken with ⟨earlier, found, later, rfl, skipped, least, after_eq⟩
        refine ⟨preferred :: earlier, found, later, rfl, ?_, least, after_eq⟩
        exact List.forall_mem_cons.mpr ⟨UnitSet.first?_inter_eq_none_iff.mp nothing, skipped⟩
      · rename_i slot found
        simp only [Prod.mk.injEq, Option.some.injEq] at taken
        rcases taken with ⟨rfl, rfl⟩
        exact ⟨[], preferred, others, rfl, by simp, UnitSet.first?_inter_eq_some_iff.mp found, rfl⟩

theorem takeIdle_eq_none {preferences : List UnitSet}
    (taken : occupancy.takeIdle preferences = (none, after)) :
    ∀ preferred ∈ preferences, ∀ unit ∈ preferred, unit ∉ occupancy.idle := by
  induction preferences with
  | nil => simp
  | cons preferred others ih =>
      rw [takeIdle] at taken
      split at taken
      · rename_i nothing
        exact List.forall_mem_cons.mpr ⟨UnitSet.first?_inter_eq_none_iff.mp nothing, ih taken⟩
      · simp at taken

theorem Faithful.mem_firstUnits (faithful : occupancy.Faithful)
    (units_eq : topology.units = occupancy.units) {unit : Nat} (member : unit ∈ occupancy.idle) :
    unit ∈ UnitSet.firstUnits topology.units :=
  UnitSet.mem_firstUnits.mpr ⟨units_eq ▸ faithful.idle_lt unit member, UnitSet.lt_of_mem member⟩

/-- The four places are looked at in turn, and the lowest idle unit of the first one that has any is
taken. -/
theorem Faithful.suits_of_takeIdle (faithful : occupancy.Faithful)
    (units_eq : topology.units = occupancy.units) {unit : Nat}
    (taken : occupancy.takeIdle (topology.preferences previous tier) = (some unit, after)) :
    topology.Suits (· ∈ occupancy.idle) tier
        (previous.filter fun old => old < topology.units) unit ∧
      after = { occupancy with idle := occupancy.idle.erase unit } := by
  rcases takeIdle_eq_some taken with ⟨earlier, preferred, later, split, skipped, least, after_eq⟩
  refine ⟨?_, after_eq⟩
  have within : topology.units ≤ unitLimit := units_eq ▸ occupancy.units_le
  have same_iff := topology.mem_same within previous
  simp only [Topology.preferences] at split
  generalize previous.filter (fun old => old < topology.units) = last at split same_iff ⊢
  rcases earlier with _ | ⟨same, _ | ⟨fast, _ | ⟨near, _ | ⟨any, others⟩⟩⟩⟩
  · rcases List.cons.inj split with ⟨rfl, _⟩
    exact .same ((same_iff unit).mp least.1.2) least.1.1
  · simp only [List.cons_append, List.nil_append, List.cons.injEq] at split
    rcases split with ⟨rfl, rfl, _⟩
    have moved := fun old known => skipped _ (by simp) old ((same_iff old).mpr known)
    have urgent := (topology.mem_fast.mp least.1.2).1
    rw [if_pos urgent] at least
    exact .fast moved urgent least
  · simp only [List.cons_append, List.nil_append, List.cons.injEq] at split
    rcases split with ⟨rfl, rfl, rfl, _⟩
    have moved := fun old known => skipped _ (by simp) old ((same_iff old).mpr known)
    have slow : tier ≤ .critical → ∀ other ∈ topology.fast, other ∉ occupancy.idle :=
      fun urgent other member =>
        skipped _ (by simp) other (topology.mem_fast.mpr ⟨urgent, member⟩)
    rcases topology.mem_near.mp least.1.2 with ⟨old, known, domain, nearest, _⟩
    rw [known, Option.map_some, Option.getD_some, Topology.domainOf, nearest, Option.getD_some]
      at least
    exact .near moved slow known nearest least
  · simp only [List.cons_append, List.nil_append, List.cons.injEq] at split
    rcases split with ⟨rfl, rfl, rfl, rfl, _⟩
    have moved := fun old known => skipped _ (by simp) old ((same_iff old).mpr known)
    have slow : tier ≤ .critical → ∀ other ∈ topology.fast, other ∉ occupancy.idle :=
      fun urgent other member =>
        skipped _ (by simp) other (topology.mem_fast.mpr ⟨urgent, member⟩)
    have far : ∀ old ∈ last, ∀ domain ∈ topology.domains.find? (fun domain => domain.contains old),
        ∀ other ∈ domain, other ∉ occupancy.idle :=
      fun old known domain nearest other member =>
        skipped _ (by simp) other (topology.mem_near.mpr ⟨old, known, domain, nearest, member⟩)
    refine .any moved slow far ⟨least.1.1, ?_⟩
    intro other member
    exact least.2 ⟨member, faithful.mem_firstUnits units_eq member⟩
  · simp at split

/-- The last place to look at is the whole machine, so nothing is taken only if nothing is idle. -/
theorem Faithful.not_idle_of_takeIdle (faithful : occupancy.Faithful)
    (units_eq : topology.units = occupancy.units)
    (taken : occupancy.takeIdle (topology.preferences previous tier) = (none, after)) (unit : Nat) :
    unit ∉ occupancy.idle := by
  intro member
  exact takeIdle_eq_none taken _ (by simp [Topology.preferences]) unit
    (faithful.mem_firstUnits units_eq member) member

/-- Only a report that it went idle makes a unit idle. -/
theorem mem_idle_perform {action : Action} {unit : Nat}
    (member : unit ∈ (occupancy.perform action).idle) :
    unit ∈ occupancy.idle ∨ action = .reportIdle unit := by
  cases action with
  | reportIdle reported =>
      simp only [perform, reportIdle] at member
      cases found : occupancy.slot? reported with
      | none =>
          rw [found] at member
          exact Or.inl member
      | some slot =>
          rw [found] at member
          rcases UnitSet.mem_insert.mp member with rfl | old
          · rw [(slot?_eq_some_iff.mp found).2]
            exact Or.inr rfl
          · exact Or.inl old
  | reportBusy reported =>
      simp only [perform, reportBusy] at member
      split at member
      · exact Or.inl member
      · exact Or.inl (UnitSet.mem_erase.mp member).1
  | reportRunning reported tier =>
      simp only [perform, reportRunning] at member
      split at member
      · exact Or.inl member
      · split at member
        · exact Or.inl (UnitSet.mem_erase.mp member).1
        · exact Or.inl (UnitSet.mem_erase.mp member).1
  | takeIdle preferences =>
      left
      simp only [perform] at member
      induction preferences with
      | nil => exact member
      | cons preferred others ih =>
          rw [takeIdle] at member
          split at member
          · exact ih member
          · exact (UnitSet.mem_erase.mp member).1
  | chooseVictim tier now =>
      simp only [perform, chooseVictim] at member
      split at member
      · exact Or.inl member
      · exact Or.inl member

theorem Step.mem_idle {now : Nanos} {event : Event} {kicks : List Kick} {unit : Nat}
    (step : Step now event occupancy kicks after) (member : unit ∈ after.idle) :
    unit ∈ occupancy.idle ∨ event = .changeIdle unit true := by
  cases step with
  | unaffected => exact Or.inl member
  | overran kicked => exact Or.inl member
  | report action reported =>
      rcases mem_idle_perform member with old | rfl
      · exact Or.inl old
      · cases reported
        exact Or.inr rfl
  | search tier => exact Or.inl ((mem_idle_perform member).resolve_right (by simp))

end Occupancy

namespace Scheduler

variable {scheduler : Scheduler}

theorem mem_idle_after {unit : Nat} (history : List (Nanos × Event))
    (member : unit ∈ (scheduler.after history).occupancy.idle) :
    unit ∈ scheduler.occupancy.idle ∨ ∃ reading, (reading, .changeIdle unit true) ∈ history := by
  induction history generalizing scheduler with
  | nil => exact Or.inl member
  | cons reported later ih =>
      rcases reported with ⟨now, event⟩
      rcases ih member with early | ⟨reading, listed⟩
      · rcases (scheduler.occupancyStep_of_handle now event).mem_idle early with old | rfl
        · exact Or.inl old
        · exact Or.inr ⟨now, List.mem_cons_self⟩
      · exact Or.inr ⟨reading, List.mem_cons_of_mem _ listed⟩

/-- The tier for which a woken task is placed. -/
def observedTier (scheduler : Scheduler) (task : TaskId) : Tier :=
  (scheduler.observed? task).elim .interactive Profile.tier

/-- The unit near which a woken task is placed; there is none for a task that was just created. -/
def lastUnit? (scheduler : Scheduler) (previous : Option Nat) (flags : WakeFlags) : Option Nat :=
  if flags.fork then none else previous.filter fun unit => unit < scheduler.config.units

/-- The event is answered by placing its task directly on a unit. -/
def PlacesOn (scheduler : Scheduler) (now : Nanos) (event : Event) (unit : Nat) : Prop :=
  ∃ slice, (scheduler.handle now event).reply = .placed ⟨unit, true, slice⟩

/-- A woken task is placed by its tier, whatever its slice is. -/
theorem wake_eq_place_observedTier (scheduler : Scheduler) (now : Nanos) (task : TaskId)
    (previous : Option Nat) (flags : WakeFlags) : ∃ slice,
    let placed := scheduler.place now task previous flags (scheduler.observedTier task) slice
    (scheduler.wake now task previous flags).reply = placed.reply ∧
      (scheduler.wake now task previous flags).kicks = placed.kicks ∧
      (scheduler.wake now task previous flags).scheduler.occupancy =
        placed.scheduler.occupancy := by
  refine ⟨(scheduler.observed? task).elim scheduler.config.quantum Profile.slice, ?_⟩
  apply scheduler.wake_eq_place now task previous flags
  rw [observedTier]
  cases scheduler.observed? task with
  | none => rfl
  | some profile => rfl

end Scheduler

namespace Execution

variable (execution : Execution)

/-- A woken task is either placed on the unit that suits it, or no unit is idle. -/
theorem wake_suits (now : Nanos) (task : TaskId) (previous : Option Nat) (flags : WakeFlags) :
    let before := execution.scheduler.occupancy
    let woken := execution.scheduler.wake now task previous flags
    (woken.reply.direct = true ∧
        execution.topology.Suits (· ∈ before.idle) (execution.scheduler.observedTier task)
          (execution.scheduler.lastUnit? previous flags) woken.reply.unit ∧
        woken.kicks = [] ∧
        woken.scheduler.occupancy = { before with idle := before.idle.erase woken.reply.unit }) ∨
      woken.reply.direct = false ∧ ∀ unit, unit ∉ before.idle := by
  intro before woken
  have units_eq : execution.topology.units = before.units := by
    rw [execution.units_topology, execution.units_occupancy]
  have last_eq : (if flags.fork then none else previous).filter
      (fun old => old < execution.topology.units) =
        execution.scheduler.lastUnit? previous flags := by
    rw [Scheduler.lastUnit?, execution.units_topology, execution.config_eq]
    split <;> rfl
  rcases execution.scheduler.wake_eq_place_observedTier now task previous flags with
    ⟨slice, reply_eq, kicks_eq, occupancy_eq⟩
  change woken.reply = _ at reply_eq
  change woken.kicks = _ at kicks_eq
  change woken.scheduler.occupancy = _ at occupancy_eq
  rw [Scheduler.place, execution.topology_eq] at reply_eq kicks_eq occupancy_eq
  rcases taken : execution.scheduler.occupancy.takeIdle (execution.topology.preferences
      (if flags.fork then none else previous) (execution.scheduler.observedTier task)) with
    ⟨_ | unit, after⟩
  · right
    refine ⟨?_, execution.faithful.not_idle_of_takeIdle units_eq taken⟩
    rw [reply_eq]
    simp only [taken, Outcome.reply_andThen]
    split <;> rfl
  · left
    rcases execution.faithful.suits_of_takeIdle units_eq taken with ⟨suits, after_eq⟩
    rw [last_eq] at suits
    simp only [taken, Scheduler.count] at reply_eq kicks_eq occupancy_eq
    rw [reply_eq, kicks_eq, occupancy_eq, after_eq]
    exact ⟨rfl, suits, rfl, rfl⟩

theorem placesOn_wake {now : Nanos} {event : Event} {unit : Nat}
    (places : execution.scheduler.PlacesOn now event unit) :
    unit ∈ execution.scheduler.occupancy.idle ∧
      unit ∉ (execution.scheduler.handle now event).scheduler.occupancy.idle := by
  rcases places with ⟨slice, reply_eq⟩
  cases event with
  | wake task previous flags =>
      have placed : (execution.scheduler.wake now task previous flags).reply = ⟨unit, true, slice⟩ :=
        Reply.placed.inj reply_eq
      rcases execution.wake_suits now task previous flags with
        ⟨_, suits, _, occupancy_eq⟩ | ⟨queued, _⟩
      · rw [placed] at suits occupancy_eq
        refine ⟨suits.free, ?_⟩
        change unit ∉ (execution.scheduler.wake now task previous flags).scheduler.occupancy.idle
        rw [occupancy_eq, UnitSet.mem_erase, Nat.mod_eq_of_lt (UnitSet.lt_of_mem suits.free)]
        exact fun member => member.2 rfl
      · rw [placed] at queued
        contradiction
  | dispatch _ => simp [Scheduler.handle] at reply_eq
  | _ => simp [Scheduler.handle] at reply_eq

/-- A woken task is placed directly exactly if some unit is idle, and then on the unit that suits it.
This unit is no longer idle, and nothing else in the occupancy changes. Between two tasks that are
placed on one unit, the host reports that the unit is idle. -/
theorem idle_units_are_used :
    (∀ now task previous flags,
      let before := execution.scheduler.occupancy
      let woken := execution.scheduler.wake now task previous flags
      (woken.reply.direct = true ↔ ∃ unit, before.isIdle unit = true) ∧
        (∀ unit, woken.reply.direct = true ∧ woken.reply.unit = unit ↔
          execution.topology.Suits (fun other => before.isIdle other = true)
            (execution.scheduler.observedTier task) (execution.scheduler.lastUnit? previous flags)
            unit) ∧
        (woken.reply.direct = true → woken.kicks = [] ∧
          woken.scheduler.occupancy =
            { before with idle := before.idle.erase woken.reply.unit })) ∧
      ∀ unit now event between later next, execution.scheduler.PlacesOn now event unit →
        ((execution.scheduler.handle now event).scheduler.after between).PlacesOn later next unit →
          ∃ reading, (reading, .changeIdle unit true) ∈ between := by
  refine ⟨?_, ?_⟩
  · intro now task previous flags before woken
    have idle_eq : (fun other => before.isIdle other = true) = (· ∈ before.idle) := by
      funext other
      exact propext execution.faithful.isIdle_iff
    simp only [idle_eq]
    rcases execution.wake_suits now task previous flags with
      ⟨direct, suits, kicks_eq, occupancy_eq⟩ | ⟨queued, nothing⟩
    · refine ⟨?_, ?_, fun _ => ⟨kicks_eq, occupancy_eq⟩⟩
      · exact iff_of_true direct ⟨woken.reply.unit, suits.free⟩
      · intro unit
        constructor
        · rintro ⟨_, rfl⟩
          exact suits
        · exact fun other => ⟨direct, suits.unique other⟩
    · have not_direct : ¬woken.reply.direct = true := by simp [woken, queued]
      refine ⟨?_, ?_, fun direct => absurd direct not_direct⟩
      · refine iff_of_false not_direct ?_
        rintro ⟨unit, free⟩
        exact nothing unit free
      · intro unit
        exact iff_of_false (fun placed => not_direct placed.1) fun suits => nothing unit suits.free
  · intro unit now event between later next first second
    have taken := (execution.placesOn_wake first).2
    let continued := execution.extend ((now, event) :: between)
    have scheduler_eq : continued.scheduler =
        (execution.scheduler.handle now event).scheduler.after between :=
      execution.scheduler_extend _
    rw [← scheduler_eq] at second
    have free := (continued.placesOn_wake second).1
    rw [scheduler_eq] at free
    exact (Scheduler.mem_idle_after between free).resolve_left taken

/-- Two units are idle, and the first task claims to come from a unit that does not exist. The second
task finds the lower unit idle again. -/
theorem idle_units_are_used_twice :
    let execution := ofConfig { units := 4 } (by decide)
      [(1, .changeIdle 2 true), (2, .changeIdle 1 true)]
    let between := [(4, .start 1 7), (5, .stop 1 7 false), (6, .changeIdle 1 true)]
    let later := (execution.scheduler.handle 3 (.wake 7 (some 9) ⟨false, false⟩)).scheduler.after
      between
    execution.scheduler.PlacesOn 3 (.wake 7 (some 9) ⟨false, false⟩) 1 ∧
      later.PlacesOn 8 (.wake 8 (some 1) ⟨false, false⟩) 1 ∧
      ∃ reading, (reading, .changeIdle 1 true) ∈ between := by
  intro execution between later
  have first : execution.scheduler.PlacesOn 3 (.wake 7 (some 9) ⟨false, false⟩) 1 :=
    ⟨10000000, by decide +kernel⟩
  have second : later.PlacesOn 8 (.wake 8 (some 1) ⟨false, false⟩) 1 :=
    ⟨10000000, by decide +kernel⟩
  exact ⟨first, second, execution.idle_units_are_used.2 1 3 _ between 8 _ first second⟩

end Execution

end TierSched
