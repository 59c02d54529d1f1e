import TierSched.Proofs.IdlePlacement

/-!
# Topologies stay within the machine

A topology is built exactly from sets that stay within the machine. Otherwise the refusal names the lowest
unit that does not exist of the first set that has one, where the domains come before the fast units. This
holds for machines of any size, also for those that are larger than a set can be.

So all places in which a scheduler looks for an idle unit are part of its machine, and since the last of
them is the whole machine, it finds an idle unit whenever there is one.
-/

namespace TierSched

namespace Topology

theorem stray?_eq_some_iff {units : Nat} {described : UnitSet} {unit : Fin unitLimit} :
    stray? units described = some unit ↔
      IsLeast {stray : Nat | stray ∈ described ∧ units ≤ stray} unit := by
  have outside_iff : ∀ stray : Nat,
      stray ∈ described.sdiff (.firstUnits units) ↔ stray ∈ described ∧ units ≤ stray := by
    intro stray
    rw [UnitSet.mem_sdiff, UnitSet.mem_firstUnits]
    refine and_congr_right fun member => ?_
    have bound := UnitSet.lt_of_mem member
    omega
  simp only [stray?, UnitSet.first?_eq_some_iff_isLeast, outside_iff]

/-- The lowest unit that does not exist of the first of several sets that has one. -/
def FirstStray (units : Nat) (sets : List UnitSet) (unit : Nat) : Prop :=
  ∃ earlier offending later, sets = earlier ++ offending :: later ∧
    (∀ described ∈ earlier, ∀ known ∈ described, known < units) ∧
    IsLeast {stray | stray ∈ offending ∧ units ≤ stray} unit

theorem firstStray_iff {units : Nat} {sets : List UnitSet} {unit : Nat} :
    FirstStray units sets unit ↔
      ∃ found, sets.findSome? (stray? units) = some found ∧ found.val = unit := by
  simp only [List.findSome?_eq_some_iff, stray?_eq_some_iff, stray?_eq_none_iff]
  constructor
  · rintro ⟨earlier, offending, later, split, within, least⟩
    exact ⟨⟨unit, UnitSet.lt_of_mem least.1.1⟩, ⟨earlier, offending, later, split, least, within⟩, rfl⟩
  · rintro ⟨found, ⟨earlier, offending, later, split, least, within⟩, rfl⟩
    exact ⟨earlier, offending, later, split, within, least⟩

variable {units : Nat} {domains : List UnitSet} {fast : UnitSet}

theorem build_of_firstStray {unit : Nat} (stray : FirstStray units (domains ++ [fast]) unit) :
    build units domains fast = .error (.unitUnknown unit units) := by
  rcases firstStray_iff.mp stray with ⟨found, found_eq, rfl⟩
  unfold build
  split
  · rename_i other other_eq
    rw [Option.some.inj (other_eq.symm.trans found_eq)]
  · rename_i nothing
    rw [nothing] at found_eq
    contradiction

theorem build_of_within
    (within : ∀ described ∈ domains ++ [fast], ∀ unit ∈ described, unit < units) :
    build units domains fast = .ok { units, domains, fast, within } := by
  have nothing : (domains ++ [fast]).findSome? (stray? units) = none :=
    List.findSome?_eq_none_iff.mpr fun described member =>
      stray?_eq_none_iff.mpr (within described member)
  unfold build
  split
  · rename_i found found_eq
    rw [nothing] at found_eq
    contradiction
  · rfl

theorem within_or_firstStray (units : Nat) (sets : List UnitSet) :
    (∀ described ∈ sets, ∀ unit ∈ described, unit < units) ∨ ∃ unit, FirstStray units sets unit := by
  cases found : sets.findSome? (stray? units) with
  | none =>
      left
      intro described member
      exact stray?_eq_none_iff.mp (List.findSome?_eq_none_iff.mp found described member)
  | some unit => exact Or.inr ⟨unit, firstStray_iff.mpr ⟨unit, found, rfl⟩⟩

/-- A topology that was built is made of what it was built from. -/
theorem build_eq_ok_iff {topology : Topology} :
    build units domains fast = .ok topology ↔
      topology.units = units ∧ topology.domains = domains ∧ topology.fast = fast := by
  constructor
  · intro built
    rcases within_or_firstStray units (domains ++ [fast]) with within | ⟨unit, stray⟩
    · rw [build_of_within within] at built
      cases built
      exact ⟨rfl, rfl, rfl⟩
    · rw [build_of_firstStray stray] at built
      contradiction
  · rintro ⟨rfl, rfl, rfl⟩
    exact build_of_within topology.within

theorem exists_build_iff : (∃ topology, build units domains fast = .ok topology) ↔
    ∀ described ∈ domains ++ [fast], ∀ unit ∈ described, unit < units := by
  constructor
  · rintro ⟨topology, built⟩
    rcases build_eq_ok_iff.mp built with ⟨rfl, rfl, rfl⟩
    exact topology.within
  · intro within
    exact ⟨_, build_of_within within⟩

theorem build_eq_error_iff {fault : Fault} : build units domains fast = .error fault ↔
    ∃ unit, FirstStray units (domains ++ [fast]) unit ∧ fault = .unitUnknown unit units := by
  constructor
  · intro refused
    rcases within_or_firstStray units (domains ++ [fast]) with within | ⟨unit, stray⟩
    · rw [build_of_within within] at refused
      contradiction
    · rw [build_of_firstStray stray] at refused
      exact ⟨unit, stray, (Except.error.inj refused).symm⟩
  · rintro ⟨unit, stray, rfl⟩
    exact build_of_firstStray stray

/-- A machine of 63 units has no unit 63, although a set has room for it. -/
example : build 63 [.firstUnits 63, .singleton 5] (.singleton 63) = .error (.unitUnknown 63 63) := rfl

section Places

variable (topology : Topology) (previous : Option Nat) (tier : Tier)

/-- The places in which an idle unit is looked for. -/
structure Places (same fast near all : UnitSet) : Prop where
  preferences_eq : topology.preferences previous tier = [same, fast, near, all]
  /-- None of them contains a unit that does not exist. -/
  within : ∀ place ∈ [same, fast, near, all], ∀ unit ∈ place, unit < topology.units
  /-- The first is the unit on which the task last ran, if that unit exists. -/
  mem_same_iff : ∀ unit, unit ∈ same ↔ previous = some unit ∧ unit < topology.units
  /-- The third is a domain of that unit, if it has one. -/
  near_eq_empty_or_mem : near = .empty ∨
    near ∈ topology.domains ∧ ∃ unit, previous = some unit ∧ unit ∈ near
  /-- The last is the whole machine. -/
  mem_all_iff : ∀ unit, unit ∈ all ↔ unit < topology.units

/-- The units near the one on which the task last ran are none, or a domain with this unit. -/
theorem near_eq_empty_or_mem (last : Option Nat) :
    (last.map topology.domainOf).getD .empty = .empty ∨
      (last.map topology.domainOf).getD .empty ∈ topology.domains ∧
        ∃ old, last = some old ∧ old ∈ (last.map topology.domainOf).getD .empty := by
  cases last with
  | none => exact Or.inl rfl
  | some old =>
      rcases topology.domainOf_eq_empty_or_mem old with empty | ⟨declared, inside⟩
      · exact Or.inl empty
      · exact Or.inr ⟨declared, old, rfl, inside⟩

theorem exists_places (fits : topology.units ≤ unitLimit) :
    ∃ same fast near all, topology.Places previous tier same fast near all := by
  have same_iff : ∀ unit,
      unit ∈ ((previous.filter fun unit => unit < topology.units).map UnitSet.singleton).getD .empty ↔
        previous = some unit ∧ unit < topology.units := by
    intro unit
    rw [topology.mem_same fits, Option.filter_eq_some_iff, decide_eq_true_eq]
  have near_cases := topology.near_eq_empty_or_mem
    (previous.filter fun unit => unit < topology.units)
  have all_iff : ∀ unit, unit ∈ UnitSet.firstUnits topology.units ↔ unit < topology.units := by
    intro unit
    rw [UnitSet.mem_firstUnits]
    omega
  refine ⟨_, _, _, _, rfl, ?_, same_iff, ?_, all_iff⟩
  intro place placeMem unit unitMem
  simp only [List.mem_cons, List.not_mem_nil, or_false] at placeMem
  rcases placeMem with rfl | rfl | rfl | rfl
  · exact ((same_iff unit).mp unitMem).2
  · exact topology.within _ (by simp) unit (topology.mem_fast.mp unitMem).2
  · rcases near_cases with empty | ⟨declared, _⟩
    · exact absurd (empty ▸ unitMem) (UnitSet.not_mem_empty unit)
    · exact topology.within _ (List.mem_append_left _ declared) unit unitMem
  · exact (all_iff unit).mp unitMem
  · rcases near_cases with empty | ⟨declared, old, known, inside⟩
    · exact Or.inl empty
    · exact Or.inr ⟨declared, old, (Option.filter_eq_some_iff.mp known).1, inside⟩

end Places

end Topology

theorem Occupancy.Faithful.exists_idle_iff {occupancy : Occupancy} (faithful : occupancy.Faithful)
    {topology : Topology} (units_eq : topology.units = occupancy.units) (previous : Option Nat)
    (tier : Tier) : (∃ unit, occupancy.isIdle unit = true) ↔
      ∃ unit, (occupancy.takeIdle (topology.preferences previous tier)).1 = some unit ∧
        occupancy.isIdle unit = true := by
  constructor
  · rintro ⟨unit, idle⟩
    cases taken : occupancy.takeIdle (topology.preferences previous tier) with
    | mk taken? after =>
        cases taken? with
        | none =>
            exact absurd (faithful.isIdle_iff.mp idle)
              (faithful.not_idle_of_takeIdle units_eq taken unit)
        | some found =>
            rcases takeIdle_eq_some taken with ⟨_, _, _, _, _, least, _⟩
            exact ⟨found, rfl, faithful.isIdle_iff.mpr least.1.1⟩
  · rintro ⟨unit, _, idle⟩
    exact ⟨unit, idle⟩

namespace Execution

/-- A topology is built exactly from sets that stay within the machine, and otherwise the first unit that
does not exist is named. In every state of a scheduler, the places in which it looks for an idle unit
consist of units that exist, and a unit is found there whenever one is idle. -/
theorem stays_within_machine (units : Nat) (domains : List UnitSet) (fast : UnitSet)
    (execution : Execution) (previous : Option Nat) (tier : Tier) :
    ((∃ topology, Topology.build units domains fast = .ok topology) ↔
        ∀ described ∈ domains ++ [fast], ∀ unit ∈ described, unit < units) ∧
      (∀ topology, Topology.build units domains fast = .ok topology ↔
        topology.units = units ∧ topology.domains = domains ∧ topology.fast = fast) ∧
      (∀ fault, Topology.build units domains fast = .error fault ↔
        ∃ unit, Topology.FirstStray units (domains ++ [fast]) unit ∧
          fault = .unitUnknown unit units) ∧
      1 ≤ execution.topology.units ∧ execution.topology.units ≤ unitLimit ∧
      (∃ same fast near all, execution.topology.Places previous tier same fast near all) ∧
      ((∃ unit, execution.scheduler.occupancy.isIdle unit = true) ↔
        ∃ unit, (execution.scheduler.occupancy.takeIdle
            (execution.topology.preferences previous tier)).1 = some unit ∧
          execution.scheduler.occupancy.isIdle unit = true) := by
  have units_eq := execution.units_topology
  have some_unit := execution.accepted.units_ne_zero
  have fits := execution.accepted.units_le
  rw [← units_eq] at some_unit fits
  exact ⟨Topology.exists_build_iff, fun _ => Topology.build_eq_ok_iff,
    fun _ => Topology.build_eq_error_iff, Nat.pos_of_ne_zero some_unit, fits,
    execution.topology.exists_places previous tier fits,
    execution.faithful.exists_idle_iff (units_eq.trans execution.units_occupancy.symm) previous tier⟩

end Execution

end TierSched
