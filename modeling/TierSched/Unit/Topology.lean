import TierSched.Fault
import TierSched.Unit.Set

/-!
# Topology of the execution units

The host may describe which units share a cache and which units are fast. A topology is such a
description in which every set stays within the machine; `Topology.build` refuses any other one and
names the unit that does not exist. Its use is to rank the places to look for an idle unit.
-/

namespace TierSched

/-- A description of the units of a machine. -/
structure Topology where
  /-- The number of units. -/
  units : Nat
  /-- The sets of units that share a cache. -/
  domains : List UnitSet
  /-- The units that are preferred for urgent tasks. -/
  fast : UnitSet
  /-- No set contains a unit that does not exist. -/
  within : ∀ described ∈ domains ++ [fast], ∀ unit ∈ described, unit < units

namespace Topology

/-- The lowest unit of a set that does not exist in a machine with so many units. -/
def stray? (units : Nat) (described : UnitSet) : Option (Fin unitLimit) :=
  (described.sdiff (.firstUnits units)).first?

theorem stray?_eq_none_iff {units : Nat} {described : UnitSet} :
    stray? units described = none ↔ ∀ unit ∈ described, unit < units := by
  rw [stray?, UnitSet.first?_eq_none_iff]
  constructor
  · intro nothing unit member
    have absent : unit ∉ described.sdiff (.firstUnits units) := nothing ▸ UnitSet.not_mem_empty unit
    simp only [UnitSet.mem_sdiff, UnitSet.mem_firstUnits, Decidable.not_and_not_right] at absent
    exact (absent member).1
  · intro inside
    apply UnitSet.ext_mem
    intro unit
    simp only [UnitSet.mem_sdiff, UnitSet.mem_firstUnits, UnitSet.not_mem_empty, iff_false,
      Decidable.not_and_not_right]
    exact fun member => ⟨inside unit member, UnitSet.lt_of_mem member⟩

/-- A machine whose units all share one cache and are equally fast. -/
def flat (units : Nat) : Topology where
  units
  domains := [.firstUnits units]
  fast := .empty
  within := by
    intro described member unit inside
    simp only [List.cons_append, List.nil_append, List.mem_cons, List.not_mem_nil, or_false]
      at member
    rcases member with rfl | rfl
    · exact (UnitSet.mem_firstUnits.mp inside).1
    · exact absurd inside (UnitSet.not_mem_empty unit)

/-- The topology with the given domains and fast units, unless one of the sets contains a unit that
does not exist. -/
def build (units : Nat) (domains : List UnitSet) (fast : UnitSet) : Except Fault Topology :=
  match found : (domains ++ [fast]).findSome? (stray? units) with
  | some unit => .error (.unitUnknown unit units)
  | none =>
    .ok { units, domains, fast
          within := fun described member =>
            stray?_eq_none_iff.mp (List.findSome?_eq_none_iff.mp found described member) }

/-- The first domain that contains a unit, empty if none does. -/
def domainOf (topology : Topology) (unit : Nat) : UnitSet :=
  (topology.domains.find? fun domain => domain.contains unit).getD .empty

/-- Where to look for an idle unit for a task of a tier that last ran on `previous`: the same unit,
the fast units if the task is urgent, the units that share the cache of that unit, any unit. -/
def preferences (topology : Topology) (previous : Option Nat) (tier : Tier) : List UnitSet :=
  let known := previous.filter fun unit => unit < topology.units
  [ (known.map UnitSet.singleton).getD .empty,
    if tier ≤ .critical then topology.fast else .empty,
    (known.map topology.domainOf).getD .empty,
    .firstUnits topology.units ]

/-- The domain of a unit is empty or contains the unit. -/
theorem domainOf_eq_empty_or_mem (topology : Topology) (unit : Nat) :
    topology.domainOf unit = .empty ∨
      topology.domainOf unit ∈ topology.domains ∧ unit ∈ topology.domainOf unit := by
  unfold domainOf
  cases found : topology.domains.find? fun domain => domain.contains unit with
  | none => exact .inl rfl
  | some domain =>
    have inside := List.find?_some found
    exact .inr ⟨List.mem_of_find?_eq_some found, inside⟩

end Topology

end TierSched
