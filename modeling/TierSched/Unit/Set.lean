import TierSched.Host

/-!
# Sets of execution units

A set of units is a word with one bit for each of the 64 possible units, so union, intersection and
the search for the lowest member each work on the whole set at once. The view of a set is its
membership relation: every operation has a lemma that says which units it contains.
-/

namespace TierSched

/-- A set of units below `unitLimit`; bit `n` tells whether unit `n` belongs to it. -/
@[ext]
structure UnitSet where
  bits : BitVec unitLimit
deriving DecidableEq, Repr

namespace UnitSet

/-- The set without members. -/
def empty : UnitSet := ⟨0⟩

/-- The set of all units. -/
def full : UnitSet := ⟨BitVec.allOnes unitLimit⟩

/-- The units below `number`, or all units if the number exceeds the limit. -/
def firstUnits (number : Nat) : UnitSet :=
  ⟨BitVec.ofNat unitLimit (1 <<< min number unitLimit - 1)⟩

/-- The set of one unit, whose number is taken modulo the limit. -/
def singleton (unit : Nat) : UnitSet :=
  ⟨BitVec.twoPow unitLimit (unit % unitLimit)⟩

/-- Whether a unit belongs to the set; a number past the limit never does. -/
def contains (units : UnitSet) (unit : Nat) : Bool :=
  units.bits.getLsbD unit

/-- The set without one unit, whose number is taken modulo the limit. -/
def erase (units : UnitSet) (unit : Nat) : UnitSet :=
  ⟨units.bits &&& ~~~(singleton unit).bits⟩

/-- The set with one unit added. -/
def insert (units : UnitSet) (unit : Fin unitLimit) : UnitSet :=
  ⟨units.bits ||| (singleton unit).bits⟩

/-- The common members of two sets. -/
def inter (left right : UnitSet) : UnitSet :=
  ⟨left.bits &&& right.bits⟩

/-- The members of the first set that the second one lacks. -/
def sdiff (left right : UnitSet) : UnitSet :=
  ⟨left.bits &&& ~~~right.bits⟩

/-- Whether the set has no members. -/
def isEmpty (units : UnitSet) : Bool :=
  units.bits == 0

/-- The lowest member, if there is one. -/
def first? (units : UnitSet) : Option (Fin unitLimit) :=
  (List.finRange unitLimit).find? fun unit => units.contains unit

/-- Takes one unit out of the set and tells whether it was there. -/
def take (units : UnitSet) (unit : Fin unitLimit) : Bool × UnitSet :=
  (units.contains unit, units.erase unit)

instance : Membership Nat UnitSet := ⟨fun units unit => units.contains unit = true⟩

instance (unit : Nat) (units : UnitSet) : Decidable (unit ∈ units) :=
  inferInstanceAs (Decidable (units.contains unit = true))

theorem mem_def {unit : Nat} {units : UnitSet} :
    unit ∈ units ↔ units.bits.getLsbD unit = true := Iff.rfl

@[simp]
theorem contains_eq_true {unit : Nat} {units : UnitSet} :
    units.contains unit = true ↔ unit ∈ units := Iff.rfl

theorem lt_of_mem {unit : Nat} {units : UnitSet} (member : unit ∈ units) : unit < unitLimit :=
  BitVec.lt_of_getLsbD member

/-- Two sets with the same members are equal. -/
theorem ext_mem {left right : UnitSet} (same : ∀ unit, unit ∈ left ↔ unit ∈ right) :
    left = right := by
  apply UnitSet.ext
  apply BitVec.eq_of_getLsbD_eq
  intro position _
  exact Bool.eq_iff_iff.mpr (same position)

@[simp]
theorem not_mem_empty (unit : Nat) : unit ∉ empty := by
  simp [mem_def, empty]

@[simp]
theorem mem_full {unit : Nat} : unit ∈ full ↔ unit < unitLimit := by
  simp [mem_def, full]

@[simp]
theorem mem_firstUnits {unit : Nat} {number : Nat} :
    unit ∈ firstUnits number ↔ unit < number ∧ unit < unitLimit := by
  simp only [mem_def, firstUnits, BitVec.getLsbD_ofNat, Nat.one_shiftLeft,
    Nat.testBit_two_pow_sub_one, Bool.and_eq_true, decide_eq_true_eq, unitLimit]
  omega

@[simp]
theorem mem_singleton {unit other : Nat} :
    unit ∈ singleton other ↔ unit = other % unitLimit := by
  simp only [mem_def, singleton, BitVec.getLsbD_twoPow, Bool.and_eq_true, decide_eq_true_eq,
    unitLimit]
  omega

@[simp]
theorem mem_erase {unit other : Nat} {units : UnitSet} :
    unit ∈ units.erase other ↔ unit ∈ units ∧ unit ≠ other % unitLimit := by
  simp only [mem_def, erase, singleton, BitVec.getLsbD_and, BitVec.getLsbD_not,
    BitVec.getLsbD_twoPow, Bool.and_eq_true, Bool.not_eq_true', decide_eq_true_eq]
  constructor
  · rintro ⟨member, bound, different⟩
    refine ⟨member, fun same => ?_⟩
    simp [← same, bound] at different
  · rintro ⟨member, different⟩
    have bound := BitVec.lt_of_getLsbD member
    refine ⟨member, bound, ?_⟩
    simp [Ne.symm different]

@[simp]
theorem mem_insert {unit : Nat} {added : Fin unitLimit} {units : UnitSet} :
    unit ∈ units.insert added ↔ unit = added ∨ unit ∈ units := by
  have bound := added.isLt
  simp only [mem_def, insert, singleton, BitVec.getLsbD_or, BitVec.getLsbD_twoPow,
    Bool.or_eq_true, Bool.and_eq_true, decide_eq_true_eq, Nat.mod_eq_of_lt bound, bound, true_and]
  rw [or_comm, eq_comm]

@[simp]
theorem mem_inter {unit : Nat} {left right : UnitSet} :
    unit ∈ left.inter right ↔ unit ∈ left ∧ unit ∈ right := by
  simp [mem_def, inter]

@[simp]
theorem mem_sdiff {unit : Nat} {left right : UnitSet} :
    unit ∈ left.sdiff right ↔ unit ∈ left ∧ unit ∉ right := by
  simp only [mem_def, sdiff, BitVec.getLsbD_and, BitVec.getLsbD_not, Bool.and_eq_true,
    Bool.not_eq_true', decide_eq_true_eq, Bool.not_eq_true]
  constructor
  · rintro ⟨member, _, absent⟩
    exact ⟨member, absent⟩
  · rintro ⟨member, absent⟩
    exact ⟨member, BitVec.lt_of_getLsbD member, absent⟩

theorem isEmpty_iff {units : UnitSet} : units.isEmpty = true ↔ units = empty := by
  simp [isEmpty, empty, UnitSet.ext_iff]

/-- The lowest member belongs to the set and nothing below it does. -/
theorem first?_eq_some_iff {units : UnitSet} {unit : Fin unitLimit} :
    units.first? = some unit ↔
      (unit : Nat) ∈ units ∧ ∀ lower : Nat, lower < unit → lower ∉ units := by
  simp only [first?, List.find?_eq_some_iff_getElem, List.getElem_finRange, contains_eq_true,
    List.length_finRange]
  constructor
  · rintro ⟨member, position, bound, rfl, absent⟩
    refine ⟨member, fun lower below => ?_⟩
    simpa [contains, mem_def] using absent lower below
  · rintro ⟨member, absent⟩
    refine ⟨member, unit, unit.isLt, rfl, fun lower below => ?_⟩
    simpa [contains, mem_def] using absent lower below

theorem first?_eq_none_iff {units : UnitSet} : units.first? = none ↔ units = empty := by
  simp only [first?, List.find?_eq_none, List.mem_finRange, forall_const, contains_eq_true]
  constructor
  · intro absent
    apply ext_mem
    intro unit
    simp only [not_mem_empty, iff_false]
    exact fun member => absent ⟨unit, lt_of_mem member⟩ member
  · rintro rfl unit
    exact not_mem_empty unit

end UnitSet

end TierSched
