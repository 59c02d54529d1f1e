import TierSched.Proofs.Checked.Primitive
import TierSched.Unit.Occupancy
import TierSched.Unit.Topology

/-!
# Checked sets of units and checked occupancies

Numbers of units come from the host without any promise. They reach a shift of a set of units on two
ways. A plain set reduces the number to its six lowest bits, or asks first whether it is below 64. The
sets inside an occupancy are shifted by the number as it is, and so are its records indexed; there the
only protection is that every report is first compared with the number of units.
-/

namespace TierSched

namespace UnitSet

def checkedFirstUnits (number : Nat) : Checked UnitSet :=
  if unitLimit ≤ number then
    return full
  else do
    let bit ← Checked.bit number
    let below ← Checked.decrement bit
    return ⟨below⟩

def checkedSingleton (unit : Nat) : Checked UnitSet := do
  let bit ← Checked.bit (unit % unitLimit)
  return ⟨bit⟩

def checkedContains (units : UnitSet) (unit : Nat) : Checked Bool :=
  if unit < unitLimit then do
    let bit ← Checked.bit unit
    return units.bits &&& bit != 0
  else
    return false

def checkedErase (units : UnitSet) (unit : Nat) : Checked UnitSet := do
  let bit ← Checked.bit (unit % unitLimit)
  return ⟨units.bits &&& ~~~bit⟩

/-- Adds a unit to a set of an occupancy; the number is not reduced. -/
def checkedInsert (units : UnitSet) (unit : Nat) : Checked UnitSet := do
  let bit ← Checked.bit unit
  return ⟨units.bits ||| bit⟩

/-- Takes a unit out of a set of an occupancy; the number is not reduced. -/
def checkedTake (units : UnitSet) (unit : Nat) : Checked (Bool × UnitSet) := do
  let bit ← Checked.bit unit
  return (units.bits &&& bit != 0, ⟨units.bits &&& ~~~bit⟩)

theorem singleton_of_lt {unit : Nat} (short : unit < unitLimit) :
    singleton unit = ⟨.twoPow unitLimit unit⟩ := by
  rw [singleton, Nat.mod_eq_of_lt short]

theorem firstUnits_of_le {number : Nat} (long : unitLimit ≤ number) : firstUnits number = full := by
  apply ext_mem
  intro unit
  rw [mem_firstUnits, mem_full]
  omega

theorem firstUnits_of_lt {number : Nat} (short : number < unitLimit) :
    firstUnits number = ⟨.twoPow unitLimit number - 1⟩ := by
  apply UnitSet.ext
  apply BitVec.eq_of_toNat_eq
  have positive := Nat.two_pow_pos number
  have fits : 2 ^ number < 2 ^ unitLimit := Nat.pow_lt_pow_right (by decide) short
  have borrowed : 2 ^ unitLimit - 1 + 2 ^ number = 2 ^ number - 1 + 2 ^ unitLimit := by omega
  rw [firstUnits, Nat.min_eq_left (Nat.le_of_lt short), Nat.one_shiftLeft, BitVec.toNat_ofNat,
    BitVec.toNat_sub, BitVec.toNat_twoPow, Nat.mod_eq_of_lt fits]
  change _ = (2 ^ unitLimit - 1 + 2 ^ number) % 2 ^ unitLimit
  rw [borrowed, Nat.add_mod_right]

theorem twoPow_ne_zero {unit : Nat} (short : unit < unitLimit) :
    BitVec.twoPow unitLimit unit ≠ 0 := by
  intro zero
  have present := BitVec.getLsbD_twoPow (w := unitLimit) unit unit
  simp [zero, short] at present

theorem and_twoPow_ne_zero (units : UnitSet) {unit : Nat} (short : unit < unitLimit) :
    (units.bits &&& .twoPow unitLimit unit != 0) = units.contains unit := by
  rw [BitVec.and_twoPow, contains]
  cases units.bits.getLsbD unit with
  | true => simpa using twoPow_ne_zero short
  | false => simp

theorem checkedFirstUnits_eq (number : Nat) : checkedFirstUnits number = .ok (firstUnits number) := by
  unfold checkedFirstUnits
  split
  case isTrue long => rw [firstUnits_of_le long, Checked.pure_eq]
  case isFalse short =>
    have short := Nat.lt_of_not_le short
    rw [Checked.bit_eq short, Checked.ok_bind, Checked.decrement_eq (twoPow_ne_zero short),
      firstUnits_of_lt short]
    rfl

theorem checkedSingleton_eq (unit : Nat) : checkedSingleton unit = .ok (singleton unit) := by
  rw [checkedSingleton, Checked.bit_eq (Nat.mod_lt unit (by decide))]
  rfl

theorem checkedContains_eq (units : UnitSet) (unit : Nat) :
    units.checkedContains unit = .ok (units.contains unit) := by
  unfold checkedContains
  split
  case isTrue short =>
    rw [Checked.bit_eq short, Checked.ok_bind, units.and_twoPow_ne_zero short]
    rfl
  case isFalse long =>
    have absent : units.contains unit = false := BitVec.getLsbD_of_ge _ _ (Nat.le_of_not_lt long)
    rw [absent]
    rfl

theorem checkedErase_eq (units : UnitSet) (unit : Nat) :
    units.checkedErase unit = .ok (units.erase unit) := by
  rw [checkedErase, Checked.bit_eq (Nat.mod_lt unit (by decide))]
  rfl

theorem checkedInsert_eq (units : UnitSet) (unit : Fin unitLimit) :
    units.checkedInsert unit = .ok (units.insert unit) := by
  rw [checkedInsert, Checked.bit_eq unit.isLt, insert, singleton_of_lt unit.isLt]
  rfl

/-- Without the guard of the occupancy, the first unit that does not fit is a trap. -/
example : UnitSet.empty.checkedInsert 64 = .error (.shift 64) := rfl

theorem checkedTake_eq (units : UnitSet) (unit : Fin unitLimit) :
    units.checkedTake unit = .ok (units.take unit) := by
  rw [checkedTake, Checked.bit_eq unit.isLt, Checked.ok_bind, units.and_twoPow_ne_zero unit.isLt,
    take, erase, singleton_of_lt unit.isLt]
  rfl

end UnitSet

namespace Occupancy

variable (occupancy : Occupancy)

def checkedReportIdle (unit : Nat) : Checked Occupancy :=
  if unit < occupancy.units then do
    let taken ← occupancy.victims.checkedTake unit
    let record ← Checked.read occupancy.records unit
    let records ← Checked.write occupancy.records unit { record with running := none }
    let idle ← occupancy.idle.checkedInsert unit
    return { occupancy with victims := taken.2, records, idle }
  else
    return occupancy

def checkedReportBusy (unit : Nat) : Checked Occupancy :=
  if unit < occupancy.units then do
    let taken ← occupancy.idle.checkedTake unit
    return { occupancy with idle := taken.2 }
  else
    return occupancy

/-- The victims after a unit was reported to run a task of a new tier. -/
def checkedVictims (unit : Nat) (tier : Tier) : Checked UnitSet :=
  if occupancy.victimTier ≤ tier then
    occupancy.victims.checkedInsert unit
  else do
    let taken ← occupancy.victims.checkedTake unit
    return taken.2

def checkedReportRunning (unit : Nat) (tier : Tier) : Checked (Bool × Occupancy) :=
  if unit < occupancy.units then do
    let taken ← occupancy.idle.checkedTake unit
    let record ← Checked.read occupancy.records unit
    if record.running = some tier then
      return (false, { occupancy with idle := taken.2 })
    else
      let records ← Checked.write occupancy.records unit { record with running := some tier }
      let victims ← occupancy.checkedVictims unit tier
      return (true, { occupancy with idle := taken.2, records, victims })
  else
    return (false, occupancy)

def checkedTakeIdle : List UnitSet → Checked (Option Nat × Occupancy)
  | [] => return (none, occupancy)
  | preferred :: others =>
    match (occupancy.idle.inter preferred).first? with
    | none => checkedTakeIdle others
    | some unit => do
      let taken ← occupancy.idle.checkedTake unit
      return (some unit, { occupancy with idle := taken.2 })

def checkedSearchVictim (tier : Tier) (now : Nanos) (candidates : UnitSet) :
    (probes : Nat) → Checked (Option Nat)
  | 0 => return none
  | probes + 1 =>
    match candidates.first? with
    | none => return none
    | some unit => do
      let others ← candidates.checkedErase unit
      if unit < occupancy.units then
        let record ← Checked.read occupancy.records unit
        if record.runsBelow tier && record.cooledDown now occupancy.cooldown then
          return some unit
        else
          checkedSearchVictim tier now others probes
      else
        checkedSearchVictim tier now others probes

def checkedChooseVictim (tier : Tier) (now : Nanos) : Checked (Option Nat × Occupancy) := do
  match ← occupancy.checkedSearchVictim tier now occupancy.victims probeLimit with
  | none => return (none, occupancy)
  | some unit =>
    let record ← Checked.read occupancy.records unit
    let records ← Checked.write occupancy.records unit (record.choose now)
    return (some unit, { occupancy with records })

theorem checkedReportIdle_eq (unit : Nat) :
    occupancy.checkedReportIdle unit = .ok (occupancy.reportIdle unit) := by
  cases found : occupancy.slot? unit with
  | none =>
      rw [checkedReportIdle, if_neg (slot?_eq_none_iff.mp found), reportIdle, found,
        Checked.pure_eq]
  | some slot =>
      rcases slot?_eq_some_iff.mp found with ⟨exist, rfl⟩
      rw [checkedReportIdle, if_pos exist, UnitSet.checkedTake_eq, Checked.ok_bind,
        Checked.read_eq _ slot.isLt, Checked.ok_bind, Checked.write_eq _ slot.isLt,
        Checked.ok_bind, UnitSet.checkedInsert_eq, reportIdle, found]
      rfl

theorem checkedReportBusy_eq (unit : Nat) :
    occupancy.checkedReportBusy unit = .ok (occupancy.reportBusy unit) := by
  cases found : occupancy.slot? unit with
  | none =>
      rw [checkedReportBusy, if_neg (slot?_eq_none_iff.mp found), reportBusy, found,
        Checked.pure_eq]
  | some slot =>
      rcases slot?_eq_some_iff.mp found with ⟨exist, rfl⟩
      rw [checkedReportBusy, if_pos exist, UnitSet.checkedTake_eq, reportBusy, found]
      rfl

theorem checkedVictims_eq (slot : Fin unitLimit) (tier : Tier) :
    occupancy.checkedVictims slot tier =
      .ok (if occupancy.victimTier ≤ tier then occupancy.victims.insert slot
        else occupancy.victims.erase slot) := by
  unfold checkedVictims
  split
  · exact UnitSet.checkedInsert_eq occupancy.victims slot
  · rw [UnitSet.checkedTake_eq]
    rfl

theorem checkedReportRunning_eq (unit : Nat) (tier : Tier) :
    occupancy.checkedReportRunning unit tier = .ok (occupancy.reportRunning unit tier) := by
  cases found : occupancy.slot? unit with
  | none =>
      rw [checkedReportRunning, if_neg (slot?_eq_none_iff.mp found), reportRunning, found,
        Checked.pure_eq]
  | some slot =>
      rcases slot?_eq_some_iff.mp found with ⟨exist, rfl⟩
      rw [checkedReportRunning, if_pos exist, UnitSet.checkedTake_eq, Checked.ok_bind,
        Checked.read_eq _ slot.isLt, Checked.ok_bind, Checked.write_eq _ slot.isLt,
        Checked.ok_bind, checkedVictims_eq, reportRunning, found]
      change (if (occupancy.record slot).running = some tier then _ else _) =
        Except.ok (if (occupancy.record slot).running = some tier then _ else _)
      split <;> rfl

theorem checkedTakeIdle_eq (preferences : List UnitSet) :
    occupancy.checkedTakeIdle preferences = .ok (occupancy.takeIdle preferences) := by
  induction preferences with
  | nil => rfl
  | cons preferred others ih =>
      rw [checkedTakeIdle, takeIdle]
      cases (occupancy.idle.inter preferred).first? with
      | none => exact ih
      | some slot =>
          dsimp only
          rw [UnitSet.checkedTake_eq]
          rfl

theorem checkedSearchVictim_eq (tier : Tier) (now : Nanos) (candidates : UnitSet) (probes : Nat) :
    occupancy.checkedSearchVictim tier now candidates probes =
      .ok ((occupancy.searchVictim tier now candidates probes).map Fin.val) := by
  induction probes generalizing candidates with
  | zero => rfl
  | succ probes ih =>
      rw [checkedSearchVictim, searchVictim]
      cases candidates.first? with
      | none => rfl
      | some slot =>
          simp only [UnitSet.checkedErase_eq, Checked.ok_bind, Checked.read_eq _ slot.isLt, ih,
            eligible, Bool.and_assoc]
          by_cases exist : slot < occupancy.units
          · rw [if_pos exist, decide_eq_true exist, Bool.true_and]
            change (if (occupancy.record slot).runsBelow tier &&
              (occupancy.record slot).cooledDown now occupancy.cooldown then _ else _) = _
            split <;> rfl
          · rw [if_neg exist, decide_eq_false exist, Bool.false_and]
            rfl

theorem checkedChooseVictim_eq (tier : Tier) (now : Nanos) :
    occupancy.checkedChooseVictim tier now = .ok (occupancy.chooseVictim tier now) := by
  rw [checkedChooseVictim, checkedSearchVictim_eq, chooseVictim]
  cases occupancy.searchVictim tier now occupancy.victims probeLimit with
  | none => rfl
  | some slot =>
      simp only [Option.map_some, Checked.ok_bind, Checked.read_eq _ slot.isLt,
        Checked.write_eq _ slot.isLt]
      rfl

end Occupancy

namespace Topology

variable (topology : Topology)

def checkedDomainOf (unit : Nat) : Checked UnitSet := do
  let found ← topology.domains.findM? fun domain => domain.checkedContains unit
  return found.getD .empty

def checkedPreferences (previous : Option Nat) (tier : Tier) : Checked (List UnitSet) := do
  let known := previous.filter fun unit => unit < topology.units
  let same ← known.elim (pure .empty) UnitSet.checkedSingleton
  let near ← known.elim (pure .empty) topology.checkedDomainOf
  let all ← UnitSet.checkedFirstUnits topology.units
  return [same, if tier ≤ .critical then topology.fast else .empty, near, all]

theorem checkedDomainOf_eq (unit : Nat) :
    topology.checkedDomainOf unit = .ok (topology.domainOf unit) := by
  simp only [checkedDomainOf, UnitSet.checkedContains_eq, ← Checked.pure_eq, List.findM?_pure,
    pure_bind]
  rfl

theorem checkedPreferences_eq (previous : Option Nat) (tier : Tier) :
    topology.checkedPreferences previous tier = .ok (topology.preferences previous tier) := by
  simp only [checkedPreferences, preferences, UnitSet.checkedFirstUnits_eq]
  cases previous.filter fun unit => unit < topology.units with
  | none => rfl
  | some unit =>
      simp only [Option.elim_some, UnitSet.checkedSingleton_eq, checkedDomainOf_eq, Checked.ok_bind,
        Checked.pure_eq, Option.map_some, Option.getD_some]

end Topology

end TierSched
