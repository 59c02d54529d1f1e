import TierSched.Unit.Set

/-!
# The occupancy of the execution units

The occupancy says for every unit what its owner last reported: whether it is idle and the tier
of the task it runs. From this it keeps two sets, the idle units and the victims, which are the
units that run a task of the victim tier or a lower one. Looking for an idle unit or for a victim is
then a search for the lowest member of a set.

A search for a victim also remembers when it succeeded, so that the same unit is not kicked again
before its cooldown has passed. Reports about units that do not exist are ignored.
-/

namespace TierSched

/-- What is known about one unit. -/
structure UnitRecord where
  /-- The tier of the task that the unit was last reported to run, none when it went idle. -/
  running : Option Tier := none
  /-- When the unit was last chosen as a victim, zero if it never was. -/
  chosenAt : Nanos := 0
deriving DecidableEq, Repr

namespace UnitRecord

/-- The code under which a unit that runs nothing is shown; a tier is shown by its rank. -/
def idleCode : UInt8 := 255

/-- The cooldown since the unit was last chosen has passed. -/
def cooledDown (record : UnitRecord) (now cooldown : Nanos) : Bool :=
  record.chosenAt == 0 || cooldown ≤ Nanos.elapsed record.chosenAt now

/-- The unit runs a task of a lower tier than the given one. -/
def runsBelow (record : UnitRecord) (tier : Tier) : Bool :=
  record.running.any fun running => tier < running

/-- The record after the unit was chosen; the reading zero is stored as one. -/
def choose (record : UnitRecord) (now : Nanos) : UnitRecord :=
  { record with chosenAt := max now 1 }

theorem toNat_chosenAt_choose (record : UnitRecord) (now : Nanos) :
    (record.choose now).chosenAt.toNat = max now.toNat 1 := by
  change (if now ≤ 1 then 1 else now).toNat = max now.toNat 1
  split
  · rename_i early
    exact (Nat.max_eq_right (UInt64.le_iff_toNat_le.mp early)).symm
  · rename_i late
    have late : ¬now.toNat ≤ 1 := fun early => late (UInt64.le_iff_toNat_le.mpr early)
    omega

theorem chosenAt_choose_ne_zero (record : UnitRecord) (now : Nanos) :
    (record.choose now).chosenAt ≠ 0 := by
  intro zero
  have stored := record.toNat_chosenAt_choose now
  rw [zero, UInt64.toNat_zero] at stored
  omega

theorem chosenAt_choose_of_ne_zero (record : UnitRecord) {now : Nanos} (nonzero : now ≠ 0) :
    (record.choose now).chosenAt = now := by
  have positive : now.toNat ≠ 0 := fun zero => nonzero (UInt64.toNat_inj.mp zero)
  apply UInt64.toNat_inj.mp
  rw [toNat_chosenAt_choose]
  omega

end UnitRecord

/-- The reports about all units. -/
structure Occupancy where
  /-- The number of units. -/
  units : Nat
  /-- The highest tier whose units are victims. -/
  victimTier : Tier
  /-- The least time between two choices of the same victim. -/
  cooldown : Nanos
  idle : UnitSet
  victims : UnitSet
  records : Vector UnitRecord unitLimit
  units_le : units ≤ unitLimit
deriving DecidableEq, Repr

namespace Occupancy

/-- The number of victims that a search looks at. -/
def probeLimit : Nat := 4

/-- The occupancy of up to `unitLimit` units that have not reported yet: none is idle and none runs
a task. -/
def initial (units : Nat) (victimTier : Tier) (cooldown : Nanos) : Occupancy where
  units := min units unitLimit
  victimTier
  cooldown
  idle := .empty
  victims := .empty
  records := .replicate unitLimit {}
  units_le := Nat.min_le_right units unitLimit

/-- The place of a unit that exists. -/
def slot? (occupancy : Occupancy) (unit : Nat) : Option (Fin unitLimit) :=
  if exist : unit < occupancy.units then
    some ⟨unit, Nat.lt_of_lt_of_le exist occupancy.units_le⟩
  else
    none

/-- The record at a place. -/
def record (occupancy : Occupancy) (slot : Fin unitLimit) : UnitRecord :=
  occupancy.records[slot]

/-- The occupancy with the record at a place replaced. -/
def setRecord (occupancy : Occupancy) (slot : Fin unitLimit) (record : UnitRecord) : Occupancy :=
  { occupancy with records := occupancy.records.set slot record }

/-- Whether a unit is known to be idle. -/
def isIdle (occupancy : Occupancy) (unit : Nat) : Bool :=
  (occupancy.slot? unit).any fun slot => occupancy.idle.contains slot

/-- Whether a unit may be kicked for a task of a high tier. -/
def isVictim (occupancy : Occupancy) (unit : Nat) : Bool :=
  (occupancy.slot? unit).any fun slot => occupancy.victims.contains slot

/-- The tier that a unit runs, none for an idle unit. -/
def running? (occupancy : Occupancy) (unit : Nat) : Option Tier :=
  (occupancy.slot? unit).bind fun slot => (occupancy.record slot).running

/-- A unit went idle. -/
def reportIdle (occupancy : Occupancy) (unit : Nat) : Occupancy :=
  match occupancy.slot? unit with
  | none => occupancy
  | some slot =>
    { occupancy.setRecord slot { occupancy.record slot with running := none } with
      victims := occupancy.victims.erase slot
      idle := occupancy.idle.insert slot }

/-- A unit left idle, and its task is not known yet. -/
def reportBusy (occupancy : Occupancy) (unit : Nat) : Occupancy :=
  match occupancy.slot? unit with
  | none => occupancy
  | some slot => { occupancy with idle := occupancy.idle.erase slot }

/-- A unit runs a task of the given tier; also tells whether it did not run that tier before. The
set of victims is touched only if the tier is a new one. -/
def reportRunning (occupancy : Occupancy) (unit : Nat) (tier : Tier) : Bool × Occupancy :=
  match occupancy.slot? unit with
  | none => (false, occupancy)
  | some slot =>
    let busy := { occupancy with idle := occupancy.idle.erase slot }
    if (occupancy.record slot).running = some tier then
      (false, busy)
    else
      (true,
        { busy.setRecord slot { occupancy.record slot with running := some tier } with
          victims :=
            if occupancy.victimTier ≤ tier then occupancy.victims.insert slot
            else occupancy.victims.erase slot })

/-- Takes the lowest idle unit of the first set that has one. -/
def takeIdle (occupancy : Occupancy) : List UnitSet → Option Nat × Occupancy
  | [] => (none, occupancy)
  | preferred :: others =>
    match (occupancy.idle.inter preferred).first? with
    | none => occupancy.takeIdle others
    | some slot => (some slot, { occupancy with idle := occupancy.idle.erase slot })

/-- A victim at this place is worth a kick: it exists, runs a lower tier and has cooled down. -/
def eligible (occupancy : Occupancy) (slot : Fin unitLimit) (tier : Tier) (now : Nanos) : Bool :=
  decide (slot < occupancy.units) && (occupancy.record slot).runsBelow tier &&
    (occupancy.record slot).cooledDown now occupancy.cooldown

/-- The lowest eligible unit among the first few candidates. -/
def searchVictim (occupancy : Occupancy) (tier : Tier) (now : Nanos) (candidates : UnitSet) :
    (probes : Nat) → Option (Fin unitLimit)
  | 0 => none
  | probes + 1 =>
    match candidates.first? with
    | none => none
    | some slot =>
      if occupancy.eligible slot tier now then some slot
      else occupancy.searchVictim tier now (candidates.erase slot) probes

/-- Chooses a unit that a waiting task of the given tier should preempt, and starts its cooldown. -/
def chooseVictim (occupancy : Occupancy) (tier : Tier) (now : Nanos) : Option Nat × Occupancy :=
  match occupancy.searchVictim tier now occupancy.victims probeLimit with
  | none => (none, occupancy)
  | some slot => (some slot, occupancy.setRecord slot ((occupancy.record slot).choose now))

theorem slot?_eq_some_iff {occupancy : Occupancy} {unit : Nat} {slot : Fin unitLimit} :
    occupancy.slot? unit = some slot ↔ unit < occupancy.units ∧ unit = slot := by
  unfold slot?
  split
  case isTrue exist => simp [exist, Fin.ext_iff]
  case isFalse missing => simp [missing]

theorem slot?_eq_none_iff {occupancy : Occupancy} {unit : Nat} :
    occupancy.slot? unit = none ↔ ¬unit < occupancy.units := by
  simp [slot?]

@[simp]
theorem record_setRecord_self (occupancy : Occupancy) (slot : Fin unitLimit) (record : UnitRecord) :
    (occupancy.setRecord slot record).record slot = record := by
  simp [setRecord, Occupancy.record]

theorem record_setRecord_of_ne (occupancy : Occupancy) {written read : Fin unitLimit}
    (record : UnitRecord) (different : written ≠ read) :
    (occupancy.setRecord written record).record read = occupancy.record read := by
  simp [setRecord, Occupancy.record, Fin.val_inj, different]

end Occupancy

end TierSched
