import TierSched.Unit.Occupancy

/-!
# The occupancy as it was reported

The idle units, the victims and the records of the units are kept apart, and no action on an occupancy
touches all three. `Occupancy.Faithful` says how they belong together: the victims are the units whose
record shows the victim tier or a lower one, an idle unit has a record without a tier, and no set
contains a unit that does not exist. It is shown that every action keeps this, whichever unit it names,
so it holds after every sequence of actions.

A report that a unit runs the same tier again leaves the victims alone. In a faithful occupancy this
makes no difference: `Occupancy.rewriteRunning` enters the tier and the victim in any case, and yields
the same occupancy.
-/

namespace TierSched

namespace UnitSet

@[simp]
theorem slot_mod_unitLimit (slot : Fin unitLimit) : (slot : Nat) % unitLimit = slot :=
  Nat.mod_eq_of_lt slot.isLt

/-- Entering a unit or taking it out decides about this unit only. -/
theorem mem_ite_insert_erase {condition : Prop} [Decidable condition] {unit : Nat}
    {slot : Fin unitLimit} {units : UnitSet} :
    unit ∈ (if condition then units.insert slot else units.erase slot) ↔
      if unit = slot then condition else unit ∈ units := by
  by_cases holds : condition
  · by_cases same : unit = slot
    · simp [holds, same]
    · simp [holds, same]
  · by_cases same : unit = slot
    · simp [holds, same]
    · simp [holds, same]

end UnitSet

namespace Occupancy

/-- Something that is done with an occupancy. -/
inductive Action where
  | reportIdle (unit : Nat)
  | reportBusy (unit : Nat)
  | reportRunning (unit : Nat) (tier : Tier)
  | takeIdle (preferences : List UnitSet)
  | chooseVictim (tier : Tier) (now : Nanos)
deriving DecidableEq, Repr

/-- The occupancy after an action. -/
def perform (occupancy : Occupancy) : Action → Occupancy
  | .reportIdle unit => occupancy.reportIdle unit
  | .reportBusy unit => occupancy.reportBusy unit
  | .reportRunning unit tier => (occupancy.reportRunning unit tier).2
  | .takeIdle preferences => (occupancy.takeIdle preferences).2
  | .chooseVictim tier now => (occupancy.chooseVictim tier now).2

/-- The occupancy after a sequence of actions. -/
def performAll (occupancy : Occupancy) (actions : List Action) : Occupancy :=
  actions.foldl perform occupancy

/-- A unit runs a task of the given tier: enters the tier and the victim in any case. -/
def rewriteRunning (occupancy : Occupancy) (unit : Nat) (tier : Tier) : Occupancy :=
  match occupancy.slot? unit with
  | none => occupancy
  | some slot =>
    { occupancy.setRecord slot { occupancy.record slot with running := some tier } with
      idle := occupancy.idle.erase slot
      victims :=
        if occupancy.victimTier ≤ tier then occupancy.victims.insert slot
        else occupancy.victims.erase slot }

/-- The sets of idle units and of victims agree with the records. -/
structure Faithful (occupancy : Occupancy) : Prop where
  idle_lt : ∀ unit ∈ occupancy.idle, unit < occupancy.units
  victims_lt : ∀ unit ∈ occupancy.victims, unit < occupancy.units
  idle_running : ∀ slot : Fin unitLimit, (slot : Nat) ∈ occupancy.idle →
    (occupancy.record slot).running = none
  victim_iff : ∀ slot : Fin unitLimit, (slot : Nat) ∈ occupancy.victims ↔
    (slot : Nat) < occupancy.units ∧
      ∃ tier, (occupancy.record slot).running = some tier ∧ occupancy.victimTier ≤ tier

theorem running?_of_lt {occupancy : Occupancy} {unit : Nat} (exist : unit < occupancy.units) :
    occupancy.running? unit =
      (occupancy.record ⟨unit, Nat.lt_of_lt_of_le exist occupancy.units_le⟩).running := by
  rw [running?, slot?, dif_pos exist]
  rfl

/-- A report is believed, whether it changes anything or not. -/
theorem running?_reportRunning_self {occupancy : Occupancy} {unit : Nat}
    (exist : unit < occupancy.units) (tier : Tier) :
    (occupancy.reportRunning unit tier).2.running? unit = some tier := by
  rw [reportRunning, slot?, dif_pos exist]
  simp only
  split
  · rename_i same
    exact (running?_of_lt exist).trans same
  · refine (running?_of_lt ?_).trans ?_
    · exact exist
    · exact congrArg UnitRecord.running (record_setRecord_self _ _ _)

theorem slot_lt {occupancy : Occupancy} {unit : Nat} {slot : Fin unitLimit}
    (found : occupancy.slot? unit = some slot) : (slot : Nat) < occupancy.units := by
  rcases slot?_eq_some_iff.mp found with ⟨exist, unit_eq⟩
  rwa [← unit_eq]

theorem setRecord_record (occupancy : Occupancy) (slot : Fin unitLimit) :
    occupancy.setRecord slot (occupancy.record slot) = occupancy := by
  simp [setRecord, record]

theorem running_setRecord (occupancy : Occupancy) {slot : Fin unitLimit} {record : UnitRecord}
    (same : record.running = (occupancy.record slot).running) (read : Fin unitLimit) :
    ((occupancy.setRecord slot record).record read).running =
      (occupancy.record read).running := by
  by_cases own : slot = read
  · rw [← own, record_setRecord_self, same]
  · rw [record_setRecord_of_ne _ _ own]

theorem faithful_initial (units : Nat) (victimTier : Tier) (cooldown : Nanos) :
    (initial units victimTier cooldown).Faithful := by
  have running : ∀ slot, ((initial units victimTier cooldown).record slot).running = none := by
    intro slot
    simp [initial, record]
  refine ⟨?_, ?_, ?_, ?_⟩
  · intro unit member
    exact absurd member (UnitSet.not_mem_empty unit)
  · intro unit member
    exact absurd member (UnitSet.not_mem_empty unit)
  · intro slot _
    exact running slot
  · intro slot
    rw [running]
    refine iff_of_false (UnitSet.not_mem_empty slot) ?_
    rintro ⟨_, tier, impossible, _⟩
    contradiction

namespace Faithful

variable {occupancy : Occupancy}

/-- Units may leave the idle set at any time. -/
theorem shrinkIdle (faithful : occupancy.Faithful) {idle : UnitSet}
    (subset : ∀ unit ∈ idle, unit ∈ occupancy.idle) :
    { occupancy with idle }.Faithful := by
  refine ⟨?_, faithful.victims_lt, ?_, faithful.victim_iff⟩
  · intro unit member
    exact faithful.idle_lt unit (subset unit member)
  · intro slot member
    exact faithful.idle_running slot (subset slot member)

/-- One unit is entered anew: nothing changes for the other units, and both sets agree with what is
entered. -/
theorem enter (faithful : occupancy.Faithful) {slot : Fin unitLimit}
    (exist : (slot : Nat) < occupancy.units) {record : UnitRecord} {idle victims : UnitSet}
    (idle_other : ∀ unit ∈ idle, unit ≠ slot → unit ∈ occupancy.idle)
    (idle_self : (slot : Nat) ∈ idle → record.running = none)
    (victims_other : ∀ unit : Nat, unit ≠ slot → (unit ∈ victims ↔ unit ∈ occupancy.victims))
    (victims_self : (slot : Nat) ∈ victims ↔
      ∃ tier, record.running = some tier ∧ occupancy.victimTier ≤ tier) :
    { occupancy.setRecord slot record with idle, victims }.Faithful := by
  refine ⟨?_, ?_, ?_, ?_⟩
  · intro unit member
    by_cases same : unit = slot
    · rwa [same]
    · exact faithful.idle_lt unit (idle_other unit member same)
  · intro unit member
    by_cases same : unit = slot
    · rwa [same]
    · exact faithful.victims_lt unit ((victims_other unit same).mp member)
  · intro read member
    by_cases same : read = slot
    · subst read
      change ((occupancy.setRecord slot record).record slot).running = none
      rw [record_setRecord_self]
      exact idle_self member
    · change ((occupancy.setRecord slot record).record read).running = none
      rw [record_setRecord_of_ne _ _ (Ne.symm same)]
      exact faithful.idle_running read (idle_other read member (Fin.val_ne_of_ne same))
  · intro read
    by_cases same : read = slot
    · subst read
      change _ ↔ (slot : Nat) < occupancy.units ∧
        ∃ tier, ((occupancy.setRecord slot record).record slot).running = some tier ∧
          occupancy.victimTier ≤ tier
      rw [record_setRecord_self, victims_self]
      exact (and_iff_right exist).symm
    · change _ ↔ (read : Nat) < occupancy.units ∧
        ∃ tier, ((occupancy.setRecord slot record).record read).running = some tier ∧
          occupancy.victimTier ≤ tier
      rw [record_setRecord_of_ne _ _ (Ne.symm same)]
      exact (victims_other read (Fin.val_ne_of_ne same)).trans (faithful.victim_iff read)

theorem reportIdle (faithful : occupancy.Faithful) (unit : Nat) :
    (occupancy.reportIdle unit).Faithful := by
  cases found : occupancy.slot? unit with
  | none => simpa only [Occupancy.reportIdle, found] using faithful
  | some slot =>
      simp only [Occupancy.reportIdle, found]
      refine faithful.enter (slot_lt found) ?_ ?_ ?_ ?_
      · intro other member different
        rcases UnitSet.mem_insert.mp member with same | old
        · exact absurd same different
        · exact old
      · intro _
        rfl
      · intro other different
        simp [different]
      · simp

theorem reportBusy (faithful : occupancy.Faithful) (unit : Nat) :
    (occupancy.reportBusy unit).Faithful := by
  cases found : occupancy.slot? unit with
  | none => simpa only [Occupancy.reportBusy, found] using faithful
  | some slot =>
      simp only [Occupancy.reportBusy, found]
      exact faithful.shrinkIdle fun _ member => (UnitSet.mem_erase.mp member).1

theorem rewriteRunning (faithful : occupancy.Faithful) (unit : Nat) (tier : Tier) :
    (occupancy.rewriteRunning unit tier).Faithful := by
  cases found : occupancy.slot? unit with
  | none => simpa only [Occupancy.rewriteRunning, found] using faithful
  | some slot =>
      simp only [Occupancy.rewriteRunning, found]
      refine faithful.enter (slot_lt found) ?_ ?_ ?_ ?_
      · intro other member _
        exact (UnitSet.mem_erase.mp member).1
      · intro member
        simp at member
      · intro other different
        rw [UnitSet.mem_ite_insert_erase, if_neg different]
      · rw [UnitSet.mem_ite_insert_erase, if_pos rfl]
        simp

/-- In a faithful occupancy, nothing is lost by leaving the victims alone when the tier is the same. -/
theorem reportRunning_eq_rewriteRunning (faithful : occupancy.Faithful) (unit : Nat) (tier : Tier) :
    (occupancy.reportRunning unit tier).2 = occupancy.rewriteRunning unit tier := by
  cases found : occupancy.slot? unit with
  | none => simp only [Occupancy.reportRunning, Occupancy.rewriteRunning, found]
  | some slot =>
      simp only [Occupancy.reportRunning, Occupancy.rewriteRunning, found]
      by_cases same : (occupancy.record slot).running = some tier
      · have record_eq : { occupancy.record slot with running := some tier } =
            occupancy.record slot := by
          rw [← same]
        have victim_iff := faithful.victim_iff slot
        rw [same] at victim_iff
        have victims_eq : occupancy.victims = if occupancy.victimTier ≤ tier then
            occupancy.victims.insert slot else occupancy.victims.erase slot := by
          apply UnitSet.ext_mem
          intro other
          rw [UnitSet.mem_ite_insert_erase]
          split
          · rename_i own
            rw [own, victim_iff]
            simp [slot_lt found]
          · rfl
        rw [if_pos same, record_eq, setRecord_record, ← victims_eq]
      · rw [if_neg same]
        rfl

theorem takeIdle (faithful : occupancy.Faithful) (preferences : List UnitSet) :
    (occupancy.takeIdle preferences).2.Faithful := by
  induction preferences with
  | nil => exact faithful
  | cons preferred others ih =>
      rw [Occupancy.takeIdle]
      split
      · exact ih
      · exact faithful.shrinkIdle fun _ member => (UnitSet.mem_erase.mp member).1

/-- A record may change as long as it shows the same tier. -/
theorem setRecord (faithful : occupancy.Faithful) {slot : Fin unitLimit} {record : UnitRecord}
    (same : record.running = (occupancy.record slot).running) :
    (occupancy.setRecord slot record).Faithful := by
  have running_eq := occupancy.running_setRecord same
  refine ⟨faithful.idle_lt, faithful.victims_lt, ?_, ?_⟩
  · intro read member
    rw [running_eq]
    exact faithful.idle_running read member
  · intro read
    rw [running_eq]
    exact faithful.victim_iff read

theorem chooseVictim (faithful : occupancy.Faithful) (tier : Tier) (now : Nanos) :
    (occupancy.chooseVictim tier now).2.Faithful := by
  rw [Occupancy.chooseVictim]
  split
  · exact faithful
  · exact faithful.setRecord rfl

theorem perform (faithful : occupancy.Faithful) (action : Action) :
    (occupancy.perform action).Faithful := by
  cases action with
  | reportIdle unit => exact faithful.reportIdle unit
  | reportBusy unit => exact faithful.reportBusy unit
  | reportRunning unit tier =>
      change (occupancy.reportRunning unit tier).2.Faithful
      rw [faithful.reportRunning_eq_rewriteRunning]
      exact faithful.rewriteRunning unit tier
  | takeIdle preferences => exact faithful.takeIdle preferences
  | chooseVictim tier now => exact faithful.chooseVictim tier now

theorem performAll (faithful : occupancy.Faithful) (actions : List Action) :
    (occupancy.performAll actions).Faithful := by
  induction actions generalizing occupancy with
  | nil => exact faithful
  | cons action others ih => exact ih (faithful.perform action)

end Faithful

/-- No action changes what an occupancy was set up with. -/
theorem perform_frame (occupancy : Occupancy) (action : Action) :
    (occupancy.perform action).units = occupancy.units ∧
      (occupancy.perform action).victimTier = occupancy.victimTier ∧
        (occupancy.perform action).cooldown = occupancy.cooldown := by
  cases action with
  | reportIdle unit =>
      simp only [perform, reportIdle]
      split <;> exact ⟨rfl, rfl, rfl⟩
  | reportBusy unit =>
      simp only [perform, reportBusy]
      split <;> exact ⟨rfl, rfl, rfl⟩
  | reportRunning unit tier =>
      simp only [perform, reportRunning]
      split
      · exact ⟨rfl, rfl, rfl⟩
      · split <;> exact ⟨rfl, rfl, rfl⟩
  | takeIdle preferences =>
      simp only [perform]
      induction preferences with
      | nil => exact ⟨rfl, rfl, rfl⟩
      | cons preferred others ih =>
          rw [takeIdle]
          split
          · exact ih
          · exact ⟨rfl, rfl, rfl⟩
  | chooseVictim tier now =>
      simp only [perform, chooseVictim]
      split <;> exact ⟨rfl, rfl, rfl⟩

theorem performAll_frame (occupancy : Occupancy) (actions : List Action) :
    (occupancy.performAll actions).units = occupancy.units ∧
      (occupancy.performAll actions).victimTier = occupancy.victimTier := by
  induction actions generalizing occupancy with
  | nil => exact ⟨rfl, rfl⟩
  | cons action others ih =>
      rcases occupancy.perform_frame action with ⟨units_eq, victimTier_eq, _⟩
      rcases ih (occupancy.perform action) with ⟨rest_units_eq, rest_victimTier_eq⟩
      exact ⟨rest_units_eq.trans units_eq, rest_victimTier_eq.trans victimTier_eq⟩

/-- After any sequence of actions, the sets contain units that exist only; a unit is a victim exactly
if it was last reported to run the victim tier or a lower one; an idle unit runs nothing, hence is no
victim; and entering a tier that is already entered would change nothing. -/
theorem sets_agree_with_records (units : Nat) (victimTier : Tier) (cooldown : Nanos)
    (actions : List Action) :
    let occupancy := (initial units victimTier cooldown).performAll actions
    (∀ unit, min units unitLimit ≤ unit → unit ∉ occupancy.idle ∧ unit ∉ occupancy.victims) ∧
      (∀ unit, unit < min units unitLimit → (unit ∈ occupancy.victims ↔
        ∃ tier, occupancy.running? unit = some tier ∧ victimTier ≤ tier)) ∧
      (∀ unit ∈ occupancy.idle, occupancy.running? unit = none ∧ unit ∉ occupancy.victims) ∧
      ∀ unit tier, (occupancy.reportRunning unit tier).2 = occupancy.rewriteRunning unit tier := by
  intro occupancy
  have faithful : occupancy.Faithful :=
    (faithful_initial units victimTier cooldown).performAll actions
  rcases (initial units victimTier cooldown).performAll_frame actions with
    ⟨units_eq, victimTier_eq⟩
  change occupancy.units = min units unitLimit at units_eq
  change occupancy.victimTier = victimTier at victimTier_eq
  rw [← units_eq, ← victimTier_eq]
  have victim_iff : ∀ unit, unit < occupancy.units → (unit ∈ occupancy.victims ↔
      ∃ tier, occupancy.running? unit = some tier ∧ occupancy.victimTier ≤ tier) := by
    intro unit exist
    rw [running?_of_lt exist]
    exact (faithful.victim_iff ⟨unit, _⟩).trans (and_iff_right exist)
  refine ⟨?_, victim_iff, ?_, faithful.reportRunning_eq_rewriteRunning⟩
  · intro unit missing
    refine ⟨?_, ?_⟩
    · intro member
      exact absurd (faithful.idle_lt unit member) (Nat.not_lt.mpr missing)
    · intro member
      exact absurd (faithful.victims_lt unit member) (Nat.not_lt.mpr missing)
  · intro unit member
    have exist := faithful.idle_lt unit member
    have idle : occupancy.running? unit = none := by
      rw [running?_of_lt exist]
      exact faithful.idle_running ⟨unit, _⟩ member
    refine ⟨idle, ?_⟩
    rw [victim_iff unit exist, idle]
    rintro ⟨tier, impossible, _⟩
    contradiction

/-- A unit that went idle again and a victim that was chosen, next to a report about a unit that does
not exist. -/
theorem sets_agree_after_choice :
    let occupancy := (initial 2 .interactive 5).performAll
      [.reportIdle 0, .reportRunning 1 .batch, .reportRunning 9 .batch, .chooseVictim .realtime 7,
        .takeIdle [.firstUnits 2], .reportIdle 0]
    0 ∈ occupancy.idle ∧ occupancy.running? 0 = none ∧ 0 ∉ occupancy.victims ∧
      1 ∈ occupancy.victims ∧ (∃ tier, occupancy.running? 1 = some tier ∧ .interactive ≤ tier) ∧
      9 ∉ occupancy.victims := by
  intro occupancy
  rcases sets_agree_with_records 2 .interactive 5
    [.reportIdle 0, .reportRunning 1 .batch, .reportRunning 9 .batch, .chooseVictim .realtime 7,
      .takeIdle [.firstUnits 2], .reportIdle 0] with ⟨outside, victim_iff, idle_running, _⟩
  have idle : 0 ∈ occupancy.idle := by decide +kernel
  have victim : 1 ∈ occupancy.victims := by decide +kernel
  exact ⟨idle, (idle_running 0 idle).1, (idle_running 0 idle).2, victim,
    (victim_iff 1 (by decide)).mp victim, (outside 9 (by decide)).2⟩

end Occupancy

end TierSched
