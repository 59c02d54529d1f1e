import Mathlib.Data.Finset.Card
import Mathlib.Order.Bounds.Basic
import TierSched.Proofs.Cooldown
import TierSched.Proofs.IdlePlacement

/-!
# The search for a victim

A search looks at four victims at most, from the lowest one upwards, and stops at the first that is worth
a kick. `Occupancy.searchVictim_finds` says this without the order of the search: it finds the lowest
unit that is eligible and has fewer than four victims below it. A unit that was looked at and passed over
keeps its cooldown as it was.

Whether a unit has cooled down is decided by a reading that the occupancy remembers for it. In an
execution this is the reading of the latest kick of this unit for a waiting task, with a reading of zero
remembered as one, so that zero can stand for a unit that was never kicked.
-/

namespace TierSched

/-- An answer is the least of some candidates, and there is none only if there are no candidates. -/
def LeastOf {α : Type} [Preorder α] (candidates : Set α) : Option α → Prop
  | none => ∀ candidate, candidate ∉ candidates
  | some found => IsLeast candidates found

namespace UnitSet

/-- The members of a set below a unit. -/
def below (units : UnitSet) (unit : Nat) : Finset Nat :=
  (Finset.range unit).filter fun lower => lower ∈ units

theorem below_erase (units : UnitSet) (slot : Fin unitLimit) (unit : Nat) :
    (units.erase slot).below unit = (units.below unit).erase slot := by
  ext lower
  simp only [below, Finset.mem_filter, Finset.mem_erase, mem_erase, slot_mod_unitLimit]
  tauto

theorem card_below_erase {units : UnitSet} {slot : Fin unitLimit} {unit : Nat}
    (member : (slot : Nat) ∈ units) (lower : (slot : Nat) < unit) :
    ((units.erase slot).below unit).card + 1 = (units.below unit).card := by
  rw [below_erase]
  apply Finset.card_erase_add_one
  exact Finset.mem_filter.mpr ⟨Finset.mem_range.mpr lower, member⟩

end UnitSet

theorem UnitRecord.cooledDown_iff {record : UnitRecord} {now cooldown : Nanos}
    (positive : cooldown ≠ 0) : record.cooledDown now cooldown = true ↔
      record.chosenAt = 0 ∨ record.chosenAt.toNat + cooldown.toNat ≤ now.toNat := by
  have positive : cooldown.toNat ≠ 0 := fun zero => positive (UInt64.toNat_inj.mp zero)
  rw [cooledDown, Bool.or_eq_true, beq_iff_eq, decide_eq_true_eq, UInt64.le_iff_toNat_le,
    Nanos.toNat_elapsed]
  refine or_congr_right ?_
  omega

namespace Occupancy

/-- A search through the candidates with so many probes can stop at a place. -/
def Candidate (occupancy : Occupancy) (tier : Tier) (now : Nanos) (candidates : UnitSet)
    (probes : Nat) (slot : Fin unitLimit) : Prop :=
  (slot : Nat) ∈ candidates ∧ (candidates.below slot).card < probes ∧
    occupancy.eligible slot tier now = true

/-- If the lowest candidate is not eligible, one probe less is left for the others. -/
theorem candidate_erase {occupancy : Occupancy} {tier : Tier} {now : Nanos} {candidates : UnitSet}
    {probes : Nat} {first slot : Fin unitLimit} (member : (first : Nat) ∈ candidates)
    (lowest : ∀ lower : Nat, lower < first → lower ∉ candidates)
    (passed : ¬occupancy.eligible first tier now = true) :
    occupancy.Candidate tier now (candidates.erase first) probes slot ↔
      occupancy.Candidate tier now candidates (probes + 1) slot := by
  by_cases same : slot = first
  · rw [same]
    exact iff_of_false (fun candidate => passed candidate.2.2) fun candidate => passed candidate.2.2
  · have different : (slot : Nat) ≠ first := Fin.val_ne_of_ne same
    simp only [Candidate, UnitSet.mem_erase, UnitSet.slot_mod_unitLimit, and_assoc]
    refine and_congr_right fun listed => ?_
    have lower : (first : Nat) < slot := by
      have above : ¬(slot : Nat) < first := fun below => lowest slot below listed
      omega
    have card_eq := UnitSet.card_below_erase member lower
    rw [← card_eq, and_iff_right different, Nat.add_lt_add_iff_right]

/-- A search finds the lowest eligible one of the first few candidates. -/
theorem searchVictim_finds (occupancy : Occupancy) (tier : Tier) (now : Nanos)
    (candidates : UnitSet) (probes : Nat) :
    LeastOf {slot | occupancy.Candidate tier now candidates probes slot}
      (occupancy.searchVictim tier now candidates probes) := by
  induction probes generalizing candidates with
  | zero => exact fun slot candidate => Nat.not_lt_zero _ candidate.2.1
  | succ probes ih =>
      rw [searchVictim]
      cases lowest_eq : candidates.first? with
      | none =>
          have nothing := UnitSet.first?_eq_none_iff.mp lowest_eq
          exact fun slot candidate => UnitSet.not_mem_empty _ (nothing ▸ candidate.1)
      | some first =>
          rcases UnitSet.first?_eq_some_iff.mp lowest_eq with ⟨member, lowest⟩
          dsimp only
          split
          · rename_i eligible
            have none_below : candidates.below first = ∅ := by
              rw [UnitSet.below, Finset.filter_eq_empty_iff]
              intro lower listed
              exact lowest lower (Finset.mem_range.mp listed)
            refine ⟨⟨member, ?_, eligible⟩, ?_⟩
            · rw [none_below, Finset.card_empty]
              exact Nat.succ_pos probes
            · intro slot candidate
              exact Nat.le_of_not_lt fun below => lowest slot below candidate.1
          · rename_i passed
            have same : {slot | occupancy.Candidate tier now (candidates.erase first) probes slot} =
                {slot | occupancy.Candidate tier now candidates (probes + 1) slot} :=
              Set.ext fun _ => candidate_erase member lowest passed
            rw [← same]
            exact ih _

/-- The occupancy with the cooldown of a unit started anew. -/
def startCooldown (occupancy : Occupancy) (unit : Nat) (now : Nanos) : Occupancy :=
  match occupancy.slot? unit with
  | none => occupancy
  | some slot => occupancy.setRecord slot ((occupancy.record slot).choose now)

/-- A unit is worth a kick for a waiting task of a tier: it is one of the four lowest victims, it runs
a lower tier, and it has cooled down. -/
structure Kickable (occupancy : Occupancy) (tier : Tier) (now : Nanos) (unit : Nat) : Prop where
  victim : occupancy.isVictim unit = true
  near : ((Finset.range unit).filter fun lower => occupancy.isVictim lower = true).card < 4
  lower : ∃ running, occupancy.running? unit = some running ∧ tier < running
  cooled : ∀ slot : Fin unitLimit, unit = slot →
    (occupancy.record slot).cooledDown now occupancy.cooldown = true

variable {occupancy : Occupancy} {tier : Tier} {now : Nanos}

theorem Faithful.isVictim_iff (faithful : occupancy.Faithful) {unit : Nat} :
    occupancy.isVictim unit = true ↔ unit ∈ occupancy.victims := by
  by_cases exist : unit < occupancy.units
  · simp [isVictim, slot?, exist]
  · have absent : unit ∉ occupancy.victims := fun member => exist (faithful.victims_lt unit member)
    simp [isVictim, slot?, exist, absent]

theorem eligible_iff {slot : Fin unitLimit} (exist : (slot : Nat) < occupancy.units) :
    occupancy.eligible slot tier now = true ↔
      (∃ running, occupancy.running? slot = some running ∧ tier < running) ∧
        (occupancy.record slot).cooledDown now occupancy.cooldown = true := by
  rw [running?_of_lt exist]
  simp [eligible, exist, UnitRecord.runsBelow, Option.any_eq_true]

theorem Faithful.candidate_iff (faithful : occupancy.Faithful) {slot : Fin unitLimit} :
    occupancy.Candidate tier now occupancy.victims probeLimit slot ↔
      occupancy.Kickable tier now slot := by
  have below_eq : occupancy.victims.below slot =
      (Finset.range slot).filter fun lower => occupancy.isVictim lower = true := by
    apply Finset.filter_congr
    intro lower _
    exact faithful.isVictim_iff.symm
  constructor
  · rintro ⟨member, few, eligible⟩
    rcases (eligible_iff (faithful.victims_lt slot member)).mp eligible with ⟨lower, cooled⟩
    refine ⟨faithful.isVictim_iff.mpr member, below_eq ▸ few, lower, ?_⟩
    intro other same
    rwa [← Fin.ext same]
  · intro kickable
    have member := faithful.isVictim_iff.mp kickable.victim
    refine ⟨member, below_eq ▸ kickable.near, ?_⟩
    exact (eligible_iff (faithful.victims_lt slot member)).mpr
      ⟨kickable.lower, kickable.cooled slot rfl⟩

/-- The lowest unit that is worth a kick is chosen, and nothing but its cooldown changes. -/
theorem Faithful.chooseVictim_finds (faithful : occupancy.Faithful) (tier : Tier) (now : Nanos) :
    LeastOf {unit | occupancy.Kickable tier now unit} (occupancy.chooseVictim tier now).1 ∧
      (occupancy.chooseVictim tier now).2 =
        (occupancy.chooseVictim tier now).1.elim occupancy fun unit =>
          occupancy.startCooldown unit now := by
  have finds := occupancy.searchVictim_finds tier now occupancy.victims probeLimit
  rw [Occupancy.chooseVictim]
  cases found : occupancy.searchVictim tier now occupancy.victims probeLimit with
  | none =>
      rw [found] at finds
      refine ⟨?_, rfl⟩
      intro unit kickable
      have exist := UnitSet.lt_of_mem (faithful.isVictim_iff.mp kickable.victim)
      exact finds ⟨unit, exist⟩ (faithful.candidate_iff.mpr kickable)
  | some slot =>
      rw [found] at finds
      have kickable := faithful.candidate_iff.mp finds.1
      have member := faithful.isVictim_iff.mp kickable.victim
      refine ⟨⟨kickable, ?_⟩, ?_⟩
      · intro unit other
        have exist := UnitSet.lt_of_mem (faithful.isVictim_iff.mp other.victim)
        have candidate : occupancy.Candidate tier now occupancy.victims probeLimit ⟨unit, exist⟩ :=
          faithful.candidate_iff.mpr other
        exact finds.2 candidate
      · have slot_eq : occupancy.slot? slot = some slot :=
          slot?_eq_some_iff.mpr ⟨faithful.victims_lt slot member, rfl⟩
        simp only [Option.elim_some, startCooldown, slot_eq]

/-- Only a kick for a waiting task starts the cooldown of its unit. -/
theorem Step.chosenAt_eq {event : Event} {after : Occupancy} {kicks : List Kick}
    (step : Step now event occupancy kicks after) (slot : Fin unitLimit) :
    (after.record slot).chosenAt =
      if ⟨slot, .preemption⟩ ∈ kicks then max now 1 else (occupancy.record slot).chosenAt := by
  cases step with
  | unaffected => simp
  | overran unit => simp
  | report action reported =>
      rw [if_neg List.not_mem_nil]
      exact occupancy.chosenAt_perform reported.quiet slot
  | search tier =>
      rcases occupancy.chooseVictim_cases tier now with missed | ⟨chosen, _, found⟩
      · simp [perform, missed, victimKicks]
      · rw [perform, found]
        by_cases same : chosen = slot
        · simp [victimKicks, same, UnitRecord.choose]
        · have other : (slot : Nat) ≠ chosen := Fin.val_ne_of_ne (Ne.symm same)
          simp [victimKicks, other, record_setRecord_of_ne _ _ same]

end Occupancy

/-- The reading of the latest kick of a unit for a waiting task. -/
def lastKick? (log : List (Nanos × Kick)) (unit : Nat) : Option Nanos :=
  (log.reverse.find? fun logged => logged.2 = ⟨unit, .preemption⟩).map Prod.fst

theorem lastKick?_append (log : List (Nanos × Kick)) (now : Nanos) (kicks : List Kick)
    (unit : Nat) :
    lastKick? (log ++ kicks.map fun kick => (now, kick)) unit =
      if ⟨unit, .preemption⟩ ∈ kicks then some now else lastKick? log unit := by
  rw [lastKick?, List.reverse_append, List.find?_append, Option.map_or]
  cases found : (kicks.map fun kick => (now, kick)).reverse.find?
      fun logged => logged.2 = ⟨unit, .preemption⟩ with
  | none =>
      have absent : ⟨unit, .preemption⟩ ∉ kicks := by
        intro member
        have listed : (now, ⟨unit, .preemption⟩) ∈
            (kicks.map fun kick => (now, kick)).reverse :=
          List.mem_reverse.mpr (List.mem_map_of_mem member)
        simpa using List.find?_eq_none.mp found _ listed
      rw [if_neg absent]
      rfl
  | some logged =>
      have kicked := List.find?_some found
      have listed := List.mem_of_find?_eq_some found
      rcases List.mem_map.mp (List.mem_reverse.mp listed) with ⟨kick, member, rfl⟩
      have own : kick = ⟨unit, .preemption⟩ := of_decide_eq_true kicked
      rw [if_pos (own ▸ member)]
      rfl

namespace Execution

variable (execution : Execution)

theorem cooldown_occupancy :
    execution.scheduler.occupancy.cooldown = execution.config.kickCooldown :=
  execution.remembers.cooldown_eq

/-- The occupancy remembers the latest kick of every unit. -/
theorem chosenAt_eq (slot : Fin unitLimit) :
    (execution.scheduler.occupancy.record slot).chosenAt =
      (lastKick? execution.kickLog slot).elim 0 fun reading => max reading 1 := by
  refine Scheduler.after_induction (motive := fun history scheduler =>
    (scheduler.occupancy.record slot).chosenAt =
      (lastKick? (execution.initial.kickLog history) slot).elim 0 fun reading => max reading 1)
    execution.initial ?_ ?_ execution.history
  · rw [execution.initial_eq]
    simp [Scheduler.initial, Occupancy.initial, Occupancy.record, Scheduler.kickLog, lastKick?]
  · intro earlier now event chosenAt_eq
    have step := (execution.initial.after earlier).occupancyStep_of_handle now event
    rw [Scheduler.kickLog_concat, lastKick?_append, step.chosenAt_eq]
    split
    · rfl
    · exact chosenAt_eq

/-- A unit has cooled down if it was never kicked for a waiting task, or if its latest kick lies at
least the cooldown back. -/
theorem cooledDown_iff (slot : Fin unitLimit) (now : Nanos) :
    (execution.scheduler.occupancy.record slot).cooledDown now
        execution.scheduler.occupancy.cooldown = true ↔
      ∀ reading ∈ lastKick? execution.kickLog slot,
        max reading.toNat 1 + execution.config.kickCooldown.toNat ≤ now.toNat := by
  rw [execution.cooldown_occupancy,
    UnitRecord.cooledDown_iff execution.accepted.kickCooldown_ne_zero, execution.chosenAt_eq]
  cases lastKick? execution.kickLog slot with
  | none => simp
  | some reading =>
      have stored := ({} : UnitRecord).toNat_chosenAt_choose reading
      have never_zero := ({} : UnitRecord).chosenAt_choose_ne_zero reading
      change (max reading 1).toNat = _ at stored
      change max reading 1 ≠ 0 at never_zero
      simp only [Option.elim_some, never_zero, false_or, stored, Option.mem_some_iff,
        forall_eq']

end Execution

end TierSched
