import Mathlib.Data.Nat.ModEq
import Mathlib.Logic.Function.Iterate
import TierSched.Proofs.Profile

/-!
# The cycle of the generations

The generations that are issued to one task run through all words but the one that is kept for tasks that
are not tracked, and then start again. Since that word is left out, the cycle is one shorter than the
number of words, and `Generation.toNat_next_modEq` says that an issue is one step in it whether or not it
passes the end.

So an entry is recognised as stale until the task has gone through a full cycle. What happens to the task
between two issues is irrelevant for this: `EntryCall.change` stands for anything that issues no entry.
-/

namespace TierSched

namespace Generation

/-- The number of generations of tracked tasks. -/
def cycle : Nat := UInt32.size - 1

theorem toNat_next_modEq (generation : Generation) :
    generation.next.toNat ≡ generation.toNat + 1 [MOD cycle] := by
  rw [toNat_next]
  split
  · rename_i last
    -- The step to one leaves zero out, so it is a step of two words and still one of the cycle.
    rw [last]
    decide
  · rfl

theorem eq_of_modEq {first second : Generation} (tracked : first ≠ untracked)
    (alsoTracked : second ≠ untracked) (same : first.toNat ≡ second.toNat [MOD cycle]) :
    first = second := by
  have firstBound := first.toNat_lt
  have secondBound := second.toNat_lt
  have firstPos : first.toNat ≠ 0 := fun zero => tracked (UInt32.toNat_inj.mp zero)
  have secondPos : second.toNat ≠ 0 := fun zero => alsoTracked (UInt32.toNat_inj.mp zero)
  apply UInt32.toNat_inj.mp
  simp only [Nat.ModEq, cycle, UInt32.size] at same
  omega

theorem toNat_iterate_modEq (generation : Generation) (count : Nat) :
    (next^[count] generation).toNat ≡ generation.toNat + count [MOD cycle] := by
  induction count with
  | zero => rfl
  | succ count ih =>
      rw [Function.iterate_succ_apply']
      exact (toNat_next_modEq _).trans (ih.add_right 1)

theorem iterate_succ_ne_untracked (generation : Generation) (count : Nat) :
    next^[count + 1] generation ≠ untracked := by
  rw [Function.iterate_succ_apply']
  exact next_ne_untracked _

/-- The generations that follow one generation repeat exactly after full cycles. -/
theorem iterate_succ_eq_iff (generation : Generation) (first second : Nat) :
    next^[first + 1] generation = next^[second + 1] generation ↔ first ≡ second [MOD cycle] := by
  have firstPlace := generation.toNat_iterate_modEq (first + 1)
  have secondPlace := generation.toNat_iterate_modEq (second + 1)
  constructor
  · intro same
    rw [same] at firstPlace
    have places := firstPlace.symm.trans secondPlace
    exact (places.add_left_cancel' generation.toNat).add_right_cancel' 1
  · intro same
    apply eq_of_modEq (iterate_succ_ne_untracked _ _) (iterate_succ_ne_untracked _ _)
    exact firstPlace.trans (((same.add_right 1).add_left generation.toNat).trans secondPlace.symm)

/-- A generation does not come back before the cycle is complete. -/
theorem iterate_ne_self (generation : Generation) {count : Nat} (moved : 0 < count)
    (incomplete : count < cycle) : next^[count] generation ≠ generation := by
  intro returned
  have place := generation.toNat_iterate_modEq count
  rw [returned] at place
  have complete : 0 ≡ count [MOD cycle] := Nat.ModEq.add_left_cancel' generation.toNat place
  rw [Nat.ModEq, Nat.zero_mod, Nat.mod_eq_of_lt incomplete] at complete
  omega

end Generation

namespace Profile

/-- What happens to a task with respect to its entries. -/
inductive EntryCall where
  /-- An entry is pushed to the lane of a tier. -/
  | issue (tier : Tier)
  /-- An entry with this generation has surfaced. -/
  | claim (generation : Generation)
  /-- Anything else happens to the task. -/
  | change (next : Profile → Profile)

variable (profile : Profile)

def perform : EntryCall → Profile
  | .issue tier => profile.issueEntry tier
  | .claim generation => (profile.claim generation).2
  | .change next => { next profile with generation := profile.generation }

/-- The profile after several calls, in order. -/
def performAll (calls : List EntryCall) : Profile :=
  calls.foldl perform profile

/-- The generation that a call issues. -/
def issued? : EntryCall → Option Generation
  | .issue tier => some (profile.issueEntry tier).generation
  | .claim _ | .change _ => none

/-- The generations that several calls issue, in order. -/
def issued (profile : Profile) : List EntryCall → List Generation
  | [] => []
  | call :: later => (profile.issued? call).toList ++ (profile.perform call).issued later

theorem generation_claim (generation : Generation) :
    (profile.claim generation).2.generation = profile.generation := by
  unfold claim
  split
  · rfl
  · rfl

/-- A call that issues nothing leaves the generation alone. -/
theorem generation_perform {call : EntryCall} (silent : profile.issued? call = none) :
    (profile.perform call).generation = profile.generation := by
  cases call with
  | issue tier => contradiction
  | claim generation => exact profile.generation_claim generation
  | change next => rfl

theorem issued_cons_of_silent {call : EntryCall} (silent : profile.issued? call = none)
    (later : List EntryCall) : profile.issued (call :: later) = (profile.perform call).issued later := by
  rw [issued, silent]
  rfl

theorem generation_performAll (calls : List EntryCall) :
    (profile.performAll calls).generation =
      Generation.next^[(profile.issued calls).length] profile.generation := by
  induction calls generalizing profile with
  | nil => rfl
  | cons call later ih =>
      have advanced := ih (profile.perform call)
      cases issues : profile.issued? call with
      | none =>
          rw [profile.generation_perform issues] at advanced
          rw [profile.issued_cons_of_silent issues]
          exact advanced
      | some generation =>
          cases call with
          | issue tier => exact advanced
          | claim _ | change _ => contradiction

theorem getElem_issued (calls : List EntryCall) {place : Nat}
    (present : place < (profile.issued calls).length) :
    (profile.issued calls)[place] = Generation.next^[place + 1] profile.generation := by
  induction calls generalizing profile place with
  | nil => contradiction
  | cons call later ih =>
      cases issues : profile.issued? call with
      | none =>
          simp only [profile.issued_cons_of_silent issues] at present ⊢
          rw [ih (profile.perform call) present, profile.generation_perform issues]
      | some generation =>
          cases call with
          | issue tier =>
              cases place with
              | zero => rfl
              | succ place => exact ih (profile.issueEntry tier) (Nat.lt_of_succ_lt_succ present)
          | claim _ | change _ => contradiction

theorem untracked_notMem_issued (calls : List EntryCall) :
    Generation.untracked ∉ profile.issued calls := by
  intro member
  rcases List.getElem_of_mem member with ⟨place, present, untracked_eq⟩
  rw [profile.getElem_issued calls present] at untracked_eq
  exact Generation.iterate_succ_ne_untracked _ _ untracked_eq

theorem getElem_issued_eq_iff (calls : List EntryCall) {first second : Nat}
    (firstPresent : first < (profile.issued calls).length)
    (secondPresent : second < (profile.issued calls).length) :
    (profile.issued calls)[first] = (profile.issued calls)[second] ↔
      first ≡ second [MOD Generation.cycle] := by
  rw [profile.getElem_issued calls firstPresent, profile.getElem_issued calls secondPresent,
    Generation.iterate_succ_eq_iff]

/-- As many successive generations as the cycle is long are different. -/
theorem nodup_of_infix_issued {calls : List EntryCall} {window : List Generation}
    (successive : window <:+: profile.issued calls) (short : window.length ≤ Generation.cycle) :
    window.Nodup := by
  rcases successive with ⟨earlier, later, issued_eq⟩
  have place_eq : ∀ place (present : place < window.length),
      window[place] = Generation.next^[earlier.length + place + 1] profile.generation := by
    intro place present
    have presentInIssued : earlier.length + place < (profile.issued calls).length := by
      rw [← issued_eq, List.length_append, List.length_append]
      omega
    rw [← profile.getElem_issued calls presentInIssued]
    simp [← issued_eq, present]
  rw [List.nodup_iff_pairwise_ne, List.pairwise_iff_getElem]
  intro first second firstPresent secondPresent before same
  rw [place_eq first firstPresent, place_eq second secondPresent, Generation.iterate_succ_eq_iff]
    at same
  -- Both places lie within one cycle, so they are congruent only if they are equal.
  have places := Nat.ModEq.add_left_cancel' earlier.length same
  rw [Nat.ModEq, Nat.mod_eq_of_lt (Nat.lt_of_lt_of_le firstPresent short),
    Nat.mod_eq_of_lt (Nat.lt_of_lt_of_le secondPresent short)] at places
  omega

/-- An entry is stale as soon as another one was issued, and until the cycle is complete. -/
theorem claim_of_superseded (tier : Tier) {calls : List EntryCall}
    (superseded : 0 < ((profile.issueEntry tier).issued calls).length)
    (incomplete : ((profile.issueEntry tier).issued calls).length < Generation.cycle) :
    (((profile.issueEntry tier).performAll calls).claim
      (profile.issueEntry tier).generation).1 = false := by
  rw [claim_fst, decide_eq_false_iff_not]
  rintro ⟨_, _, current⟩
  rw [generation_performAll] at current
  exact Generation.iterate_ne_self _ superseded incomplete current

theorem owns_issueEntry_iff {tier : Tier} {generation : Generation} :
    (profile.issueEntry tier).Owns generation ↔
      profile.phase = .queued ∧ generation = (profile.issueEntry tier).generation := by
  simp [Owns, issueEntry, eq_comm]

/-- Among several claims, the first one with the generation of the entry that the task waits with is
accepted. -/
theorem claim_after_attempts (attempts : List Generation) (generation : Generation) :
    ((profile.performAll (attempts.map .claim)).claim generation).1 = true ↔
      profile.Owns generation ∧ generation ∉ attempts := by
  induction attempts generalizing profile with
  | nil => simp [performAll, claim_fst]
  | cons attempt later ih =>
      refine (ih (profile.claim attempt).2).trans ?_
      by_cases accepted : profile.Owns attempt
      · have given_up : ¬(profile.claim attempt).2.Owns generation :=
          profile.not_owns_of_claim attempt generation (by rw [claim_fst, decide_eq_true accepted])
        have only : profile.Owns generation → generation = attempt :=
          fun owns => owns.2.2.symm.trans accepted.2.2
        simp only [given_up, false_and, List.mem_cons, not_or, false_iff, not_and]
        exact fun owns different => absurd (only owns) different
      · have different : profile.Owns generation → generation ≠ attempt :=
          fun owns same => accepted (same ▸ owns)
        rw [claim_of_not_owns accepted, List.mem_cons, not_or]
        exact and_congr_right fun owns => (and_iff_right (different owns)).symm

/-- The generations that are issued to a task are never the one of tasks that are not tracked, and they
repeat exactly after a full cycle. So an entry is stale from the next issue on until the cycle is
complete, whatever happens to the task in the meantime. The latest entry is accepted from a queued task,
and only once. -/
theorem generations_repeat_after_cycle (tier : Tier) (calls : List EntryCall) :
    let issued := profile.issued calls
    let pushed := profile.issueEntry tier
    Generation.untracked ∉ issued ∧
      (∀ window, window <:+: issued → window.length ≤ Generation.cycle → window.Nodup) ∧
      (∀ first second : Fin issued.length,
        issued[first] = issued[second] ↔ first.val ≡ second.val [MOD Generation.cycle]) ∧
      (0 < (pushed.issued calls).length → (pushed.issued calls).length < Generation.cycle →
        ((pushed.performAll calls).claim pushed.generation).1 = false) ∧
      ∀ (attempts : List Generation) (generation : Generation),
        ((pushed.performAll (attempts.map .claim)).claim generation).1 = true ↔
          profile.phase = .queued ∧ generation = pushed.generation ∧ generation ∉ attempts := by
  refine ⟨profile.untracked_notMem_issued calls, fun _ => profile.nodup_of_infix_issued,
    fun first second => profile.getElem_issued_eq_iff calls first.isLt second.isLt,
    profile.claim_of_superseded tier, ?_⟩
  intro attempts generation
  rw [claim_after_attempts, owns_issueEntry_iff, and_assoc]

/-- The generation after the largest word is one. Its entry is accepted at once, but no longer when
another entry was issued after it. -/
theorem generations_repeat_after_largest_word :
    let profile : Profile := { fresh {} with phase := .queued, generation := 4294967295 }
    let pushed := profile.issueEntry .interactive
    let calls : List EntryCall := [.change fun next => next.moveTo .stopping, .issue .batch,
      .change fun next => next.moveTo .queued]
    pushed.generation = 1 ∧ 0 < (pushed.issued calls).length ∧
      (pushed.issued calls).length < Generation.cycle ∧ (pushed.claim pushed.generation).1 = true ∧
      ((pushed.performAll calls).claim pushed.generation).1 = false := by
  intro profile pushed calls
  have one : pushed.generation = 1 := by decide
  have issued_one : (pushed.issued calls).length = 1 := rfl
  have superseded : 0 < (pushed.issued calls).length := by rw [issued_one]; decide
  have incomplete : (pushed.issued calls).length < Generation.cycle := by rw [issued_one]; decide
  rcases profile.generations_repeat_after_cycle .interactive calls with ⟨_, _, _, stale, latest⟩
  have current : (pushed.claim pushed.generation).1 = true :=
    (latest [] pushed.generation).mpr ⟨rfl, rfl, List.not_mem_nil⟩
  exact ⟨one, superseded, incomplete, current, stale superseded incomplete⟩

end Profile

end TierSched
