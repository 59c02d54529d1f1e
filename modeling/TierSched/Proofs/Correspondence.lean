import Mathlib.Data.Option.Basic
import TierSched.Proofs.Draw

/-!
# Corresponding rosters

Two rosters that track the same tasks, with profiles that are related by any relation, are changed in
the same way by every operation: if the changes of the profiles report the same and preserve the
relation, then the operations report the same and leave related rosters behind. A search for a live
entry finds and discards the same in both of them. Nothing is assumed about the relation; what has to be
known about it is a hypothesis of each lemma.
-/

namespace TierSched

variable {Report : Type} {related : Profile → Profile → Prop}

/-- The same report comes with related profiles. -/
def Profile.Reports (related : Profile → Profile → Prop) (first second : Report × Profile) : Prop :=
  first.1 = second.1 ∧ related first.2 second.2

/-- The changes report the same for related profiles and preserve the relation. -/
def Profile.InStep (related : Profile → Profile → Prop)
    (change counterpart : Profile → Report × Profile) : Prop :=
  ∀ ⦃profile other⦄, related profile other → Reports related (change profile) (counterpart other)

/-- Claims are answered in the same way in related profiles, and preserve the relation. -/
def Profile.Claimable (related : Profile → Profile → Prop) : Prop :=
  ∀ generation : Generation,
    InStep related (fun profile => profile.claim generation) fun other => other.claim generation

/-- The rosters hold related profiles of the same tasks. -/
structure Roster.Rel (related : Profile → Profile → Prop) (first second : Roster) : Prop where
  count_eq : first.count = second.count
  capacity_eq : first.capacity = second.capacity
  profiles : ∀ task, Option.Rel related (first.get? task) (second.get? task)

namespace Roster.Rel

variable {first second : Roster}

/-- A task is tracked in both rosters or in none. -/
theorem get?_cases (rosters : first.Rel related second) (task : TaskId) :
    (first.get? task = none ∧ second.get? task = none) ∨
      ∃ profile other, first.get? task = some profile ∧ second.get? task = some other ∧
        related profile other := by
  have profiles := rosters.profiles task
  generalize first.get? task = found, second.get? task = counterpart at profiles
  cases profiles with
  | none => exact Or.inl ⟨rfl, rfl⟩
  | some profiles => exact Or.inr ⟨_, _, rfl, rfl, profiles⟩

theorem put (rosters : first.Rel related second) (task : TaskId) {profile other : Profile}
    (profiles : related profile other) :
    (first.put task profile).Rel related (second.put task other) := by
  refine ⟨rosters.count_eq, rosters.capacity_eq, ?_⟩
  intro read
  rw [get?_put, get?_put]
  split
  · exact .some profiles
  · exact rosters.profiles read

theorem update (rosters : first.Rel related second) (task : TaskId)
    {change counterpart : Profile → Report × Profile}
    (changes : ∀ profile other, first.get? task = some profile → related profile other →
      Profile.Reports related (change profile) (counterpart other)) :
    (first.update task change).1 = (second.update task counterpart).1 ∧
      (first.update task change).2.Rel related (second.update task counterpart).2 := by
  rcases rosters.get?_cases task with ⟨missing, absent⟩ | ⟨profile, other, found, present, profiles⟩
  · rw [Roster.update, Roster.update, missing, absent]
    exact ⟨rfl, rosters⟩
  · rw [Roster.update, Roster.update, found, present]
    rcases changes profile other found profiles with ⟨report_eq, changed⟩
    exact ⟨congrArg some report_eq, rosters.put task changed⟩

theorem updateOrInsert (rosters : first.Rel related second) (task : TaskId) {fresh : Profile}
    (unused : related fresh fresh) {change counterpart : Profile → Report × Profile}
    (changes : Profile.InStep related change counterpart) :
    (first.updateOrInsert task fresh change).1 = (second.updateOrInsert task fresh counterpart).1 ∧
      (first.updateOrInsert task fresh change).2.Rel related
        (second.updateOrInsert task fresh counterpart).2 := by
  rcases rosters.get?_cases task with ⟨missing, absent⟩ | ⟨profile, other, found, present, profiles⟩
  · rw [Roster.updateOrInsert, Roster.updateOrInsert, missing, absent, ← rosters.count_eq,
      ← rosters.capacity_eq]
    dsimp only
    split
    · exact ⟨rfl, rosters⟩
    · rcases changes unused with ⟨report_eq, changed⟩
      have written := rosters.put task changed
      exact ⟨congrArg Except.ok report_eq, rfl, written.capacity_eq, written.profiles⟩
  · rw [Roster.updateOrInsert, Roster.updateOrInsert, found, present]
    rcases changes profiles with ⟨report_eq, changed⟩
    exact ⟨congrArg Except.ok report_eq, rosters.put task changed⟩

theorem remove (rosters : first.Rel related second) (task : TaskId)
    (waitsIn_eq : ∀ profile other, related profile other → profile.waitsIn = other.waitsIn) :
    (first.remove task).1.bind Profile.waitsIn = (second.remove task).1.bind Profile.waitsIn ∧
      (first.remove task).2.Rel related (second.remove task).2 := by
  have profiles : ∀ read, Option.Rel related ((first.remove task).2.get? read)
      ((second.remove task).2.get? read) := by
    intro read
    rw [get?_remove, get?_remove]
    split
    · exact .none
    · exact rosters.profiles read
  rcases rosters.get?_cases task with ⟨missing, absent⟩ | ⟨profile, other, found, present, pair⟩
  · rw [Roster.remove, Roster.remove, missing, absent]
    exact ⟨rfl, rosters⟩
  · rw [Roster.remove, Roster.remove, found, present] at profiles ⊢
    exact ⟨waitsIn_eq profile other pair, congrArg (· - 1) rosters.count_eq, rosters.capacity_eq,
      profiles⟩

variable (claimable : Profile.Claimable related)

include claimable

theorem claim (rosters : first.Rel related second) (entry : Entry) :
    (first.claim entry).1 = (second.claim entry).1 ∧
      (first.claim entry).2.Rel related (second.claim entry).2 := by
  rcases rosters.update entry.task
      (fun _ _ _ profiles => claimable entry.generation profiles) with ⟨claimed_eq, claimed⟩
  exact ⟨congrArg (Option.getD · (entry.generation == Generation.untracked)) claimed_eq, claimed⟩

theorem live_iff (rosters : first.Rel related second) (entry : Entry) :
    first.Live entry ↔ second.Live entry := by
  rw [← claim_eq_true_iff, ← claim_eq_true_iff, (rosters.claim claimable entry).1]

end Roster.Rel

/-- The searches have found and discarded the same. -/
structure Draw.Rel (related : Profile → Profile → Prop) (first second : Draw) : Prop where
  taken_eq : first.taken = second.taken
  stale_eq : first.stale = second.stale
  queues_eq : first.queues = second.queues
  rosters : first.roster.Rel related second.roster

/-- A search finds and discards the same in related rosters. -/
theorem Roster.Rel.draw (claimable : Profile.Claimable related) {roster other : Roster}
    (rosters : roster.Rel related other) (queues : ReadyQueues) :
    Draw.Rel related (draw queues roster) (draw queues other) := by
  revert other
  induction queues, roster using draw_induction with
  | exhausted queues roster rest popped =>
      intro other rosters
      rw [draw_of_exhausted popped]
      exact ⟨rfl, rfl, rfl, rosters⟩
  | found queues roster rest tier entry popped live =>
      intro other rosters
      rw [draw_of_live popped ((rosters.live_iff claimable entry).mp live)]
      exact ⟨rfl, rfl, rfl, (rosters.claim claimable entry).2⟩
  | discarded queues roster rest tier entry further popped stale ih =>
      intro other rosters
      rw [draw_of_stale popped fun live => stale ((rosters.live_iff claimable entry).mpr live)]
      rcases ih (rosters.claim claimable entry).2 with ⟨taken_eq, stale_eq, queues_eq, left⟩
      exact ⟨taken_eq, congrArg (entry :: ·) stale_eq, queues_eq, left⟩

end TierSched
