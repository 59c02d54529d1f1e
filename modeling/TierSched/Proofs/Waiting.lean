import TierSched.Queue.Ready

/-!
# What waits for a task

The queues are seen by one task at a time. `ReadyQueues.waiting` lists the entries of a task in the
lane of a tier, from the front to the back. Pushing and dropping entries of one task leave what
waits for any other task alone, and an attempt to take an entry takes it from the front of one lane.

The queues recognise an empty lane by its recorded length. All operations keep the recorded lengths
right, which is `ReadyQueues.Consistent`, so an attempt fails only if nothing waits at all.
-/

namespace TierSched

namespace Lane

theorem consistent_of_pop? {lane rest : Lane} {entry : Entry}
    (popped : lane.pop? = some (entry, rest)) : rest.Consistent := by
  rw [pop?] at popped
  split at popped
  · contradiction
  · split at popped
    · contradiction
    · simp only [Option.some.injEq, Prod.mk.injEq] at popped
      rw [← popped.2]
      exact consistent_ofEntries _

theorem pop?_eq_none_iff {lane : Lane} (consistent : lane.Consistent) :
    lane.pop? = none ↔ lane.entries = [] := by
  rw [pop?_of_consistent consistent]
  cases lane.entries with
  | nil => simp
  | cons entry others => simp

end Lane

/-- The entries that wait for one task in the lane of each tier, from the front to the back. -/
abbrev Waiting := Tier → List Entry

namespace Waiting

def push (waiting : Waiting) (tier : Tier) (entry : Entry) : Waiting :=
  fun read => if tier = read then waiting read ++ [entry] else waiting read

/-- Without the entries in one lane, if a lane is named. -/
def dropFrom (waiting : Waiting) (source : Option Tier) : Waiting :=
  fun read => if source = some read then [] else waiting read

theorem mem_push {waiting : Waiting} {tier read : Tier} {entry pushed : Entry} :
    entry ∈ waiting.push tier pushed read ↔
      entry ∈ waiting read ∨ tier = read ∧ entry = pushed := by
  by_cases same : tier = read
  · simp [push, same]
  · simp [push, same]

theorem pairwise_push {waiting : Waiting} {ordered : Entry → Entry → Prop} {tier : Tier}
    {pushed : Entry} (before : ∀ read, (waiting read).Pairwise ordered)
    (last : ∀ entry ∈ waiting tier, ordered entry pushed) (read : Tier) :
    (waiting.push tier pushed read).Pairwise ordered := by
  by_cases same : tier = read
  · subst same
    simp only [push, if_true]
    refine List.pairwise_append.mpr ⟨before tier, List.pairwise_singleton ordered pushed, ?_⟩
    intro entry member other otherMem
    rw [List.mem_singleton.mp otherMem]
    exact last entry member
  · simp only [push, if_neg same]
    exact before read

theorem suffix_dropFrom (waiting : Waiting) (source : Option Tier) (read : Tier) :
    waiting.dropFrom source read <:+ waiting read := by
  simp only [dropFrom]
  split
  · exact List.nil_suffix
  · exact List.suffix_refl _

theorem sublist_dropFrom (waiting : Waiting) (source : Option Tier) (read : Tier) :
    List.Sublist (waiting.dropFrom source read) (waiting read) :=
  (waiting.suffix_dropFrom source read).sublist

end Waiting

namespace ReadyQueues

/-- Every lane has recorded its length correctly. -/
def Consistent (queues : ReadyQueues) : Prop :=
  ∀ tier, (queues.lane tier).Consistent

/-- What waits for a task in the lane of each tier. -/
def waiting (queues : ReadyQueues) (task : TaskId) : Waiting :=
  fun tier => (queues.entries tier).filter fun entry => entry.task = task

theorem mem_waiting {queues : ReadyQueues} {task : TaskId} {tier : Tier} {entry : Entry} :
    entry ∈ queues.waiting task tier ↔ entry ∈ queues.entries tier ∧ entry.task = task := by
  simp [waiting]

theorem waiting_empty (interval : UInt64) (task : TaskId) (tier : Tier) :
    (empty interval).waiting task tier = [] := by
  simp [waiting]

theorem waiting_push_self (queues : ReadyQueues) (tier : Tier) (entry : Entry) :
    (queues.push tier entry).waiting entry.task = (queues.waiting entry.task).push tier entry := by
  funext read
  simp only [waiting, Waiting.push, entries_push]
  by_cases same : tier = read
  · simp [same, List.filter_append]
  · simp [same]

theorem waiting_push_of_ne (queues : ReadyQueues) (tier : Tier) {entry : Entry} {task : TaskId}
    (other : entry.task ≠ task) : (queues.push tier entry).waiting task = queues.waiting task := by
  funext read
  simp only [waiting, entries_push]
  by_cases same : tier = read
  · simp [same, other, List.filter_append]
  · simp [same]

/-- The queues without the entries of a task in one lane, if a lane is named. -/
def dropFrom (queues : ReadyQueues) (source : Option Tier) (task : TaskId) : ReadyQueues :=
  match source with
  | none => queues
  | some tier => (queues.drop tier task).2

theorem entries_dropFrom (queues : ReadyQueues) (source : Option Tier) (task : TaskId)
    (read : Tier) :
    (queues.dropFrom source task).entries read =
      if source = some read then (queues.entries read).filter fun entry => entry.task ≠ task
      else queues.entries read := by
  cases source with
  | none => rfl
  | some tier => simp only [dropFrom, entries_drop, Option.some.injEq]

theorem waiting_dropFrom_self (queues : ReadyQueues) (source : Option Tier) (task : TaskId) :
    (queues.dropFrom source task).waiting task = (queues.waiting task).dropFrom source := by
  cases source with
  | none => rfl
  | some tier =>
      funext read
      simp only [waiting, Waiting.dropFrom, dropFrom, entries_drop, Option.some.injEq]
      by_cases same : tier = read
      · rw [if_pos same, if_pos same, List.filter_filter, List.filter_eq_nil_iff]
        simp
      · rw [if_neg same, if_neg same]

theorem waiting_dropFrom_of_ne (queues : ReadyQueues) (source : Option Tier)
    {dropped task : TaskId} (other : dropped ≠ task) :
    (queues.dropFrom source dropped).waiting task = queues.waiting task := by
  cases source with
  | none => rfl
  | some tier =>
      funext read
      simp only [waiting, dropFrom, entries_drop]
      by_cases same : tier = read
      · rw [if_pos same, List.filter_filter]
        apply List.filter_congr
        intro entry _
        by_cases own : entry.task = task
        · simp [own, Ne.symm other]
        · simp [own]
      · rw [if_neg same]

theorem lane_setLane (queues : ReadyQueues) (written read : Tier) (lane : Lane) :
    (queues.setLane written lane).lane read =
      if written = read then lane else queues.lane read := by
  simp only [ReadyQueues.lane, setLane, Tier.Table.get_set]

theorem consistent_empty (interval : UInt64) : (empty interval).Consistent := by
  intro tier
  simp [empty, ReadyQueues.lane, Lane.Consistent]

theorem Consistent.setLane {queues : ReadyQueues} (consistent : queues.Consistent) (tier : Tier)
    {lane : Lane} (right : lane.Consistent) : (queues.setLane tier lane).Consistent := by
  intro read
  rw [lane_setLane]
  split
  · exact right
  · exact consistent read

theorem Consistent.push {queues : ReadyQueues} (consistent : queues.Consistent) (tier : Tier)
    (entry : Entry) : (queues.push tier entry).Consistent :=
  consistent.setLane tier (Lane.consistent_ofEntries _)

theorem Consistent.drop {queues : ReadyQueues} (consistent : queues.Consistent) (tier : Tier)
    (task : TaskId) : (queues.drop tier task).2.Consistent :=
  consistent.setLane tier (Lane.consistent_ofEntries _)

theorem lane_of_popFirst {queues rest : ReadyQueues} {order : List Tier} {tier : Tier}
    {entry : Entry} (popped : queues.popFirst order = (some (tier, entry), rest)) :
    ∃ lane, (queues.lane tier).pop? = some (entry, lane) ∧ rest = queues.setLane tier lane := by
  induction order with
  | nil => simp [popFirst] at popped
  | cons first others ih =>
      rw [popFirst] at popped
      split at popped
      · exact ih popped
      · rename_i front lane taken
        simp only [Prod.mk.injEq, Option.some.injEq] at popped
        rcases popped with ⟨⟨rfl, rfl⟩, rfl⟩
        exact ⟨lane, taken, rfl⟩

theorem popFirst_eq_none {queues rest : ReadyQueues} {order : List Tier}
    (popped : queues.popFirst order = (none, rest)) :
    rest = queues ∧ ∀ tier ∈ order, (queues.lane tier).pop? = none := by
  induction order with
  | nil =>
      simp only [popFirst, Prod.mk.injEq, true_and] at popped
      exact ⟨popped.symm, by simp⟩
  | cons first others ih =>
      rw [popFirst] at popped
      split at popped
      · rename_i missing
        rcases ih popped with ⟨same, absent⟩
        refine ⟨same, ?_⟩
        intro tier member
        rcases List.mem_cons.mp member with rfl | later
        · exact missing
        · exact absent tier later
      · simp at popped

theorem mem_order (queues : ReadyQueues) (tier : Tier) : tier ∈ queues.order := by
  rw [order]
  split
  · cases tier <;> decide
  · exact Tier.mem_all tier

theorem first_of_popFirst {queues rest : ReadyQueues} {order : List Tier} {tier read : Tier}
    {entry : Entry} {before : Tier → Tier → Prop} (ordered : order.Pairwise before)
    (popped : queues.popFirst order = (some (tier, entry), rest)) (listed : read ∈ order)
    (waits : (queues.lane read).pop? ≠ none) : tier = read ∨ before tier read := by
  induction order with
  | nil => contradiction
  | cons first others ih =>
      rcases List.pairwise_cons.mp ordered with ⟨firstBefore, othersOrdered⟩
      rw [popFirst] at popped
      split at popped
      · rename_i missing
        rcases List.mem_cons.mp listed with rfl | later
        · exact absurd missing waits
        · exact ih othersOrdered popped later
      · simp only [Prod.mk.injEq, Option.some.injEq] at popped
        rcases popped with ⟨⟨rfl, rfl⟩, rfl⟩
        rcases List.mem_cons.mp listed with same | later
        · exact Or.inl same.symm
        · exact Or.inr (firstBefore read later)

/-- A successful attempt serves the first lane of its order that has an entry. -/
theorem first_of_pop {queues rest : ReadyQueues} (consistent : queues.Consistent)
    {tier read : Tier} {entry : Entry} {before : Tier → Tier → Prop}
    (ordered : queues.advance.order.Pairwise before)
    (popped : queues.pop = (some (tier, entry), rest)) (waits : queues.entries read ≠ []) :
    tier = read ∨ before tier read := by
  apply first_of_popFirst ordered popped (mem_order _ read)
  intro missing
  exact waits ((Lane.pop?_eq_none_iff (consistent read)).mp missing)

/-- A successful attempt takes the front of one lane and leaves all other lanes alone. -/
theorem entries_of_pop {queues rest : ReadyQueues} {tier : Tier} {entry : Entry}
    (popped : queues.pop = (some (tier, entry), rest)) (read : Tier) :
    queues.entries read = (if tier = read then [entry] else []) ++ rest.entries read := by
  rcases lane_of_popFirst popped with ⟨lane, taken, rfl⟩
  have front : queues.entries tier = entry :: lane.entries := Lane.entries_of_pop? taken
  rw [entries_setLane]
  by_cases same : tier = read
  · subst same
    simpa using front
  · simp only [same, if_false, List.nil_append]
    rfl

theorem entries_of_pop_eq_none {queues rest : ReadyQueues} (popped : queues.pop = (none, rest))
    (read : Tier) : rest.entries read = queues.entries read := by
  rw [(popFirst_eq_none popped).1]
  rfl

/-- An attempt fails only if nothing waits. -/
theorem entries_eq_nil_of_pop_eq_none {queues rest : ReadyQueues} (consistent : queues.Consistent)
    (popped : queues.pop = (none, rest)) (read : Tier) : queues.entries read = [] :=
  have missing := (popFirst_eq_none popped).2 read (mem_order _ read)
  (Lane.pop?_eq_none_iff (consistent read)).mp missing

theorem Consistent.of_pop {queues rest : ReadyQueues} {taken : Option (Tier × Entry)}
    (consistent : queues.Consistent) (popped : queues.pop = (taken, rest)) : rest.Consistent := by
  cases taken with
  | none =>
      rw [(popFirst_eq_none popped).1]
      exact consistent
  | some found =>
      rcases lane_of_popFirst popped with ⟨lane, taken, rfl⟩
      exact Consistent.setLane consistent found.1 (Lane.consistent_of_pop? taken)

/-- Every attempt is counted, successful or not. -/
theorem attempts_of_pop {queues rest : ReadyQueues} {taken : Option (Tier × Entry)}
    (popped : queues.pop = (taken, rest)) : rest.attempts = queues.attempts + 1 := by
  cases taken with
  | none =>
      rw [(popFirst_eq_none popped).1]
      rfl
  | some found =>
      rcases lane_of_popFirst popped with ⟨lane, taken, rfl⟩
      rfl

end ReadyQueues

end TierSched
