import TierSched.Host

/-!
# Queue entries

An entry in a queue is never searched for when it is superseded. It carries the generation that its
task had when it was pushed, and it is recognised as stale when it surfaces with another one. The
generation zero is kept for tasks that are not tracked; the generations of a tracked task start at
one, and the largest word is followed by one again.
-/

namespace TierSched

/-- The number of an enqueue of one task. -/
abbrev Generation := UInt32

namespace Generation

/-- The generation of entries whose task is not tracked. -/
def untracked : Generation := 0

/-- The generation of the next enqueue, which is never `untracked`. -/
def next (generation : Generation) : Generation :=
  if generation + 1 = untracked then 1 else generation + 1

theorem next_ne_untracked (generation : Generation) : generation.next ≠ untracked := by
  unfold next
  split
  · decide
  · assumption

theorem toNat_next (generation : Generation) :
    generation.next.toNat =
      if generation.toNat + 1 = UInt32.size then 1 else generation.toNat + 1 := by
  have bound := generation.toNat_lt
  have size : UInt32.size = 4294967296 := rfl
  have zero_iff : generation + 1 = untracked ↔ generation.toNat + 1 = UInt32.size := by
    rw [← UInt32.toNat_inj, UInt32.toNat_add]
    simp only [untracked, UInt32.reduceToNat]
    omega
  simp only [next, zero_iff]
  split
  · rfl
  · rw [UInt32.toNat_add]
    simp only [UInt32.reduceToNat]
    omega

end Generation

/-- A task that waits in a queue. -/
structure Entry where
  task : TaskId
  /-- The slice that the task had when it was pushed. -/
  slice : Nanos
  generation : Generation
deriving DecidableEq, Repr

end TierSched
