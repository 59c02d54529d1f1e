import TierSched.Config.Basic
import TierSched.Queue.Entry
import TierSched.Task.Phase
import TierSched.Task.RuntimeEstimate

/-!
# Task profiles

A profile holds what the scheduler knows about one tracked task: its score and its tier, the slice
it gets next, since when it runs or waits, and which of its queue entries is the current one.
`waitsIn` names the tier whose queue holds that entry until the entry is claimed.
-/

namespace TierSched

/-- The history and the prospects of one task. -/
structure Profile where
  score : Score
  runtime : RuntimeEstimate
  tier : Tier
  /-- The slice for the next time the task is placed or queued. -/
  slice : Nanos
  /-- When the current or latest run began. -/
  startedAt : Nanos
  /-- Since when the task can run. -/
  runnableSince : Nanos
  /-- The number of consecutive breaches of the wait budget. -/
  violations : UInt8
  /-- The task has not finished its first run. -/
  isNew : Bool
  /-- The score has reached the floor of sparse tasks. -/
  isSparse : Bool
  phase : Phase
  /-- The current run was already reported as starving others. -/
  kickedInRun : Bool
  /-- A unit was already kicked for the latest wake-up. -/
  kickedOnWake : Bool
  /-- The generation of the latest queue entry. -/
  generation : Generation
  /-- The tier whose queue holds the latest entry. -/
  waitsIn : Option Tier
  totalRuntime : Nanos
  wakes : UInt32
  runs : UInt32
deriving DecidableEq, Repr

namespace Profile

/-- The bit that stands for `isNew`. -/
def newBit : UInt8 := 1

/-- The bit that stands for `isSparse`. -/
def sparseBit : UInt8 := 2

/-- Both flags in one word. -/
def flagBits (profile : Profile) : UInt8 :=
  (if profile.isNew then newBit else 0) ||| (if profile.isSparse then sparseBit else 0)

/-- The profile of a task that was never seen before. -/
def fresh (config : Config) : Profile where
  score := Score.neutral
  runtime := {}
  tier := .interactive
  slice := config.newTaskSlice
  startedAt := 0
  runnableSince := 0
  violations := 0
  isNew := true
  isSparse := false
  phase := .sleeping
  kickedInRun := false
  kickedOnWake := false
  generation := Generation.untracked
  waitsIn := none
  totalRuntime := 0
  wakes := 0
  runs := 0

/-- The profile in another phase. -/
def moveTo (profile : Profile) (phase : Phase) : Profile :=
  { profile with phase }

/-- The profile in another tier, with the slice that belongs to it. -/
def assign (profile : Profile) (tier : Tier) (quantum : Nanos) : Profile :=
  { profile with tier, slice := tier.slice quantum }

/-- The profile after an entry with the next generation was pushed to the queue of a tier. -/
def issueEntry (profile : Profile) (tier : Tier) : Profile :=
  { profile with generation := profile.generation.next, waitsIn := some tier }

/-- An entry of this generation is the one that the task waits with. -/
def Owns (profile : Profile) (generation : Generation) : Prop :=
  profile.phase = .queued ∧ profile.waitsIn ≠ none ∧ profile.generation = generation

instance (profile : Profile) (generation : Generation) : Decidable (profile.Owns generation) :=
  inferInstanceAs (Decidable (_ ∧ _ ∧ _))

/-- Gives up the entry of this generation; false if the task does not wait with it. -/
def claim (profile : Profile) (generation : Generation) : Bool × Profile :=
  if profile.Owns generation then (true, { profile with waitsIn := none }) else (false, profile)

theorem claim_fst (profile : Profile) (generation : Generation) :
    (profile.claim generation).1 = decide (profile.Owns generation) := by
  unfold claim
  split <;> simp_all

/-- An entry can be claimed only once. -/
theorem not_owns_of_claim (profile : Profile) (generation other : Generation)
    (claimed : (profile.claim generation).1 = true) :
    ¬(profile.claim generation).2.Owns other := by
  rw [claim_fst, decide_eq_true_eq] at claimed
  rw [claim, if_pos claimed]
  simp [Owns]

end Profile

end TierSched
