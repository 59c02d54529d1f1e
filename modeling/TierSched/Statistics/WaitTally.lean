import TierSched.Clock

/-!
# Tallies of waits

A tally sums up waits by their total, their number and their maximum. Totals and numbers are words
that wrap around, so tallies can be merged in any order and grouping.
-/

namespace TierSched

/-- A summary of waits. -/
@[ext]
structure WaitTally where
  total : Nanos := 0
  count : UInt64 := 0
  longest : Nanos := 0
deriving DecidableEq, Repr

namespace WaitTally

/-- The tally of no waits. -/
def zero : WaitTally := {}

/-- The tally of a single wait. -/
def single (wait : Nanos) : WaitTally where
  total := wait
  count := 1
  longest := wait

/-- The tally with one more wait. -/
def record (tally : WaitTally) (wait : Nanos) : WaitTally where
  total := tally.total + wait
  count := tally.count + 1
  longest := max tally.longest wait

/-- The tally of the waits behind two tallies. -/
def merge (left right : WaitTally) : WaitTally where
  total := left.total + right.total
  count := left.count + right.count
  longest := max left.longest right.longest

theorem record_eq_merge_single (tally : WaitTally) (wait : Nanos) :
    tally.record wait = tally.merge (single wait) := rfl

end WaitTally

end TierSched
