import TierSched.Clock
import TierSched.Tier.Basic

/-!
# The boundary to the host

What the host and the scheduler exchange: identifiers of tasks and execution units, the flags that
come with a wake-up or an enqueue, the kicks that the scheduler asks for, and the two kinds of
answers, a unit for a woken task and a task for a unit.
-/

namespace TierSched

/-- An identifier that the host gave to a task. -/
abbrev TaskId := Nat

/-- The greatest number of execution units that a scheduler can serve; the units themselves are
numbered from zero. -/
abbrev unitLimit : Nat := 64

/-- What the host knows about a wake-up. -/
structure WakeFlags where
  /-- The waker is about to give up its own unit. -/
  sync : Bool
  /-- The task was just created and follows no earlier unit. -/
  fork : Bool
deriving DecidableEq, Repr

namespace WakeFlags

/-- The bit that stands for `sync`. -/
def syncBit : UInt32 := 1

/-- The bit that stands for `fork`. -/
def forkBit : UInt32 := 2

/-- All bits with a meaning. -/
def knownBits : UInt32 := syncBit ||| forkBit

/-- The flags held in a word, whose other bits have no meaning. -/
def ofBits (bits : UInt32) : WakeFlags where
  sync := bits &&& syncBit ≠ 0
  fork := bits &&& forkBit ≠ 0

end WakeFlags

/-- What the host knows about an enqueue. -/
structure EnqueueFlags where
  /-- The task was just woken. -/
  wakeup : Bool
  /-- The task returns after it was preempted. -/
  preempted : Bool
  /-- The host itself asks for the task to be queued again. -/
  requeued : Bool
deriving DecidableEq, Repr

namespace EnqueueFlags

/-- The bit that stands for `wakeup`. -/
def wakeupBit : UInt32 := 1

/-- The bit that stands for `preempted`. -/
def preemptedBit : UInt32 := 2

/-- The bit that stands for `requeued`. -/
def requeuedBit : UInt32 := 4

/-- The flags held in a word, whose other bits have no meaning. -/
def ofBits (bits : UInt32) : EnqueueFlags where
  wakeup := bits &&& wakeupBit ≠ 0
  preempted := bits &&& preemptedBit ≠ 0
  requeued := bits &&& requeuedBit ≠ 0

/-- Whether the enqueue follows a wake-up and nothing else. -/
def genuineWakeup (flags : EnqueueFlags) : Bool :=
  flags.wakeup && !(flags.preempted || flags.requeued)

end EnqueueFlags

/-- Why a unit is asked to reschedule. -/
inductive KickReason where
  /-- A task of a higher tier waits. -/
  | preemption
  /-- The running task exceeded its ceiling. -/
  | starvation
deriving DecidableEq, Repr

/-- A request that a unit reschedules soon. -/
structure Kick where
  unit : Nat
  reason : KickReason
deriving DecidableEq, Repr

/-- The unit chosen for a woken task. -/
structure Placement where
  unit : Nat
  /-- The unit was idle and takes the task at once, so the host does not enqueue it. -/
  direct : Bool
  slice : Nanos
deriving DecidableEq, Repr

/-- The task handed to a unit that asked for work. -/
structure Assignment where
  task : TaskId
  slice : Nanos
  tier : Tier
deriving DecidableEq, Repr

end TierSched
