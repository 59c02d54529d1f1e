import TierSched.Fault
import TierSched.Host

/-!
# Notices

What a scheduler reports about its work besides its answers. A notice says what happened; its level
and its text are derived from that, and no decision depends on either.
-/

namespace TierSched

/-- How important a notice is. -/
inductive NoticeLevel where
  | warning
  | information
  | detail
  | trace
deriving DecidableEq, Repr

/-- The name under which a level is logged. -/
def NoticeLevel.title : NoticeLevel → String
  | warning => "WARN"
  | information => "INFO"
  | detail => "DEBUG"
  | trace => "TRACE"

/-- Something that a scheduler reports. -/
inductive Notice where
  /-- The configuration has a fault. -/
  | configurationRefused (fault : Fault)
  /-- The topology describes another machine than the configuration. -/
  | topologyRefused (fault : Fault)
  /-- A scheduler was built. -/
  | ready (units : Nat) (quantum bonus threshold starvation : Nanos)
  /-- A task could not be tracked. -/
  | untracked (task : TaskId)
  /-- A unit was kicked for a task of a tier. -/
  | victimKicked (unit : Nat) (tier : Tier)
  /-- A woken task was handed to an idle unit. -/
  | placed (task : TaskId) (tier : Tier) (unit : Nat)
  /-- A task was queued twice. -/
  | alreadyQueued (task : TaskId)
  /-- A stale entry was discarded. -/
  | staleEntry (task : TaskId)
  /-- A queued task was handed to a unit. -/
  | dispatched (unit : Nat) (task : TaskId) (tier : Tier)
  /-- A task started although it could not run. -/
  | irregularStart (task : TaskId)
  /-- A task was demoted because it had waited too long. -/
  | demoted (task : TaskId) (source target : Tier) (wait : Nanos)
  /-- A task changed its tier when it stopped. -/
  | reclassified (task : TaskId) (source target : Tier)
  /-- A running task exceeded the ceiling of its tier. -/
  | overran (task : TaskId) (tier : Tier) (runtime ceiling : Nanos) (unit : Nat)
  /-- A unit that does not exist was reported idle or busy. -/
  | unknownUnit (unit : Nat)
deriving DecidableEq, Repr

namespace Notice

/-- The level of a notice. -/
def level : Notice → NoticeLevel
  | configurationRefused .. | topologyRefused .. | untracked .. => .warning
  | ready .. => .information
  | demoted .. | overran .. => .detail
  | victimKicked .. | placed .. | alreadyQueued .. | staleEntry .. | dispatched ..
  | irregularStart .. | reclassified .. | unknownUnit .. => .trace

/-- The text of a notice. -/
def text : Notice → String
  | configurationRefused fault =>
      s!"cake: configuration rejected: {fault.message} ({fault.advice})"
  | topologyRefused fault => s!"cake: topology does not match configuration: {fault.message}"
  | ready units quantum bonus threshold starvation =>
      s!"cake: {units} units, quantum {quantum}ns, new-flow bonus {bonus}ns, " ++
        s!"sparse threshold {threshold}ns, starvation {starvation}ns"
  | untracked task => s!"cake: no context for task {task}, scheduling with defaults"
  | victimKicked unit tier => s!"cake: kick unit {unit} for {tier.title} task"
  | placed task tier unit => s!"cake: task {task} ({tier.title}) direct to idle unit {unit}"
  | alreadyQueued task => s!"cake: task {task} already queued, enqueue ignored"
  | staleEntry task => s!"cake: skip stale entry for task {task}"
  | dispatched unit task tier => s!"cake: unit {unit} dispatch task {task} ({tier.title})"
  | irregularStart task => s!"cake: task {task} started running without a wake"
  | demoted task source target wait =>
      s!"cake: task {task} demoted {source.title} -> {target.title} after waiting {wait}ns"
  | reclassified task source target =>
      s!"cake: task {task} reclassified {source.title} -> {target.title}"
  | overran task tier runtime ceiling unit =>
      s!"cake: task {task} ({tier.title}) ran {runtime}ns past ceiling {ceiling}ns " ++
        s!"on unit {unit}"
  | unknownUnit unit => s!"cake: idle change for unknown unit {unit}"

/-- The line under which a notice is logged. -/
def line (notice : Notice) : String :=
  s!"{notice.level.title} {notice.text}"

end Notice

end TierSched
