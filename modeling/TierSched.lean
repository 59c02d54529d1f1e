import TierSched.Clock
import TierSched.Config.Basic
import TierSched.Config.Document
import TierSched.Document
import TierSched.Fault
import TierSched.Host
import TierSched.Notice
import TierSched.Proofs.Course
import TierSched.Proofs.Execution
import TierSched.Proofs.Waiting
import TierSched.Queue.Entry
import TierSched.Queue.Lane
import TierSched.Queue.Ready
import TierSched.Scheduler.Basic
import TierSched.Scheduler.Dispatch
import TierSched.Scheduler.Event
import TierSched.Scheduler.Run
import TierSched.Scheduler.Wake
import TierSched.Statistics.Basic
import TierSched.Statistics.Counters
import TierSched.Statistics.Document
import TierSched.Statistics.WaitTally
import TierSched.Task.Lifecycle
import TierSched.Task.Phase
import TierSched.Task.Profile
import TierSched.Task.Roster
import TierSched.Task.RuntimeEstimate
import TierSched.Task.WaitBudget
import TierSched.Tier.Basic
import TierSched.Tier.Score
import TierSched.Tier.Table
import TierSched.Tier.Timing
import TierSched.Unit.Occupancy
import TierSched.Unit.Set
import TierSched.Unit.Topology
import TierSched.Proofs.Callback
import TierSched.Proofs.TaskStep
import TierSched.Proofs.Ownership
import TierSched.Proofs.Drain
import TierSched.Proofs.Enqueue
import TierSched.Proofs.Occupancy
import TierSched.Proofs.OccupancyStep
import TierSched.Proofs.Cooldown
import TierSched.Proofs.Exit
import TierSched.Proofs.Untracked
import TierSched.Proofs.Provenance
import TierSched.Proofs.QueueOperation
import TierSched.Proofs.Bypass
import TierSched.Proofs.QueueStep
import TierSched.Proofs.Service
import TierSched.Proofs.ServiceOrder
import TierSched.Proofs.SparseFlag
import TierSched.Proofs.WakeKick
import TierSched.Proofs.Standing
import TierSched.Proofs.Overrun
import TierSched.Proofs.MeasuredWait
import TierSched.Proofs.Shift
import TierSched.Proofs.ClockShift
import TierSched.Proofs.Isolation
import TierSched.Proofs.Directory
import TierSched.Proofs.Counting
import TierSched.Proofs.Removal
import TierSched.Proofs.FullRoster
import TierSched.Proofs.SliceCeiling
import TierSched.Proofs.ShownTier
import TierSched.Proofs.Sharding
import TierSched.Proofs.Moment
import TierSched.Proofs.QueueBalance
import TierSched.Proofs.TierMove
import TierSched.Proofs.EventCount
import TierSched.Proofs.Ledger
import TierSched.Proofs.Lockstep
import TierSched.Proofs.Diagnostics
import TierSched.Proofs.PlainQueues
import TierSched.Proofs.QueueBook
import TierSched.Proofs.IdlePlacement
import TierSched.Proofs.VictimSearch
import TierSched.Proofs.Preemption
import TierSched.Proofs.Checked.Callback
import TierSched.Proofs.Definedness
import TierSched.Proofs.BreachStreak
import TierSched.Proofs.Rating
import TierSched.Proofs.RunLengths
import TierSched.Proofs.SteadyRuns
import TierSched.Proofs.SmallQuanta
import TierSched.Proofs.SampleHull
import TierSched.Proofs.MachineBounds
import TierSched.Proofs.GenerationCycle
