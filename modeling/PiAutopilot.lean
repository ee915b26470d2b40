import PiAutopilot.Adapters.Publish
import PiAutopilot.Adapters.Reattempt
import PiAutopilot.Authority.Bookkeeping
import PiAutopilot.Authority.FactAtomicity
import PiAutopilot.Authority.FindingOwners
import PiAutopilot.Authority.HotHistory
import PiAutopilot.Authority.ObservationPages
import PiAutopilot.Authority.PlanningGap
import PiAutopilot.Authority.PublishCommands
import PiAutopilot.Authority.ReactionBound
import PiAutopilot.Authority.Replay
import PiAutopilot.Authority.Scheduling
import PiAutopilot.Authority.SettledAtSuccess
import PiAutopilot.Authority.SinglePlan
import PiAutopilot.Authority.Underflow
import PiAutopilot.Closure.RepairLedger
import PiAutopilot.Delivery.DepthCalls
import PiAutopilot.Delivery.DispatchExact
import PiAutopilot.Delivery.FreeSlots
import PiAutopilot.Delivery.Interference
import PiAutopilot.EventLog.Bookkeeping
import PiAutopilot.EventLog.Recovery
import PiAutopilot.Host.LaunchGate
import PiAutopilot.Planning.Anchors
import PiAutopilot.Planning.StagedSubmit
import PiAutopilot.Planning.WaveProgress
import PiAutopilot.Protocol.Sha256
import PiAutopilot.Receipts.BlockedLatch
import PiAutopilot.Runner.RecordReader
import PiAutopilot.Storage.WalkTree
import PiAutopilot.Validation.Verdict
