import PiAutopilot.Host.LineText
import PiAutopilot.Host.Coordinator

set_option autoImplicit false

/-! # What a reopened ownership journal restores -/

namespace PiAutopilot.Host

open Lib

inductive Call where
  | registerSuccessfulRun (action : BackgroundAction) (task : BgTaskSnapshot)
  | markLaunchAcknowledged (action : BackgroundAction) (task : BgTaskSnapshot)
  | recordTerminal (task : BgTaskSnapshot) (action : BackgroundAction)
  | markTerminalForwarded (taskId : String)
  | promoteBlockedGate (directive : BlockedGateDirective)
  | recordObservationArrived (observation : BlockedObservationWire) (directive : BlockedGateDirective)
  | markObservationObserved (directive : BlockedGateDirective)
  | markCancelled (directive : BlockedGateDirective) (cancellation : BlockedCancellation)
  | reopen

section Run

variable [HostJson]

def Coordinator.call (coordinator : Coordinator) (io : Except String Unit) : Call → Coordinator
  | .registerSuccessfulRun action task => (coordinator.registerSuccessfulRun action task io).1
  | .markLaunchAcknowledged action task => (coordinator.perform (coordinator.ledger.markLaunchAcknowledged action task) io).1
  | .recordTerminal task action => (coordinator.perform (coordinator.ledger.recordTerminal task action) io).1
  | .markTerminalForwarded taskId => (coordinator.perform (coordinator.ledger.markTerminalForwarded taskId) io).1
  | .promoteBlockedGate directive => (coordinator.promoteBlockedGate directive io).1
  | .recordObservationArrived observation directive =>
    (coordinator.perform (coordinator.ledger.recordObservationArrived observation directive) io).1
  | .markObservationObserved directive => (coordinator.perform (coordinator.ledger.markObservationObserved directive) io).1
  | .markCancelled directive cancellation =>
    (coordinator.perform (coordinator.ledger.markCancelled directive cancellation) io).1
  | .reopen =>
    match Coordinator.open coordinator.journal.file with
    | .ok reopened => reopened
    | .error _ => coordinator

end Run

section Sample

attribute [local instance] sampleHostJson

def sampleStart : Coordinator where
  journal := { file := [], chain := [] }
  ledger := .empty
  launchGate := { hold := .opened, activationHold := true, flights := [] }

end Sample

end PiAutopilot.Host
