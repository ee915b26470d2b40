import PiAutopilot.Host.Ownership
import PiAutopilot.Lib.Assoc

set_option autoImplicit false

/-! # The Host ownership coordinator -/

namespace PiAutopilot.Host

open Lib

structure OwnedTaskBinding where
  task : BgTaskSnapshot
  action : BackgroundAction
  descriptor : String
  actionSha256 : String
  acknowledged : Bool
  terminal : Bool
  terminalForwarded : Bool
deriving DecidableEq

structure Ledger where
  owned : List (String × OwnedTaskBinding)
  actionTasks : List (String × OwnedTaskBinding)
  cancellationRows : List String
  observations : List (String × BlockedObservationWire)
  observed : List String
  activeGate : Option BlockedGateDirective
deriving DecidableEq

def Ledger.empty : Ledger :=
  { owned := [], actionTasks := [], cancellationRows := [], observations := [], observed := [], activeGate := none }

def correlation (binding : OwnedTaskBinding) : Correlation :=
  { taskId := binding.task.id
    actionId := binding.action.actionId
    assignmentId := binding.action.assignmentId
    runRevision := binding.action.runRevision }

def gateKey (receiptId latchId : String) : String := receiptId ++ "\u0000" ++ latchId

def cancellationKey (receiptId latchId taskId : String) : String := receiptId ++ "\u0000" ++ latchId ++ "\u0000" ++ taskId

/-- The observed flag may advance after the gate is fixed. -/
def sameDirective (left right : BlockedGateDirective) : Bool :=
  left.receiptId == right.receiptId && left.gate.latchId == right.gate.latchId && left.gate.runId == right.gate.runId &&
    left.gate == right.gate

def drifts {α : Type} [DecidableEq α] (actual : Option α) (expected : Option α) : Bool := actual.isSome && actual != expected

def assertTaskMatchesAction (task : BgTaskSnapshot) (action : BackgroundAction) : Except String Unit :=
  refuseIf (task.command != action.bgRun.command || drifts task.name (some action.bgRun.name) ||
      drifts task.isAgent (some action.bgRun.isAgent) || drifts task.notifyOnCompletion (some action.bgRun.notifyOnCompletion) ||
      drifts task.triggerOnCompletion (some action.bgRun.triggerOnCompletion) ||
      drifts task.timeoutSeconds action.bgRun.timeoutSeconds)
    ("background task ownership facts drift for task_id=" ++ task.id ++ " action_id=" ++ action.actionId)

def textField (value field : String) : Except String Unit := refuseIf (value == "") ("ownership journal " ++ field ++ " is invalid")

section Json

variable [HostJson]

def descriptorFor (action : BackgroundAction) : Except String String := do
  (validateBackgroundAction action).mapError ("background action descriptor is invalid: " ++ ·)
  let descriptor := HostJson.stringify action
  refuseIf (maxRecordBytes < byteLength descriptor.toList) "background action descriptor is unserializable or overbound"
  return descriptor

def actionFromDescriptor (descriptor : String) : Except String BackgroundAction :=
  match HostJson.parseAction descriptor with
  | none => .error "ownership journal action descriptor is malformed JSON"
  | some action => do
    refuseIf (HostJson.stringify action != descriptor) "ownership journal action descriptor is not exact JSON"
    (validateBackgroundAction action).mapError ("ownership journal action descriptor is invalid: " ++ ·)
    return action

namespace Ledger

variable (ledger : Ledger)

def install (binding : OwnedTaskBinding) : Ledger :=
  { ledger with
    owned := setOwn ledger.owned binding.task.id binding
    actionTasks := setOwn ledger.actionTasks binding.action.actionId binding }

def replace (previous next : OwnedTaskBinding) : Except String Ledger := do
  refuseIf (getOwn ledger.owned previous.task.id != some previous ||
    getOwn ledger.actionTasks previous.action.actionId != some previous) "in-memory ownership replacement drift"
  return ledger.install next

def requireExactBinding (taskId : String) (action : BackgroundAction) : Except String OwnedTaskBinding :=
  let drift := "task/action ownership correlation drift for task_id=" ++ taskId
  match getOwn ledger.owned taskId with
  | none => .error drift
  | some binding => do
    refuseIf (binding.action.actionId != action.actionId || binding.action.assignmentId != action.assignmentId ||
      binding.action.runRevision != action.runRevision) drift
    let descriptor ← descriptorFor action
    refuseIf (binding.descriptor != descriptor) drift
    return binding

def requireCorrelationRow (owner : Correlation) (label : String) : Except String OwnedTaskBinding := do
  textField owner.taskId "task_id"
  match getOwn ledger.owned owner.taskId with
  | none => .error (label ++ " ownership correlation drift")
  | some binding => do
    textField owner.actionId "action_id"
    refuseIf (owner.actionId != binding.action.actionId) (label ++ " ownership correlation drift")
    textField owner.assignmentId "assignment_id"
    refuseIf (owner.assignmentId != binding.action.assignmentId || owner.runRevision != binding.action.runRevision)
      (label ++ " ownership correlation drift")
    return binding

def requireActiveGate (receiptId latchId : String) : Except String BlockedGate :=
  match ledger.activeGate with
  | none => .error "blocked journal row lacks its exact active gate"
  | some active => do
    refuseIf (active.receiptId != receiptId || active.gate.latchId != latchId) "blocked journal row lacks its exact active gate"
    return active.gate

def checkOwned (cancellation : BlockedCancellation) : Except String Unit :=
  let outside := "blocked gate named task outside exact durable Host ownership: " ++ cancellation.taskId
  match getOwn ledger.owned cancellation.taskId with
  | none => .error outside
  | some binding =>
    refuseIf (binding.action.actionId != cancellation.actionId || binding.action.assignmentId != cancellation.assignmentId) outside

def assertGateMembership (gate : BlockedGate) : Except String Unit := do
  let _ ← noteAll (fun _ => .ok ()) BlockedCancellation.taskId
    (fun cancellation => "blocked gate repeats task id " ++ cancellation.taskId) ledger.checkOwned gate.cancellations
  refuseIf (gate.cancellations.countP BlockedCancellation.reporter != 1) "blocked gate must identify exactly one reporter"

def restore : RowPayload → Except String Ledger
  | .launch task storedAction descriptor actionSha256 actionId assignmentId runRevision acknowledged => do
    (validateBackgroundAction storedAction).mapError ("ownership journal action is invalid: " ++ ·)
    textField descriptor "action_descriptor"
    let action ← actionFromDescriptor descriptor
    refuseIf (storedAction != action) "launch action descriptor/hash drift"
    textField actionSha256 "action_sha256"
    refuseIf (HostJson.sha256 descriptor != actionSha256) "launch action descriptor/hash drift"
    textField actionId "action_id"
    refuseIf (actionId != action.actionId) "launch ownership correlation drift"
    textField assignmentId "assignment_id"
    refuseIf (assignmentId != action.assignmentId || runRevision != action.runRevision || acknowledged)
      "launch ownership correlation drift"
    refuseIf (hasOwn ledger.owned task.id || hasOwn ledger.actionTasks action.actionId) "duplicate launch ownership row"
    return ledger.install { task, action, descriptor, actionSha256 := HostJson.sha256 descriptor, acknowledged := false,
                            terminal := false, terminalForwarded := false }
  | .launchAck owner => do
    let binding ← ledger.requireCorrelationRow owner "launch-ack"
    refuseIf binding.acknowledged "duplicate launch acknowledgement row"
    ledger.replace binding { binding with acknowledged := true }
  | .terminalTombstone owner task status => do
    let binding ← ledger.requireCorrelationRow owner "terminal-tombstone"
    refuseIf binding.terminal "duplicate terminal tombstone row"
    refuseIf (task.id != binding.task.id || task.status != status || !task.status.isTerminal) "terminal tombstone task drift"
    ledger.replace binding { binding with task, terminal := true }
  | .terminalForwarded owner => do
    let binding ← ledger.requireCorrelationRow owner "terminal-forwarded"
    refuseIf (!binding.terminal || binding.terminalForwarded) "duplicate or unpaired terminal-forwarded row"
    ledger.replace binding { binding with terminalForwarded := true }
  | .blockedGate receiptId gate => do
    textField receiptId "receipt_id"
    validateDirective { receiptId, gate, reporterObserved := false }
    ledger.assertGateMembership gate
    refuseIf ledger.activeGate.isSome "duplicate blocked gate row"
    return { ledger with activeGate := some { receiptId, gate, reporterObserved := false } }
  | .blockedObservationArrived receiptId latchId observation => do
    textField receiptId "receipt_id"
    textField latchId "latch_id"
    let _ ← ledger.requireActiveGate receiptId latchId
    validateObservation observation
    refuseIf (observation.receiptId != receiptId) "blocked observation receipt drift"
    refuseIf (hasOwn ledger.observations (gateKey receiptId latchId)) "duplicate blocked observation row"
    return { ledger with observations := setOwn ledger.observations (gateKey receiptId latchId) observation }
  | .blockedObservationObserved receiptId latchId => do
    textField receiptId "receipt_id"
    textField latchId "latch_id"
    let _ ← ledger.requireActiveGate receiptId latchId
    refuseIf (ledger.observed.contains (gateKey receiptId latchId)) "duplicate blocked observed row"
    return { ledger with
      observed := ledger.observed ++ [gateKey receiptId latchId]
      activeGate := ledger.activeGate.map fun active => { active with reporterObserved := true } }
  | .blockedCancelled receiptId latchId cancellation => do
    textField receiptId "receipt_id"
    textField latchId "latch_id"
    let gate ← ledger.requireActiveGate receiptId latchId
    textField cancellation.taskId "task_id"
    textField cancellation.actionId "action_id"
    textField cancellation.assignmentId "assignment_id"
    let key := cancellationKey receiptId latchId cancellation.taskId
    refuseIf (gate.cancellations.find? (·.taskId == cancellation.taskId) != some cancellation ||
      ledger.cancellationRows.contains key) "duplicate/conflicting blocked cancellation row"
    return { ledger with cancellationRows := ledger.cancellationRows ++ [key] }

structure Entry where
  payload : RowPayload
  update : Ledger → Except String Ledger

def freshBinding (action : BackgroundAction) (task : BgTaskSnapshot) : Except String (Option OwnedTaskBinding) := do
  assertTaskMatchesAction task action
  let descriptor ← descriptorFor action
  match getOwn ledger.owned task.id with
  | some existing => do
    refuseIf (existing.action.actionId != action.actionId || existing.action.assignmentId != action.assignmentId ||
      existing.action.runRevision != action.runRevision || existing.descriptor != descriptor || existing.task != task)
      ("journal task ownership conflict for task_id=" ++ task.id)
    return none
  | none =>
    match getOwn ledger.actionTasks action.actionId with
    | some byAction => do
      refuseIf (byAction.descriptor != descriptor || byAction.task.id != task.id)
        ("journal action ownership conflict for action_id=" ++ action.actionId)
      return none
    | none => return some { task, action, descriptor, actionSha256 := HostJson.sha256 descriptor, acknowledged := false,
                            terminal := false, terminalForwarded := false }

def launchPayload (binding : OwnedTaskBinding) : RowPayload :=
  .launch binding.task binding.action binding.descriptor binding.actionSha256 binding.action.actionId
    binding.action.assignmentId binding.action.runRevision false

def markLaunchAcknowledged (action : BackgroundAction) (task : BgTaskSnapshot) : Except String (Option Entry) := do
  let binding ← ledger.requireExactBinding task.id action
  if binding.acknowledged then return none
  return some ⟨.launchAck (correlation binding), fun ledger => ledger.replace binding { binding with acknowledged := true }⟩

def recordTerminal (task : BgTaskSnapshot) (action : BackgroundAction) : Except String (Option Entry) := do
  let binding ← ledger.requireExactBinding task.id action
  if binding.terminal then return none
  refuseIf (!task.status.isTerminal) ("terminal tombstone has nonterminal status for task_id=" ++ task.id)
  return some ⟨.terminalTombstone (correlation binding) task task.status,
    fun ledger => ledger.replace binding { binding with task, terminal := true }⟩

def markTerminalForwarded (taskId : String) : Except String (Option Entry) :=
  let unpaired := "terminal-forwarded has no durable terminal task_id=" ++ taskId
  match getOwn ledger.owned taskId with
  | none => .error unpaired
  | some binding => do
    refuseIf (!binding.terminal) unpaired
    if binding.terminalForwarded then return none
    return some ⟨.terminalForwarded (correlation binding),
      fun ledger => ledger.replace binding { binding with terminalForwarded := true }⟩

variable (directive : BlockedGateDirective)

def promoteBlockedGate : Except String (Option Entry) := do
  validateDirective directive
  ledger.assertGateMembership directive.gate
  match ledger.activeGate with
  | some active => do
    refuseIf (!sameDirective active directive) "blocked gate conflicts with durable Host gate"
    return none
  | none => return some ⟨.blockedGate directive.receiptId directive.gate, fun ledger =>
    .ok { ledger with activeGate := some { directive with
      reporterObserved := ledger.observed.contains (gateKey directive.receiptId directive.gate.latchId) } }⟩

def recordObservationArrived (observation : BlockedObservationWire) (directive : BlockedGateDirective) : Except String (Option Entry) := do
  validateObservation observation
  let key := gateKey directive.receiptId directive.gate.latchId
  refuseIf (observation.receiptId != directive.receiptId) "blocked observation receipt does not match durable Host gate"
  match getOwn ledger.observations key with
  | some previous => do
    refuseIf (previous != observation) "blocked observation correlation conflicts with durable Host observation"
    return none
  | none => return some ⟨.blockedObservationArrived directive.receiptId directive.gate.latchId observation,
      fun ledger => .ok { ledger with observations := setOwn ledger.observations key observation }⟩

def markObservationObserved : Except String (Option Entry) := do
  let key := gateKey directive.receiptId directive.gate.latchId
  if ledger.observed.contains key then return none
  return some ⟨.blockedObservationObserved directive.receiptId directive.gate.latchId, fun ledger =>
    .ok { ledger with
      observed := ledger.observed ++ [key]
      activeGate := ledger.activeGate.map fun active =>
        if sameDirective active directive then { active with reporterObserved := true } else active }⟩

def markCancelled (cancellation : BlockedCancellation) : Except String (Option Entry) := do
  ledger.assertGateMembership directive.gate
  refuseIf (directive.gate.cancellations.find? (·.taskId == cancellation.taskId) != some cancellation)
    ("cancellation result is not in the exact durable Host gate: " ++ cancellation.taskId)
  let key := cancellationKey directive.receiptId directive.gate.latchId cancellation.taskId
  if ledger.cancellationRows.contains key then return none
  return some ⟨.blockedCancelled directive.receiptId directive.gate.latchId cancellation,
    fun ledger => .ok { ledger with cancellationRows := ledger.cancellationRows ++ [key] }⟩

def assertReconciled (records : List BlockedGateDirective) : Except String Unit := do
  refuseIf (1 < records.length) "Core blocked reconciliation contains more than one whole-process gate"
  match ledger.activeGate with
  | none => refuseIf (!records.isEmpty) "Core blocked reconciliation named a gate absent from the Host journal"
  | some active =>
    match records.filter (sameDirective active) with
    | [matching] => refuseIf (ledger.observed.contains (gateKey active.receiptId active.gate.latchId) &&
        !matching.reporterObserved) "Core blocked reconciliation lost durable reporter observation"
    | _ => .error "Core blocked reconciliation lacks the exact durable Host gate"

end Ledger

inductive Hold where
  | opened | provisional | permanent
deriving DecidableEq

structure LaunchGate where
  hold : Hold
  activationHold : Bool
  flights : List Nat
deriving DecidableEq

namespace LaunchGate

def assertOpen (gate : LaunchGate) : Except String Unit :=
  refuseIf (gate.activationHold || gate.hold != .opened) "Autopilot launch gate is closed by durable blocked ownership state"

def enterLaunch (gate : LaunchGate) (flight : Nat) : Except String LaunchGate := do
  gate.assertOpen
  return { gate with flights := gate.flights ++ [flight] }

def settle (gate : LaunchGate) (flight : Nat) : LaunchGate := { gate with flights := gate.flights.filter (· != flight) }

/-- The hold is closed at once; the admission then waits for the flights of this moment. -/
def acquireBlockedAdmission (gate : LaunchGate) : LaunchGate :=
  if gate.hold = .opened then { gate with hold := .provisional } else gate

def releaseBlockedAdmissionOnRetry (gate : LaunchGate) : LaunchGate :=
  if gate.hold = .provisional then { gate with hold := .opened } else gate

def retainFailClosedHold (gate : LaunchGate) : LaunchGate :=
  if gate.hold = .opened then { gate with hold := .provisional } else gate

end LaunchGate

structure Coordinator where
  journal : OwnershipJournal
  ledger : Ledger
  launchGate : LaunchGate
deriving DecidableEq

inductive HostError where
  | journal (message : String)
  | persistence (action : BackgroundAction) (task : BgTaskSnapshot) (cause : String)
deriving DecidableEq

def Coordinator.restore (coordinator : Coordinator) (row : JournalRow) : Except String Coordinator := do
  let ledger ← coordinator.ledger.restore row.payload
  let launchGate := match row.payload with
    | .blockedGate _ _ => { coordinator.launchGate with hold := .permanent }
    | _ => coordinator.launchGate
  return { coordinator with ledger, launchGate }

def Coordinator.open (file : List Char) : Except String Coordinator := do
  let journal ← OwnershipJournal.open file
  journal.chain.foldlM Coordinator.restore
    { journal, ledger := .empty, launchGate := { hold := .opened, activationHold := true, flights := [] } }

namespace Coordinator

variable (coordinator : Coordinator)

def commit (entry : Ledger.Entry) (io : Except String Unit) : Coordinator × Except String Unit :=
  match coordinator.journal.append entry.payload io with
  | .error failed => (coordinator, .error failed)
  | .ok journal =>
    match entry.update coordinator.ledger with
    | .error failed => ({ coordinator with journal }, .error failed)
    | .ok ledger => ({ coordinator with journal, ledger }, .ok ())

def perform (decision : Except String (Option Ledger.Entry)) (io : Except String Unit) : Coordinator × Except String Unit :=
  match decision with
  | .error failed => (coordinator, .error failed)
  | .ok none => (coordinator, .ok ())
  | .ok (some entry) => coordinator.commit entry io

/-- The binding is kept in the maps, and launches are held, when its row cannot be written. -/
def registerSuccessfulRun (action : BackgroundAction) (task : BgTaskSnapshot)
    (io : Except String Unit) : Coordinator × Except HostError Unit :=
  match coordinator.ledger.freshBinding action task with
  | .error failed => (coordinator, .error (.journal failed))
  | .ok none => (coordinator, .ok ())
  | .ok (some binding) =>
    let ledger := coordinator.ledger.install binding
    match coordinator.journal.append (Ledger.launchPayload binding) io with
    | .error failed =>
      ({ coordinator with ledger, launchGate := { coordinator.launchGate with hold := .permanent } },
        .error (.persistence action task failed))
    | .ok journal => ({ coordinator with journal, ledger }, .ok ())

def promoteBlockedGate (directive : BlockedGateDirective) (io : Except String Unit) : Coordinator × Except String Unit :=
  match coordinator.perform (coordinator.ledger.promoteBlockedGate directive) io with
  | (after, .error failed) => (after, .error failed)
  | (after, .ok ()) => ({ after with launchGate := { after.launchGate with hold := .permanent } }, .ok ())

def finishActivation (records : List BlockedGateDirective) : Except String Coordinator := do
  coordinator.ledger.assertReconciled records
  return { coordinator with launchGate := { coordinator.launchGate with activationHold := false } }

end Coordinator

end Json

end PiAutopilot.Host
