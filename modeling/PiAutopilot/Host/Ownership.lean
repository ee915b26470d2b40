import Mathlib.Algebra.GroupWithZero.Nat
import PiAutopilot.Lib.Checks
import PiAutopilot.Lib.Fallible

set_option autoImplicit false

/-! # The Host's ownership journal: rows, append, parse -/

namespace PiAutopilot.Host

open Lib

inductive ActionKind where
  | launchBackground | reconcileBackground | readFailureLog | stopBackground | requestOperator | returnIdle
deriving DecidableEq

structure BgRun where
  name : String
  command : String
  isAgent : Bool
  timeoutSeconds : Option Nat
  notifyOnCompletion : Bool
  triggerOnCompletion : Bool
deriving DecidableEq

structure BackgroundAction where
  actionId : String
  assignmentId : String
  kind : ActionKind
  bgRun : BgRun
  runRevision : Nat
  expiresAt : Option (Option String)
  supersessionState : String
deriving DecidableEq

inductive TaskStatus where
  | running | completed | failed | killed
deriving DecidableEq

def TaskStatus.isTerminal : TaskStatus → Bool
  | .running => false
  | _ => true

structure BgTaskSnapshot where
  id : String
  name : Option String
  command : String
  status : TaskStatus
  outputPath : String
  isAgent : Option Bool
  notifyOnCompletion : Option Bool
  triggerOnCompletion : Option Bool
  timeoutSeconds : Option Nat
deriving DecidableEq

structure BlockedCancellation where
  taskId : String
  actionId : String
  assignmentId : String
  reporter : Bool
deriving DecidableEq

structure BlockedGate where
  schema : String
  latchId : String
  runId : String
  cancellations : List BlockedCancellation
deriving DecidableEq

structure BlockedObservationWire where
  schema : String
  token : String
  runId : String
  assignmentId : String
  attempt : Nat
  receiptId : String
  toolCallId : String
deriving DecidableEq

structure BlockedGateDirective where
  receiptId : String
  gate : BlockedGate
  reporterObserved : Bool
deriving DecidableEq

structure Correlation where
  taskId : String
  actionId : String
  assignmentId : String
  runRevision : Nat
deriving DecidableEq

inductive RowPayload where
  | launch (task : BgTaskSnapshot) (action : BackgroundAction) (descriptor actionSha256 : String) (actionId assignmentId : String)
      (runRevision : Nat) (acknowledged : Bool)
  | launchAck (owner : Correlation)
  | terminalTombstone (owner : Correlation) (task : BgTaskSnapshot) (status : TaskStatus)
  | terminalForwarded (owner : Correlation)
  | blockedGate (receiptId : String) (gate : BlockedGate)
  | blockedObservationArrived (receiptId latchId : String) (observation : BlockedObservationWire)
  | blockedObservationObserved (receiptId latchId : String)
  | blockedCancelled (receiptId latchId : String) (cancellation : BlockedCancellation)
deriving DecidableEq

structure Preimage where
  sequence : Nat
  previousSha256 : String
  payload : RowPayload
deriving DecidableEq

structure JournalRow extends Preimage where
  rowSha256 : String
deriving DecidableEq

def isHash (text : String) : Bool := text.length == 64 && text.toList.all fun char => char.isDigit || ('a' ≤ char && char ≤ 'f')

/-- The JavaScript built-ins the journal is written with. A row read back from its canonical
text is the row, and the text of a row is one line. -/
class HostJson where
  stringify : BackgroundAction → String
  parseAction : String → Option BackgroundAction
  canonicalPreimage : Preimage → String
  canonicalRow : JournalRow → String
  parseJson : String → Option JournalRow
  sha256 : String → String
  stringify_nonempty : ∀ action, stringify action ≠ ""
  parse_stringify : ∀ action, parseAction (stringify action) = some action
  parse_canonical : ∀ row, parseJson (canonicalRow row) = some row
  canonical_line : ∀ row, '\n' ∉ (canonicalRow row).toList
  canonical_nonempty : ∀ row, (canonicalRow row).toList ≠ []
  sha256_hash : ∀ text, isHash (sha256 text) = true

def schemaId : String := "autopilot.child_control_blocked_gate.v1"
def observationSchema : String := "autopilot.blocked_result_observed.v1"

def maxBytes : Nat := 8 * 1024 * 1024
def maxRecordBytes : Nat := 64 * 1024
def maxStringBytes : Nat := 16 * 1024

def zeroHash : String := String.ofList (List.replicate 64 '0')

def byteLength (text : List Char) : Nat := (text.map Char.utf8Size).sum

def text (value label : String) : Except String Unit := refuseIf (value == "") (label ++ " must be a non-empty string")

def validateBackgroundAction (action : BackgroundAction) : Except String Unit := do
  text action.actionId "background action action_id"
  text action.assignmentId "background action assignment_id"
  text action.bgRun.name "bg_run.name"
  text action.bgRun.command "bg_run.command"
  refuseIf (action.bgRun.timeoutSeconds == some 0) "bg_run.timeoutSeconds must be a positive integer"
  refuseIf (action.expiresAt == some (some "")) "background action expires_at must be a non-empty string"
  text action.supersessionState "background action supersession_state"

def validateDirective (directive : BlockedGateDirective) : Except String Unit := do
  refuseIf (directive.receiptId == "") "blocked directive is invalid"
  refuseIf (directive.gate.schema != schemaId || directive.gate.cancellations.isEmpty) "ownership journal gate is invalid"

def validateObservation (observation : BlockedObservationWire) : Except String Unit :=
  refuseIf (observation.schema != observationSchema) "blocked observation is invalid"

def BgTaskSnapshot.strings (task : BgTaskSnapshot) : List String := [task.id, task.command, task.outputPath] ++ task.name.toList

def BackgroundAction.strings (action : BackgroundAction) : List String :=
  [action.actionId, action.assignmentId, action.bgRun.name, action.bgRun.command, action.supersessionState] ++
    (action.expiresAt.bind id).toList

def Correlation.strings (owner : Correlation) : List String := [owner.taskId, owner.actionId, owner.assignmentId]

def BlockedCancellation.strings (cancellation : BlockedCancellation) : List String :=
  [cancellation.taskId, cancellation.actionId, cancellation.assignmentId]

def RowPayload.strings : RowPayload → List String
  | .launch task action descriptor actionSha256 actionId assignmentId _ _ =>
    task.strings ++ action.strings ++ [descriptor, actionSha256, actionId, assignmentId]
  | .launchAck owner => owner.strings
  | .terminalTombstone owner task _ => owner.strings ++ task.strings
  | .terminalForwarded owner => owner.strings
  | .blockedGate receiptId gate => [receiptId, gate.schema, gate.latchId, gate.runId] ++
      gate.cancellations.flatMap BlockedCancellation.strings
  | .blockedObservationArrived receiptId latchId observation => [receiptId, latchId, observation.schema, observation.token,
      observation.runId, observation.assignmentId, observation.receiptId, observation.toolCallId]
  | .blockedObservationObserved receiptId latchId => [receiptId, latchId]
  | .blockedCancelled receiptId latchId cancellation => [receiptId, latchId] ++ cancellation.strings

def assertBoundedStrings (strings : List String) : Except String Unit :=
  refuseIf (strings.any fun text => maxStringBytes < byteLength text.toList) "ownership journal string exceeds hard bound"

def validateRow (row : JournalRow) : Except String Unit := do
  refuseIf (row.sequence < 1 || !isHash row.previousSha256 || !isHash row.rowSha256) "ownership journal row header is invalid"
  assertBoundedStrings row.payload.strings
  match row.payload with
  | .launch _ action _ actionSha256 _ _ _ acknowledged => do
    (validateBackgroundAction action).mapError ("ownership journal action is invalid: " ++ ·)
    refuseIf (!isHash actionSha256 || acknowledged) "launch row fields are invalid"
  | .blockedGate receiptId gate => validateDirective { receiptId, gate, reporterObserved := false }
  | .blockedObservationArrived _ _ observation => validateObservation observation
  | _ => .ok ()

section Journal

variable [HostJson]

def lastHash (chain : List JournalRow) : String := (chain.getLast?.map JournalRow.rowSha256).getD zeroHash

def nextRow (chain : List JournalRow) (payload : RowPayload) : JournalRow :=
  let preimage : Preimage := { sequence := chain.length + 1, previousSha256 := lastHash chain, payload }
  { preimage with rowSha256 := HostJson.sha256 (HostJson.canonicalPreimage preimage) }

def rowLine (row : JournalRow) : List Char := (HostJson.canonicalRow row).toList ++ ['\n']

structure OwnershipJournal where
  file : List Char
  chain : List JournalRow
deriving DecidableEq

/-- One append. The last argument is what opening, writing and syncing the file comes to: a
failure there leaves the file as it was. -/
def OwnershipJournal.append (journal : OwnershipJournal) (payload : RowPayload) (io : Except String Unit) :
    Except String OwnershipJournal := do
  let row := nextRow journal.chain payload
  validateRow row
  let line := rowLine row
  refuseIf (maxRecordBytes < byteLength line) "ownership journal row exceeds hard byte bound"
  let currentBytes := if journal.chain.length = 0 then 0 else byteLength journal.file
  refuseIf (maxBytes < currentBytes + byteLength line) "ownership journal append exceeds hard byte bound"
  io
  return { file := journal.file ++ line, chain := journal.chain ++ [row] }

def parseRow (rows : List JournalRow) (line : List Char) : Except String (List JournalRow) := do
  let number := rows.length + 1
  refuseIf (line.isEmpty || maxRecordBytes < byteLength line + 1) "ownership journal has an empty or oversized row"
  match HostJson.parseJson (String.ofList line) with
  | none => .error s!"ownership journal row {number} is malformed JSON"
  | some row => do
    refuseIf ((HostJson.canonicalRow row).toList != line) s!"ownership journal row {number} is not canonical JSON"
    validateRow row
    refuseIf (row.sequence != number || row.previousSha256 != lastHash rows)
      s!"ownership journal row {number} sequence/hash-chain drift"
    refuseIf (HostJson.sha256 (HostJson.canonicalPreimage row.toPreimage) != row.rowSha256)
      s!"ownership journal row {number} hash drift"
    return rows ++ [row]

def parseRows (file : List Char) : Except String (List JournalRow) := do
  if file.isEmpty then return []
  refuseIf (file.getLast? != some '\n') "ownership journal is truncated (missing final newline)"
  (file.dropLast.splitOn '\n').foldlM parseRow []

def OwnershipJournal.open (file : List Char) : Except String OwnershipJournal := do
  refuseIf (maxBytes < byteLength file) "ownership journal exceeds hard byte bound"
  let chain ← parseRows file
  return { file, chain }

end Journal

end PiAutopilot.Host
