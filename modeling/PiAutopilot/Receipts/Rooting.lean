import PiAutopilot.Delivery.Rows

set_option autoImplicit false

/-! # Rooting a submit receipt in the log

A receipt is a create-once file.  One row of the log roots it, and a second row names the hash of that
row; each is searched for in the whole log before it is appended. -/

namespace PiAutopilot.Receipts

open EventLog Lib Delivery

structure ReceiptBinding where
  runId : String
  actionId : String
  assignmentId : String
  attempt : Nat
  runRevision : Nat
  workstream : String
  boundaryId : String
  resultContract : String
  profileId : String
  toolName : String
  schemaDigest : String
  specDigest : String
  carrierPath : String
  carrierBindingDigest : String
  authorityDigest : String
deriving DecidableEq

structure ArtifactRef where
  artifactRef : String
  artifactSchema : String
  sha256 : String
  byteCount : Nat
deriving DecidableEq

structure BackgroundAction where
  actionId : String
  assignmentId : String
  runRevision : Nat
deriving DecidableEq

inductive HostEffect where
  | done (status : String)
  | spawn (action : BackgroundAction)
  | spawnWave (actions : List BackgroundAction)
deriving DecidableEq

structure IssuedAction where
  actionRef : String
  action : BackgroundAction
  bindingRef : String
  bindingDigest : String
deriving DecidableEq

structure PreparedTransition where
  transitionRef : String
  transitionDigest : String
  carrier : ArtifactRef
  artifactRefs : List ArtifactRef
  issuedActions : List IssuedAction
  deferredHostEffect : HostEffect
deriving DecidableEq

structure SubmitReceipt where
  schema : String
  receiptId : String
  runId : String
  runRevision : Nat
  workstream : String
  actionId : String
  assignmentId : String
  attempt : Nat
  profileId : String
  toolName : String
  boundaryId : String
  resultContract : String
  schemaDigest : String
  specDigest : String
  carrierBindingDigest : String
  authorityDigest : String
  rawPayloadDigest : String
  rawPayloadByteCount : Nat
  requestId : String
  toolCallId : String
  preparedTransition : PreparedTransition
deriving DecidableEq

def receiptMatchesBinding (receipt : SubmitReceipt) (binding : ReceiptBinding) : Bool :=
  receipt.schema == "autopilot.submit_receipt.v1" && receipt.runId == binding.runId &&
    receipt.runRevision == binding.runRevision && receipt.workstream == binding.workstream &&
    receipt.actionId == binding.actionId && receipt.assignmentId == binding.assignmentId &&
    receipt.attempt == binding.attempt && receipt.profileId == binding.profileId &&
    receipt.toolName == binding.toolName && receipt.boundaryId == binding.boundaryId &&
    receipt.resultContract == binding.resultContract && receipt.schemaDigest == binding.schemaDigest &&
    receipt.specDigest == binding.specDigest && receipt.carrierBindingDigest == binding.carrierBindingDigest &&
    receipt.authorityDigest == binding.authorityDigest

structure SubmitReceiptRoot where
  schema : String
  receiptRef : String
  receiptSha256 : String
  transitionRef : String
  transitionSha256 : String
deriving DecidableEq

structure AutopilotEventRef where
  schemaVersion : String
  sequence : UInt64
  kind : EventKind
  rowSha256 : String
deriving DecidableEq

structure SubmitReceiptEventRef where
  schema : String
  receiptRef : String
  receiptSha256 : String
  acceptedEvent : AutopilotEventRef
deriving DecidableEq

/-- The canonical JSON texts; the strict readers read back what the writer wrote. -/
class ReceiptJson where
  rootText : SubmitReceiptRoot → String
  rootFromText : String → Except String SubmitReceiptRoot
  root_from_text : ∀ root, rootFromText (rootText root) = .ok root
  eventText : SubmitReceiptEventRef → String
  eventFromText : String → Except String SubmitReceiptEventRef
  event_from_text : ∀ event, eventFromText (eventText event) = .ok event
  receiptText : SubmitReceipt → String
  rowText : EventRow → String

structure SealedTransition where
  eventKind : String
  refs : List Ref
deriving DecidableEq

/-- What the Core asks of a receipt apart from the log: the checks read the receipt and the files it names, which
are written once. -/
structure ReceiptHost where
  sha256Hex : String → String
  submitRoot : String → Except String String
  bindingText : ReceiptBinding → String
  durable : SubmitReceipt → Except String Unit
  identity : SubmitReceipt → Bool
  continuation : SubmitReceipt → ReceiptBinding → Except String Unit
  sealedTransition : SubmitReceipt → Except String SealedTransition

def submitReceiptRootPrefix : String := "submit-receipt-root:"

def submitReceiptEventRefPrefix : String := "submit-receipt-event:"

def submitReceiptConsumedPrefix : String := "submit-receipt-consumed:"

def acceptedKind : EventKind := ⟨"submit:accepted"⟩

def eventRefKind : EventKind := ⟨"submit:accepted-event-ref"⟩

def consumedKind : EventKind := ⟨"submit:receipt-consumed"⟩

section Rooting

variable [ReceiptJson] (host : ReceiptHost)

def submitReceiptPathAt (carrier runId actionId assignmentId : String) (runRevision : Nat) : Except String String := do
  let root ← host.submitRoot carrier
  let key := host.sha256Hex ("submit-receipt.v1\\0" ++ runId ++ "\\0" ++ actionId ++ "\\0" ++ assignmentId ++ "\\0" ++
    toString runRevision)
  return root ++ "/submit-receipts/" ++ key ++ ".json"

def submitReceiptPath (binding : ReceiptBinding) : Except String String :=
  submitReceiptPathAt host binding.carrierPath binding.runId binding.actionId binding.assignmentId binding.runRevision

def submitReceiptPathFromReceipt (receipt : SubmitReceipt) : Except String String :=
  submitReceiptPathAt host receipt.preparedTransition.carrier.artifactRef receipt.runId receipt.actionId receipt.assignmentId
    receipt.runRevision

def rootAt (path : String) (receipt : SubmitReceipt) : SubmitReceiptRoot where
  schema := "autopilot.submit_receipt_root.v1"
  receiptRef := path
  receiptSha256 := host.sha256Hex (ReceiptJson.receiptText receipt)
  transitionRef := receipt.preparedTransition.transitionRef
  transitionSha256 := receipt.preparedTransition.transitionDigest

def receiptRoot (receipt : SubmitReceipt) : Except String SubmitReceiptRoot := do
  let path ← submitReceiptPathFromReceipt host receipt
  return rootAt host path receipt

variable (root : SubmitReceiptRoot)

def encodeSubmitReceiptRoot : Ref := ⟨submitReceiptRootPrefix ++ ReceiptJson.rootText root⟩

def decodeSubmitReceiptRoot (reference : Ref) : Except String (Option SubmitReceiptRoot) :=
  match stripPrefix submitReceiptRootPrefix reference.text with
  | none => .ok none
  | some value => do
    let root ← ReceiptJson.rootFromText value
    refuseIf (ReceiptJson.rootText root != value) "submit receipt root ref is not canonical"
    return some root

def encodeSubmitReceiptEventRef (event : SubmitReceiptEventRef) : Ref :=
  ⟨submitReceiptEventRefPrefix ++ ReceiptJson.eventText event⟩

def decodeSubmitReceiptEventRef (reference : Ref) : Except String (Option SubmitReceiptEventRef) :=
  match stripPrefix submitReceiptEventRefPrefix reference.text with
  | none => .ok none
  | some value => do
    let event ← ReceiptJson.eventFromText value
    refuseIf (ReceiptJson.eventText event != value) "submit receipt event ref is not canonical"
    return some event

def decodedRefs {Decoded : Type} (decode : Ref → Except String (Option Decoded)) (refs : List Ref) : Except String (List Decoded) := do
  let decoded ← refs.mapM decode
  return decoded.reduceOption

def acceptedRow : Row where
  kind := acceptedKind
  refs := [encodeSubmitReceiptRoot root, ⟨root.receiptRef⟩, ⟨root.transitionRef⟩]

/-- The accepted row is persisted as its canonical JSON, so the hash is that of the persisted bytes. -/
def eventRefAt (index : Nat) (row : Row) : AutopilotEventRef where
  schemaVersion := "autopilot.event.v1"
  sequence := (numberedRow index row).sequence
  kind := row.kind
  rowSha256 := host.sha256Hex (ReceiptJson.rowText (numberedRow index row))

variable (rows : Rows)

def actualEventRef (index : Nat) : Except String AutopilotEventRef :=
  match rows[index]? with
  | none => .error "accepted event row is absent"
  | some row => .ok (eventRefAt host index row)

def eventRefOf (accepted : AutopilotEventRef) : SubmitReceiptEventRef where
  schema := "autopilot.submit_receipt_event_ref.v1"
  receiptRef := root.receiptRef
  receiptSha256 := root.receiptSha256
  acceptedEvent := accepted

def eventRefRow (event : SubmitReceiptEventRef) : Row where
  kind := eventRefKind
  refs := [encodeSubmitReceiptEventRef event, ⟨root.receiptRef⟩, ⟨root.transitionRef⟩]

variable (receiptRef : String)

def rowRoots (row : Row) : Except String (List SubmitReceiptRoot) :=
  if row.kind ≠ acceptedKind then .ok []
  else do
    refuseIf (row.refs.any fun reference => startsWith reference.text submitReceiptEventRefPrefix)
      "accepted event contains circular event reference"
    let decoded ← decodedRefs decodeSubmitReceiptRoot row.refs
    return decoded.filter fun root => root.receiptRef == receiptRef

def rootMatches : Except String (List (Nat × SubmitReceiptRoot)) :=
  rows.zipIdx.foldlM (fun found entry => do
    let roots ← rowRoots receiptRef entry.1
    return found ++ roots.map fun root => (entry.2, root)) []

def acceptedRootIndex (root : SubmitReceiptRoot) : Except String (Option Nat) := do
  match ← rootMatches rows root.receiptRef with
  | [] => return none
  | [(index, decoded)] =>
    if decoded.schema ≠ "autopilot.submit_receipt_root.v1" ∨ decoded.receiptSha256 ≠ root.receiptSha256 ∨
        decoded.transitionRef ≠ root.transitionRef ∨ decoded.transitionSha256 ≠ root.transitionSha256 ∨
        (rows[index]?).map Row.refs ≠ some (acceptedRow root).refs then
      throw "accepted receipt event root drift"
    else return some index
  | _ => throw "conflicting duplicate accepted receipt roots"

def rowEvents (row : Row) : Except String (List SubmitReceiptEventRef) :=
  if row.kind ≠ eventRefKind then .ok []
  else do
    let decoded ← decodedRefs decodeSubmitReceiptEventRef row.refs
    return decoded.filter fun event => event.receiptRef == receiptRef

def eventMatches : Except String (List (Row × SubmitReceiptEventRef)) :=
  rows.foldlM (fun found row => do
    let events ← rowEvents receiptRef row
    return found ++ events.map fun event => (row, event)) []

def receiptEventRefForRoot (root : SubmitReceiptRoot) (acceptedIndex : Nat) : Except String (Option SubmitReceiptEventRef) := do
  let accepted ← actualEventRef host rows acceptedIndex
  refuseIf (accepted.kind != acceptedKind) "accepted event reference kind drift"
  let expected := eventRefOf root accepted
  match ← eventMatches rows root.receiptRef with
  | [] => return none
  | [(row, decoded)] =>
    if decoded ≠ expected ∨ row.refs ≠ (eventRefRow root expected).refs then
      throw "accepted receipt event hash reference drift"
    else return some expected
  | _ => throw "conflicting duplicate accepted receipt event hash references"

def verifyRootedSubmitReceipt (receipt : SubmitReceipt) : Except String SubmitReceiptEventRef := do
  let root ← receiptRoot host receipt
  match ← acceptedRootIndex rows root with
  | none => throw "accepted receipt event root is absent"
  | some index =>
    match ← receiptEventRefForRoot host rows root index with
    | none => throw "accepted receipt event hash reference is absent"
    | some event => return event

end Rooting

end PiAutopilot.Receipts
