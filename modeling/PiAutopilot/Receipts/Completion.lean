import PiAutopilot.Receipts.Rooting

set_option autoImplicit false

/-! # Completing the child of a receipt

The completion of a child appends one row that consumes its receipt and answers with the effect the
receipt has sealed.  The row is recomputed from the receipt and compared with the one in the log. -/

namespace PiAutopilot.Receipts

open EventLog Lib Delivery

inductive Family where
  | planning
  | delivery
  | validation
deriving DecidableEq

def familyOf (resultContract : String) : Option Family :=
  if startsWith resultContract "planning." then some .planning
  else if resultContract = "autopilot.delivery_result.v2" then some .delivery
  else if resultContract = "autopilot.validation_result.v2" ∨ resultContract = "autopilot.validation_result.v3" then
    some .validation
  else none

def consumedRef (receipt : SubmitReceipt) : Ref := ⟨submitReceiptConsumedPrefix ++ receipt.receiptId⟩

def childRef (name : String) (binding : ReceiptBinding) : Ref :=
  ⟨name ++ (binding.actionId ++ ":" ++ binding.assignmentId ++ ":" ++ toString binding.runRevision)⟩

def consumesRow (receipt : SubmitReceipt) (row : Row) : Bool := row.kind == consumedKind && decide (consumedRef receipt ∈ row.refs)

/-- The three families differ in the texts of their refusals. -/
def exactlyConsumed (lacks duplicate drift : String) (rows : Rows) (receipt : SubmitReceipt) (expected : List Ref) : Except String Bool :=
  match rows.filter (consumesRow receipt) with
  | [] => if hasExactRef rows (consumedRef receipt).text then .error lacks else .ok false
  | [row] => if row.refs = expected then .ok true else .error drift
  | _ => .error duplicate

-- The planning family asks again for the reference that the row has just been found by.
def receiptIsExactlyConsumed (rows : Rows) (receipt : SubmitReceipt) (expected : List Ref) : Except String Bool := do
  let consumed ← exactlyConsumed "receipt-consumed ref lacks its exact durable row"
    "receipt has duplicate durable consume rows" "receipt durable consume row identity drift" rows receipt expected
  refuseIf (consumed && !hasExactRef rows (consumedRef receipt).text) "receipt durable consume row identity drift"
  return consumed

def deliveryReceiptIsExactlyConsumed : Rows → SubmitReceipt → List Ref → Except String Bool :=
  exactlyConsumed "delivery receipt-consumed ref lacks its durable row"
    "delivery receipt has duplicate durable consume rows" "delivery receipt durable consume row identity drift"

def validationReceiptIsExactlyConsumed : Rows → SubmitReceipt → List Ref → Except String Bool :=
  exactlyConsumed "validation receipt-consumed ref lacks its durable row"
    "validation receipt has duplicate durable consume rows" "validation receipt durable consume row identity drift"

-- A receipt of no family is consumed once its reference is anywhere in the log.
def isConsumed (family : Option Family) (rows : Rows) (receipt : SubmitReceipt) (expected : List Ref) : Except String Bool :=
  match family with
  | some .planning => receiptIsExactlyConsumed rows receipt expected
  | some .delivery => deliveryReceiptIsExactlyConsumed rows receipt expected
  | some .validation => validationReceiptIsExactlyConsumed rows receipt expected
  | none => .ok (hasExactRef rows (consumedRef receipt).text)

inductive Reply where
  | rejected (boundary detail : String)
  | effect (effect : HostEffect)
deriving DecidableEq

structure Latch where
  workstream : String
  receiptId : String
  latchId : String

structure BlockedPosture where
  projectionError : Option String
  latches : List Latch

def BlockedPosture.latchFor (posture : BlockedPosture) (workstream : String) : Option Latch :=
  posture.latches.find? fun latch => latch.workstream == workstream

def ensureWorkstreamUnblocked (posture : BlockedPosture) (workstream : String) : Except String Unit :=
  match posture.projectionError with
  | some error => .error ("blocked-latch:" ++ error)
  | none =>
    match posture.latchFor workstream with
    | some latch => .error ("blocked-latch:workstream=" ++ workstream ++ ";receipt=" ++ latch.receiptId ++ ";latch=" ++
        latch.latchId)
    | none => .ok ()

def HostEffect.spawns : HostEffect → Bool
  | .done _ => false
  | .spawn _ => true
  | .spawnWave _ => true

def deferredEffectEnvelope (posture : BlockedPosture) (effect : HostEffect) (workstream : String) : Reply :=
  if effect.spawns then
    match ensureWorkstreamUnblocked posture workstream with
    | .error refused => .rejected "blocked-latch" refused
    | .ok () => .effect effect
  else .effect effect

section Frame

variable [ReceiptJson] (host : ReceiptHost) (binding : ReceiptBinding) (receipt : SubmitReceipt)

def namedRefs (rooted : SubmitReceiptEventRef) : List Ref :=
  [⟨receipt.preparedTransition.transitionRef⟩, ⟨receipt.preparedTransition.carrier.artifactRef⟩,
    encodeSubmitReceiptEventRef rooted, ⟨issuedBindingRefPrefix ++ host.bindingText binding⟩]

def broughtRefs : List Ref :=
  receipt.preparedTransition.artifactRefs.map (fun artifact => ⟨artifact.artifactRef⟩) ++
    receipt.preparedTransition.issuedActions.flatMap fun issued => [⟨issued.actionRef⟩, ⟨issued.bindingRef⟩]

/-- The families differ in what names the result and where it stands. -/
def consumptionRefs (rooted : SubmitReceiptEventRef) (transition : Option (Family × SealedTransition)) : List Ref :=
  consumedRef receipt :: childRef "terminal-consumed:" binding ::
    match transition with
    | some (.planning, transition) =>
      namedRefs host binding receipt rooted ++
        [childRef "planning-result-consumed:" binding, ⟨"planning-transition-kind:" ++ transition.eventKind⟩] ++
        transition.refs ++ broughtRefs receipt
    | some (.delivery, transition) =>
      [childRef "delivery-result-consumed:" binding] ++ namedRefs host binding receipt rooted ++
        [⟨"delivery-transition-kind:" ++ transition.eventKind⟩] ++ transition.refs ++ broughtRefs receipt
    | some (.validation, transition) =>
      namedRefs host binding receipt rooted ++ [⟨"validation-transition-kind:" ++ transition.eventKind⟩] ++
        transition.refs ++ broughtRefs receipt
    | none => namedRefs host binding receipt rooted ++ broughtRefs receipt

def sealedOf : Except String (Option (Family × SealedTransition)) :=
  match familyOf binding.resultContract with
  | none => .ok none
  | some family => do
    let transition ← host.sealedTransition receipt
    return some (family, transition)

abbrev ReceiptFiles := String → Option SubmitReceipt

def fileAt (files : ReceiptFiles) (path : String) : Except String SubmitReceipt :=
  match files path with
  | none => .error "missing receipt"
  | some receipt => .ok receipt

def completionIdentity : Bool :=
  receiptMatchesBinding receipt binding && receipt.preparedTransition.carrier.artifactRef == binding.carrierPath &&
    host.identity receipt

def consume (files : ReceiptFiles) (binding : ReceiptBinding) (rows : Rows) : Except String (SubmitReceipt × Rows) := do
  let path ← submitReceiptPath host binding
  let receipt ← fileAt files path
  refuseIf (!completionIdentity host binding receipt) "receipt identity/transition mismatch"
  let transition ← sealedOf host binding receipt
  let rooted ← verifyRootedSubmitReceipt host rows receipt
  host.continuation receipt binding
  let expected := consumptionRefs host binding receipt rooted transition
  let consumed ← isConsumed (familyOf binding.resultContract) rows receipt expected
  return (receipt, if consumed then [] else [⟨consumedKind, expected⟩])

def routeReceiptV1TaskCompleted (posture : BlockedPosture) (files : ReceiptFiles) (binding : ReceiptBinding)
    (status : String) (rows : Rows) : Rows × Reply :=
  if status ≠ "completed" then (rows, .rejected "submit-receipt" "receipt_v1 completion requires completed status")
  else
    match consume host files binding rows with
    | .error refused => (rows, .rejected "submit-receipt" refused)
    | .ok (receipt, appended) =>
      (rows ++ appended, deferredEffectEnvelope posture receipt.preparedTransition.deferredHostEffect binding.workstream)

end Frame

end PiAutopilot.Receipts
