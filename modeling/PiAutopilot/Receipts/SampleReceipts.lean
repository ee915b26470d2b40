import Mathlib.Logic.Function.Basic
import PiAutopilot.Receipts.Consume

set_option autoImplicit false

/-! # Receipts on sample texts -/

namespace PiAutopilot.Receipts

open EventLog Lib Delivery

section Sample

def rootFields (root : SubmitReceiptRoot) : List (List Char) :=
  [root.schema.toList, root.receiptRef.toList, root.receiptSha256.toList, root.transitionRef.toList,
    root.transitionSha256.toList]

def fieldsRoot : List (List Char) → Except String SubmitReceiptRoot
  | [schema, receiptRef, receiptSha256, transitionRef, transitionSha256] =>
    .ok ⟨.ofList schema, .ofList receiptRef, .ofList receiptSha256, .ofList transitionRef, .ofList transitionSha256⟩
  | _ => .error "missing field"

def eventFields (event : SubmitReceiptEventRef) : List (List Char) :=
  [event.schema.toList, event.receiptRef.toList, event.receiptSha256.toList, event.acceptedEvent.schemaVersion.toList,
    List.replicate event.acceptedEvent.sequence.toNat '1', event.acceptedEvent.kind.text.toList,
    event.acceptedEvent.rowSha256.toList]

def fieldsEvent : List (List Char) → Except String SubmitReceiptEventRef
  | [schema, receiptRef, receiptSha256, schemaVersion, sequence, kind, rowSha256] =>
    .ok ⟨.ofList schema, .ofList receiptRef, .ofList receiptSha256,
      ⟨.ofList schemaVersion, UInt64.ofNat sequence.length, ⟨.ofList kind⟩, .ofList rowSha256⟩⟩
  | _ => .error "missing field"

def fieldsText (fields : List (List Char)) : String := String.ofList (fields.flatMap fieldText)

def textFields {Value : Type} (read : List (List Char) → Except String Value) (text : String) : Except String Value :=
  match readFields 8 text.toList with
  | some fields => read fields
  | none => .error "expected value"

theorem text_fields {Value : Type} {read : List (List Char) → Except String Value} {fields : List (List Char)}
    (short : fields.length ≤ 8) : textFields read (fieldsText fields) = read fields := by
  rw [textFields, fieldsText, String.toList_ofList, read_fields_text fields 8 short]

@[reducible] def sampleReceiptJson : ReceiptJson where
  rootText := fun root => fieldsText (rootFields root)
  rootFromText := textFields fieldsRoot
  root_from_text := fun root => by
    rw [text_fields (by simp [rootFields])]
    simp [rootFields, fieldsRoot]
  eventText := fun event => fieldsText (eventFields event)
  eventFromText := textFields fieldsEvent
  event_from_text := fun event => by
    rw [text_fields (by simp [eventFields])]
    simp [eventFields, fieldsEvent]
  receiptText := fun receipt => receipt.receiptId
  rowText := fun _ => ""

attribute [local instance] sampleReceiptJson

def sampleBinding (id : String) : ReceiptBinding where
  runId := "r"
  actionId := id
  assignmentId := id
  attempt := 1
  runRevision := 1
  workstream := "w"
  boundaryId := "b"
  resultContract := "autopilot.delivery_result.v2"
  profileId := "p"
  toolName := "t"
  schemaDigest := ""
  specDigest := ""
  carrierPath := "/w/carriers/" ++ id
  carrierBindingDigest := ""
  authorityDigest := ""

def sampleReceiptHost (audit : String) : ReceiptHost where
  sha256Hex := id
  submitRoot := fun _ => .ok "/w"
  bindingText := fun binding => binding.actionId
  durable := fun _ => .ok ()
  identity := fun _ => true
  continuation := fun _ _ => .ok ()
  sealedTransition := fun receipt => .ok ⟨"agent:delivery-accepted", [⟨if receipt.receiptId = "2" then audit else "audit"⟩]⟩

end Sample

end PiAutopilot.Receipts
