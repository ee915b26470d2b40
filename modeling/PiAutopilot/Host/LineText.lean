import PiAutopilot.Host.Ownership

set_option autoImplicit false

/-! # Rows as lines of text

One way to write actions and rows that reads back: a field is pairs of characters, and a row is its
fields. -/

namespace PiAutopilot.Host

def boolField (value : Bool) : List Char :=
  if value then ['1'] else ['0']

def natField (value : Nat) : List Char := List.replicate value '1'

def optionField {α : Type} (field : α → List Char) : Option α → List Char
  | none => []
  | some value => '+' :: field value

def statusField : TaskStatus → List Char
  | .running => ['r']
  | .completed => ['c']
  | .failed => ['f']
  | .killed => ['k']

def kindField : ActionKind → List Char
  | .launchBackground => ['1']
  | .reconcileBackground => ['2']
  | .readFailureLog => ['3']
  | .stopBackground => ['4']
  | .requestOperator => ['5']
  | .returnIdle => ['6']

def taskFields (task : BgTaskSnapshot) : List (List Char) :=
  [task.id.toList, optionField String.toList task.name, task.command.toList, statusField task.status, task.outputPath.toList,
    optionField boolField task.isAgent, optionField boolField task.notifyOnCompletion,
    optionField boolField task.triggerOnCompletion, optionField natField task.timeoutSeconds]

def actionFields (action : BackgroundAction) : List (List Char) :=
  [action.actionId.toList, action.assignmentId.toList, kindField action.kind, action.bgRun.name.toList,
    action.bgRun.command.toList, boolField action.bgRun.isAgent, optionField natField action.bgRun.timeoutSeconds,
    boolField action.bgRun.notifyOnCompletion, boolField action.bgRun.triggerOnCompletion, natField action.runRevision,
    optionField (optionField String.toList) action.expiresAt, action.supersessionState.toList]

def ownerFields (owner : Correlation) : List (List Char) :=
  [owner.taskId.toList, owner.actionId.toList, owner.assignmentId.toList, natField owner.runRevision]

def cancellationFields (cancellation : BlockedCancellation) : List (List Char) :=
  [cancellation.taskId.toList, cancellation.actionId.toList, cancellation.assignmentId.toList, boolField cancellation.reporter]

def payloadFields : RowPayload → List (List Char)
  | .launch task action descriptor actionSha256 actionId assignmentId runRevision acknowledged =>
    ['1'] :: (taskFields task ++ actionFields action ++ [descriptor.toList, actionSha256.toList, actionId.toList,
      assignmentId.toList, natField runRevision, boolField acknowledged])
  | .launchAck owner => ['2'] :: ownerFields owner
  | .terminalTombstone owner task status => ['3'] :: (ownerFields owner ++ taskFields task ++ [statusField status])
  | .terminalForwarded owner => ['4'] :: ownerFields owner
  | .blockedGate receiptId gate => ['5'] :: receiptId.toList :: gate.schema.toList :: gate.latchId.toList ::
      gate.runId.toList :: gate.cancellations.flatMap cancellationFields
  | .blockedObservationArrived receiptId latchId observation => [['6'], receiptId.toList, latchId.toList,
      observation.schema.toList, observation.token.toList, observation.runId.toList, observation.assignmentId.toList,
      natField observation.attempt, observation.receiptId.toList, observation.toolCallId.toList]
  | .blockedObservationObserved receiptId latchId => [['7'], receiptId.toList, latchId.toList]
  | .blockedCancelled receiptId latchId cancellation =>
    ['8'] :: receiptId.toList :: latchId.toList :: cancellationFields cancellation

@[simp] theorem bool_field_inj (left right : Bool) : boolField left = boolField right ↔ left = right := by
  cases left <;> cases right <;> decide

@[simp] theorem nat_field_inj (left right : Nat) : natField left = natField right ↔ left = right := by
  simp [natField, List.replicate_inj]

@[simp] theorem status_field_inj (left right : TaskStatus) : statusField left = statusField right ↔ left = right := by
  cases left <;> cases right <;> decide

@[simp] theorem kind_field_inj (left right : ActionKind) : kindField left = kindField right ↔ left = right := by
  cases left <;> cases right <;> decide

theorem option_field_inj {α : Type} (field : α → List Char) (injective : ∀ left right, field left = field right ↔ left = right)
    (left right : Option α) : optionField field left = optionField field right ↔ left = right := by
  cases left <;> cases right <;> simp [optionField, injective]

theorem task_fields_inj {left right : BgTaskSnapshot} : taskFields left = taskFields right ↔ left = right := by
  cases left
  cases right
  simp [taskFields, option_field_inj, String.toList_inj]

theorem action_fields_inj {left right : BackgroundAction} : actionFields left = actionFields right ↔ left = right := by
  obtain ⟨_, _, _, ⟨_, _, _, _, _, _⟩, _, _, _⟩ := left
  obtain ⟨_, _, _, ⟨_, _, _, _, _, _⟩, _, _, _⟩ := right
  simp [actionFields, option_field_inj, String.toList_inj]
  tauto

theorem owner_fields_inj {left right : Correlation} : ownerFields left = ownerFields right ↔ left = right := by
  cases left
  cases right
  simp [ownerFields, String.toList_inj]

theorem cancellation_fields_inj (left right : List BlockedCancellation)
    (same : left.flatMap cancellationFields = right.flatMap cancellationFields) : left = right := by
  induction left generalizing right with
  | nil =>
    cases right with
    | nil => rfl
    | cons first rest => simp [cancellationFields] at same
  | cons first rest ih =>
    cases right with
    | nil => simp [cancellationFields] at same
    | cons other others =>
      obtain ⟨_, _, _, _⟩ := other
      simp only [List.flatMap_cons, cancellationFields, List.cons_append, List.nil_append, List.cons.injEq,
        String.toList_inj, bool_field_inj] at same
      obtain ⟨rfl, rfl, rfl, rfl, remaining⟩ := same
      rw [ih others remaining]

theorem payload_fields_inj {left right : RowPayload} (same : payloadFields left = payloadFields right) : left = right := by
  cases left <;> cases right <;> try (simp [payloadFields] at same; done)
  case launch.launch =>
      simp only [payloadFields, List.cons.injEq, true_and, List.append_assoc] at same
      obtain ⟨task, same⟩ := List.append_inj same rfl
      obtain ⟨action, same⟩ := List.append_inj same rfl
      simp only [List.cons.injEq, String.toList_inj, nat_field_inj, bool_field_inj, and_true] at same
      obtain ⟨rfl, rfl, rfl, rfl, rfl, rfl⟩ := same
      rw [(task_fields_inj).mp task, (action_fields_inj).mp action]
  case launchAck.launchAck =>
      simp only [payloadFields, List.cons.injEq, true_and, owner_fields_inj] at same
      rw [same]
  case terminalTombstone.terminalTombstone =>
      simp only [payloadFields, List.cons.injEq, true_and, List.append_assoc] at same
      obtain ⟨owner, same⟩ := List.append_inj same rfl
      obtain ⟨task, same⟩ := List.append_inj same rfl
      simp only [List.cons.injEq, status_field_inj, and_true] at same
      rw [(owner_fields_inj).mp owner, (task_fields_inj).mp task, same]
  case terminalForwarded.terminalForwarded =>
      simp only [payloadFields, List.cons.injEq, true_and, owner_fields_inj] at same
      rw [same]
  case blockedGate.blockedGate receiptId gate otherReceipt other =>
      obtain ⟨_, _, _, _⟩ := gate
      simp only [payloadFields, List.cons.injEq, true_and, String.toList_inj] at same
      obtain ⟨rfl, rfl, rfl, rfl, listed⟩ := same
      rw [cancellation_fields_inj _ _ listed]
  case blockedObservationArrived.blockedObservationArrived _ _ observation _ _ other =>
      obtain ⟨_, _, _, _, _, _, _⟩ := other
      simp only [payloadFields, List.cons.injEq, true_and, String.toList_inj, nat_field_inj, and_true] at same
      obtain ⟨rfl, rfl, rfl, rfl, rfl, rfl, rfl, rfl, rfl⟩ := same
      rfl
  case blockedObservationObserved.blockedObservationObserved =>
      simp only [payloadFields, List.cons.injEq, true_and, String.toList_inj, and_true] at same
      rw [same.1, same.2]
  case blockedCancelled.blockedCancelled _ _ cancellation _ _ other =>
      obtain ⟨_, _, _, _⟩ := other
      simp only [payloadFields, cancellationFields, List.cons.injEq, true_and, String.toList_inj, bool_field_inj, and_true] at same
      obtain ⟨rfl, rfl, rfl, rfl, rfl, rfl⟩ := same
      rfl

def fieldCode (field : List Char) : List Char :=
  (field.flatMap fun char => if char = '\n' then ['-', '-'] else ['+', char]) ++ ['.', '.']

theorem field_code_inj (left right rest others : List Char) (same : fieldCode left ++ rest = fieldCode right ++ others) :
    left = right ∧ rest = others := by
  induction left generalizing right with
  | nil =>
    cases right with
    | nil => exact ⟨rfl, List.append_cancel_left same⟩
    | cons char right =>
      by_cases broken : char = '\n' <;> simp [fieldCode, broken] at same
  | cons first left ih =>
    cases right with
    | nil => by_cases broken : first = '\n' <;> simp [fieldCode, broken] at same
    | cons other right =>
      have step : first = other ∧ fieldCode left ++ rest = fieldCode right ++ others := by
        by_cases broken : first = '\n' <;> by_cases otherBroken : other = '\n' <;> simp_all [fieldCode]
      obtain ⟨rfl, remaining⟩ := step
      obtain ⟨rfl, rfl⟩ := ih right remaining
      exact ⟨rfl, rfl⟩

@[irreducible] def lineText (fields : List (List Char)) : String :=
  String.ofList (fields.flatMap fieldCode)

theorem line_text_inj (left right : List (List Char)) (same : lineText left = lineText right) : left = right := by
  have texts : left.flatMap fieldCode = right.flatMap fieldCode := by
    simpa only [lineText, String.toList_ofList] using congrArg String.toList same
  clear same
  induction left generalizing right with
  | nil =>
    cases right with
    | nil => rfl
    | cons first rest => simp [fieldCode] at texts
  | cons first rest ih =>
    cases right with
    | nil => simp [fieldCode] at texts
    | cons other others =>
      obtain ⟨rfl, remaining⟩ := field_code_inj first other _ _ texts
      rw [ih others remaining]

theorem line_text_unbroken {fields : List (List Char)} : '\n' ∉ (lineText fields).toList := by
  simp only [lineText, String.toList_ofList, List.mem_flatMap, fieldCode, List.mem_append, not_exists, not_and, not_or]
  intro field _
  refine ⟨?_, by decide⟩
  rintro char - member
  by_cases broken : char = '\n'
  · simp [broken] at member
  · rw [if_neg broken] at member
    simp only [List.mem_cons, List.not_mem_nil, or_false] at member
    rcases member with plus | same
    · cases plus
    · exact broken same.symm

def rowFields (row : JournalRow) : List (List Char) :=
  natField row.sequence :: row.previousSha256.toList :: row.rowSha256.toList :: payloadFields row.payload

theorem row_text_inj (left right : JournalRow) (same : lineText (rowFields left) = lineText (rowFields right)) : left = right := by
  have fields := line_text_inj _ _ same
  obtain ⟨⟨_, _, _⟩, _⟩ := left
  simp only [rowFields, List.cons.injEq, nat_field_inj, String.toList_inj] at fields
  obtain ⟨rfl, rfl, rfl, payload⟩ := fields
  rw [payload_fields_inj payload]

open Classical in
noncomputable def readBack {α : Type} (write : α → String) (text : String) : Option α :=
  if written : ∃ value, write value = text then some written.choose else none

theorem read_back_written {α : Type} {write : α → String} (injective : ∀ left right, write left = write right → left = right)
    (value : α) : readBack write (write value) = some value := by
  have written : ∃ other, write other = write value := ⟨value, rfl⟩
  rw [readBack, dif_pos written]
  exact congrArg some (injective _ _ written.choose_spec)

def sampleHash : String := String.ofList (List.replicate 64 'a')

@[reducible] noncomputable def sampleHostJson : HostJson where
  stringify action := lineText (actionFields action)
  parseAction := readBack fun action => lineText (actionFields action)
  canonicalPreimage _ := ""
  canonicalRow row := lineText (rowFields row)
  parseJson := readBack fun row => lineText (rowFields row)
  sha256 _ := sampleHash
  stringify_nonempty action := by
    intro empty
    have none : lineText [] = "" := by rw [lineText]; rfl
    cases line_text_inj _ [] (empty.trans none.symm)
  parse_stringify := read_back_written fun left right same => (action_fields_inj).mp (line_text_inj _ _ same)
  parse_canonical := read_back_written row_text_inj
  canonical_line row := line_text_unbroken
  canonical_nonempty row := by
    simp [lineText, rowFields, fieldCode]
  sha256_hash _ := by decide

end PiAutopilot.Host
