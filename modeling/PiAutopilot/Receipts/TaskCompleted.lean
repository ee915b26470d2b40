import PiAutopilot.Planning.Waves
import PiAutopilot.Receipts.Completion

set_option autoImplicit false

/-! # The terminal of a background child

A terminal frame names a binding of either version.  The readers of the log count a binding as live
until its terminal is consumed. -/

namespace PiAutopilot.Receipts

open EventLog Lib Delivery

structure ReplayBinding extends IssuedRunnerBinding where
  resultContract : String
deriving DecidableEq

structure ReceiptV1RunnerBinding extends ReceiptBinding where
  roleId : String
  laneId : Option String
deriving DecidableEq

inductive VersionedRunnerBinding where
  | replayV0 (binding : ReplayBinding)
  | receiptV1 (binding : ReceiptV1RunnerBinding)
deriving DecidableEq

def receiptV1ValidatorFacade (binding : ReceiptV1RunnerBinding) : ReplayBinding where
  actionId := binding.actionId
  assignmentId := binding.assignmentId
  runRevision := binding.runRevision
  workstream := binding.workstream
  roleId := binding.roleId
  laneId := binding.laneId
  resultContract := binding.resultContract

def VersionedRunnerBinding.facade : VersionedRunnerBinding → ReplayBinding
  | .replayV0 binding => binding
  | .receiptV1 binding => receiptV1ValidatorFacade binding

def VersionedRunnerBinding.replay : VersionedRunnerBinding → Option ReplayBinding
  | .replayV0 binding => some binding
  | .receiptV1 _ => none

structure TaskBindingRef where
  taskId : String
  actionId : String
  assignmentId : String
  runRevision : Nat
deriving DecidableEq

/-- The JSON texts; the strict reader reads back what the writer wrote. -/
class RunnerBindingJson where
  toJson : VersionedRunnerBinding → String
  fromJson : String → Except String VersionedRunnerBinding
  from_to : ∀ binding, fromJson (toJson binding) = .ok binding
  taskBindingText : TaskBindingRef → String
  taskBindingFromText : String → Except String TaskBindingRef

section Lookup

variable [RunnerBindingJson]

def versionedRef (binding : VersionedRunnerBinding) : Ref := ⟨issuedBindingRefPrefix ++ RunnerBindingJson.toJson binding⟩

def decodeRunnerBinding (text : String) : Except String VersionedRunnerBinding :=
  match stripPrefix issuedBindingRefPrefix text with
  | none => .error "binding ref prefix drift"
  | some encoded => RunnerBindingJson.fromJson encoded

def strictVersionedRunnerBindings (rows : Rows) : Except String (List VersionedRunnerBinding) :=
  (bindingRefs rows).mapM fun text =>
    (decodeRunnerBinding text).mapError fun failed => s!"durable runner binding corruption: {failed}"

def isFor (actionId assignmentId : String) (binding : VersionedRunnerBinding) : Bool :=
  binding.facade.actionId == actionId && binding.facade.assignmentId == assignmentId

def theOnly {α : Type} (actionId assignmentId : String) (found : List α) : Except String α :=
  match found with
  | [binding] => .ok binding
  | [] => .error s!"unknown action/assignment: {actionId}/{assignmentId}"
  | _ => .error s!"ambiguous action/assignment: {actionId}/{assignmentId}:{found.length}"

def versionedBindingFor (rows : Rows) (actionId assignmentId : String) : Except String VersionedRunnerBinding := do
  let bindings ← strictVersionedRunnerBindings rows
  theOnly actionId assignmentId (bindings.filter (isFor actionId assignmentId))

def bindingFor (rows : Rows) (actionId assignmentId : String) : Except String ReplayBinding := do
  let bindings ← strictVersionedRunnerBindings rows
  theOnly actionId assignmentId ((bindings.filterMap VersionedRunnerBinding.replay).filter fun binding =>
    binding.actionId == actionId && binding.assignmentId == assignmentId)

end Lookup

def launchAckRef (binding : IssuedRunnerBinding) : Ref :=
  ⟨s!"launch-ack:{binding.actionId}:{binding.assignmentId}:{binding.runRevision}"⟩

def launchFailureRef (binding : IssuedRunnerBinding) : Ref :=
  ⟨s!"launch-failed:{binding.actionId}:{binding.assignmentId}:{binding.runRevision}"⟩

def planningResultConsumedRef (binding : IssuedRunnerBinding) : Ref :=
  ⟨s!"planning-result-consumed:{binding.actionId}:{binding.assignmentId}:{binding.runRevision}"⟩

def launchAckConsumed (rows : Rows) (binding : IssuedRunnerBinding) : Bool := hasExactRef rows (launchAckRef binding).text

def launchFailureConsumed (rows : Rows) (binding : IssuedRunnerBinding) : Bool := hasExactRef rows (launchFailureRef binding).text

def planningResultConsumed (rows : Rows) (binding : IssuedRunnerBinding) : Bool :=
  hasExactRef rows (planningResultConsumedRef binding).text

section Readers

variable [RunnerBindingJson]

def closedPlanningEventKinds : List String :=
  ["agent:result", "planning:recovery-completed", "planning:recovery-required", "recovery:exhausted", "recovery:inadmissible",
   "planning:ready-to-execute"]

def planningTransitionKindRefPrefix : String := "planning-transition-kind:"

def countPrefix (row : Row) (start : String) : Nat := row.refs.countP fun reference => startsWith reference.text start

def receiptProjectedPlanningKind (row : Row) : Except String (Option String) :=
  match row.refs.filter fun reference => startsWith reference.text planningTransitionKindRefPrefix with
  | [] => do
    refuseIf (row.kind == consumedKind && 0 < countPrefix row "planning-result-consumed:")
      "receipt planning consumption lacks its transition marker"
    return none
  | [marker] => do
    refuseIf (row.kind != consumedKind) "planning transition marker appears outside receipt consumption"
    refuseIf (countPrefix row submitReceiptConsumedPrefix != 1) "receipt planning transition lacks one receipt-consumed ref"
    refuseIf (countPrefix row "planning-result-consumed:" != 1)
      "receipt planning transition lacks one planning-result-consumed ref"
    let kind := (stripPrefix planningTransitionKindRefPrefix marker.text).getD ""
    refuseIf (!closedPlanningEventKinds.contains kind) s!"unknown planning transition kind: {kind}"
    return some kind
  | _ => do
    refuseIf (row.kind != consumedKind) "planning transition marker appears outside receipt consumption"
    .error "receipt consumption has duplicate planning transition markers"

def logicalPlanningEventKind (row : Row) : Except String (Option String) := do
  match ← receiptProjectedPlanningKind row with
  | some kind => return some kind
  | none => return if row.kind == consumedKind then none else closedPlanningEventKinds.find? fun known => known == row.kind.text

def planningTaskBindingRef (text : String) : Except String (Option TaskBindingRef) :=
  match stripPrefix "task-binding:" text with
  | none => .ok none
  | some encoded => do
    let binding ← (RunnerBindingJson.taskBindingFromText encoded).mapError fun failed => s!"task binding ref JSON: {failed}"
    refuseIf ([binding.taskId, binding.actionId, binding.assignmentId].any fun id => id.toList.all Planning.isWhite)
      "task binding ref has an empty planning identity"
    return some binding

def versionedBindingFacade (text : String) : Except String (Option ReplayBinding) :=
  if startsWith text issuedBindingRefPrefix then
    (fun binding => some binding.facade) <$>
      (decodeRunnerBinding text).mapError fun failed => s!"runner binding ref corruption: {failed}"
  else .ok none

def launchAckTaskId (rows : Rows) (binding : ReplayBinding) (taskBindings : List TaskBindingRef) : Except String (Option String) :=
  if launchAckConsumed rows binding.toIssuedRunnerBinding then
    let name := s!"{binding.actionId}:{binding.assignmentId}:{binding.runRevision}"
    match taskBindings.filter fun task => task.actionId == binding.actionId && task.assignmentId == binding.assignmentId &&
        task.runRevision == binding.runRevision with
    | [] => .error s!"launch acknowledgement lacks exact task binding:{name}"
    | [task] => .ok (some task.taskId)
    | tasks => .error s!"launch acknowledgement has ambiguous task bindings:{name}:{tasks.length}"
  else .ok none

def attemptRef (binding : IssuedRunnerBinding) : Planning.AttemptRef where
  assignmentId := binding.assignmentId.toList
  actionId := binding.actionId.toList
  runRevision := binding.runRevision

def notePlanningBinding (workstream : String) (rows : Rows) (taskBindings : List TaskBindingRef) (refs : Planning.PlanningRefs)
    (binding : ReplayBinding) : Except String Planning.PlanningRefs :=
  if binding.workstream != workstream || !startsWith binding.resultContract "planning." then .ok refs
  else do
    let attempt := attemptRef binding.toIssuedRunnerBinding
    let acked ← launchAckTaskId rows binding taskBindings
    let refs : Planning.PlanningRefs :=
      { refs with
        issued := refs.issued ++ [attempt]
        launchAcks := refs.launchAcks ++ acked.toList.map fun taskId => { attempt with taskId := taskId.toList } }
    let failed (status : String) : Planning.PlanningRefs :=
      { refs with terminalFailures := refs.terminalFailures ++ [{ attempt with status := status.toList }] }
    if planningResultConsumed rows binding.toIssuedRunnerBinding then return { refs with accepted := refs.accepted ++ [attempt] }
    else if terminalConsumed rows binding.toIssuedRunnerBinding then return failed "terminal-without-planning-result"
    else if launchFailureConsumed rows binding.toIssuedRunnerBinding then return failed "launch-failed"
    else return refs

def activationNames : List String := ["planning-resolution-required", "planning-recovery-required", "planning-rereview-required"]

def activationsOf (workstream : String) (row : Row) : Except String (List String) := do
  match ← logicalPlanningEventKind row with
  | none => return []
  | some _ =>
    if row.refs.any fun reference => reference.text == workstream then
      return row.refs.flatMap fun reference => activationNames.filter fun activation =>
        reference.text == activation || startsWith reference.text (activation ++ ":")
    else return []

def planningRefsFromState (workstream : String) (rows : Rows) : Except String Planning.PlanningRefs := do
  checkAll (fun row => (fun _ => ()) <$> (receiptProjectedPlanningKind row).mapError fun failed =>
    s!"planning transition ref corruption: {failed}") rows
  let read ← (refKeys rows).mapM fun text => do
    let binding ← versionedBindingFacade text
    let taskBinding ← planningTaskBindingRef text
    return (binding, taskBinding)
  let taskBindings := read.filterMap Prod.snd
  let refs ← (read.filterMap Prod.fst).foldlM (notePlanningBinding workstream rows taskBindings) ⟨[], [], [], [], []⟩
  let activations ← rows.mapM (activationsOf workstream)
  return { refs with activationRefs := activations.flatten.map String.toList }

end Readers

structure TaskCompletedPayload where
  taskId : String
  actionId : String
  assignmentId : String
  status : String
deriving DecidableEq

def terminalStatusAllowed (status : String) : Bool := status == "completed" || status == "failed" || status == "killed"

inductive TaskReply where
  | rejected (boundary detail : String)
  | effect (effect : HostEffect)
  | planning (outcome : Planning.PlanningWaveOutcome)
  | summary
deriving DecidableEq

def taskReplyOf : Reply → TaskReply
  | .rejected boundary detail => .rejected boundary detail
  | .effect effect => .effect effect

section Frame

variable [RunnerBindingJson]

def terminalEvent (payload : TaskCompletedPayload) (binding : ReplayBinding) : Row where
  kind := ⟨"background:terminal"⟩
  refs := [⟨payload.taskId⟩, ⟨payload.actionId⟩, ⟨payload.assignmentId⟩, ⟨payload.status⟩, ⟨toString binding.runRevision⟩,
    ⟨"task-binding:" ++ RunnerBindingJson.taskBindingText
      { taskId := payload.taskId, actionId := payload.actionId, assignmentId := payload.assignmentId,
        runRevision := binding.runRevision }⟩,
    terminalConsumedRef binding.toIssuedRunnerBinding]

structure FrameHost where
  package : Planning.Package
  scheduleManifest : String → Except String Planning.PlanningManifest
  posture : BlockedPosture
  files : ReceiptFiles
  /-- The carrier of a completed replay child: refused, or the rows that its admission appends after the terminal event. -/
  carrier : ReplayBinding → Except (String × String) Rows

def nextPlanningOutcome (frame : FrameHost) (workstream : String) (rows : Rows) : Except String Planning.PlanningWaveOutcome := do
  let manifest ← (frame.scheduleManifest workstream).mapError fun failed => s!"planning manifest: {failed}"
  let refs ← planningRefsFromState workstream rows
  return Planning.nextPlanningWave frame.package manifest refs manifest.planningWaveCap

def planningBlockedOrSummary (frame : FrameHost) (workstream : String) (rows : Rows) : TaskReply :=
  match nextPlanningOutcome frame workstream rows with
  | .ok (.blocked wave) => .planning (.blocked wave)
  | .ok (.waitingOnInFlight waveId active) => .planning (.waitingOnInFlight waveId active)
  | .ok _ => .summary
  | .error failed => .rejected "planning-postprocess" failed

def routeReplayTaskCompleted (frame : FrameHost) (payload : TaskCompletedPayload) (binding : ReplayBinding) (rows : Rows) :
    Rows × TaskReply :=
  let terminated := rows ++ [terminalEvent payload binding]
  if terminalConsumed rows binding.toIssuedRunnerBinding then (rows, .rejected "terminal-binding" "already-consumed")
  else if !terminalStatusAllowed payload.status then (rows, .rejected "terminal-status" payload.status)
  else if payload.status ≠ "completed" then
    if startsWith binding.resultContract "planning." then (terminated, planningBlockedOrSummary frame binding.workstream terminated)
    else (terminated, .summary)
  else
    match frame.carrier binding with
    | .error (boundary, detail) => (rows, .rejected boundary detail)
    | .ok admitted => (terminated ++ admitted, .summary)

variable [ReceiptJson]

def routeTaskCompleted (host : ReceiptHost) (frame : FrameHost) (payload : TaskCompletedPayload) (rows : Rows) : Rows × TaskReply :=
  match versionedBindingFor rows payload.actionId payload.assignmentId with
  | .error failed => (rows, .rejected "terminal-binding" failed)
  | .ok (.receiptV1 binding) =>
    let (after, reply) := routeReceiptV1TaskCompleted host frame.posture frame.files binding.toReceiptBinding payload.status rows
    (after, taskReplyOf reply)
  | .ok (.replayV0 _) =>
    match bindingFor rows payload.actionId payload.assignmentId with
    | .error failed => (rows, .rejected "terminal-binding" failed)
    | .ok binding => routeReplayTaskCompleted frame payload binding rows

end Frame

end PiAutopilot.Receipts
