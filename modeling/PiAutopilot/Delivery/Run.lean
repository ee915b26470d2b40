import PiAutopilot.Delivery.Selection

set_option autoImplicit false

/-! # Runs of a delivery

A run dispatches lanes, children submit deliveries and validations, and the completion of a child
appends the row that its receipt has sealed.  The references of each row are the source's own. -/

namespace PiAutopilot.Delivery

open EventLog Lib

structure ReceiptTexts where
  receiptId : String
  transitionRef : String
  carrierRef : String
  eventRef : String
  artifactRefs : List String
  actionRef : String

structure DeliveryReport where
  executionAuditRef : String
  policyDenials : Nat
  transcriptPath : String

inductive DeliveryOutcome where
  | accepted (packageCommit packageTree : String) (validator : IssuedRunnerBinding)
  | recovery (admission snapshot : String) (reconciles : Bool) (engineer : IssuedRunnerBinding)
  | inadmissible (reason failure : String)

def DeliveryOutcome.eventKind : DeliveryOutcome → String
  | .accepted _ _ _ => "agent:delivery-accepted"
  | .recovery _ _ _ _ => "delivery:recovery-required"
  | .inadmissible _ _ => "recovery:inadmissible"

def DeliveryOutcome.issued : DeliveryOutcome → List IssuedRunnerBinding
  | .accepted _ _ validator => [validator]
  | .recovery _ _ _ engineer => [engineer]
  | .inadmissible _ _ => []

def DeliveryOutcome.refs (lane : Id) (binding : IssuedRunnerBinding) : DeliveryOutcome → List Ref
  | .accepted packageCommit packageTree validator =>
    [⟨packageCommit⟩, ⟨packageTree⟩, ⟨"validation:required"⟩, ⟨"validator-assignment:" ++ validator.assignmentId⟩]
  | .recovery admission snapshot reconciles _ =>
    [⟨"agent:delivery-blocked"⟩, ⟨"recovery-admission:" ++ binding.assignmentId ++ ":" ++ admission⟩,
      ⟨"recovery-assessment:" ++ binding.assignmentId ++ ":" ++ snapshot⟩] ++
    (if reconciles then [⟨"delivery-policy-denial-reconciliation"⟩] else []) ++
    [⟨"recovery-pending:" ++ binding.assignmentId⟩, ⟨"delivery:recovery-required"⟩]
  | .inadmissible reason failure => [⟨"agent:delivery-blocked"⟩, ⟨reason⟩, ⟨failure⟩, blockerRef lane]

structure ValidationReport where
  oldTip : String
  newTip : String
  tree : String
  staleCount : Nat
  repairRoute : String
  exactCommit : String
  exactTree : String
  submissionDigest : String
  auditDigest : String
  evidenceRefs : List String
  transcriptPath : String

inductive ValidationOutcome where
  | forward (next : Option IssuedRunnerBinding)
  | recovery (producer blockers : String) (engineer : IssuedRunnerBinding)
  | exhausted (producer blockers : String)
  | inadmissible (producer blockers : String)

def ValidationOutcome.eventKind : ValidationOutcome → String
  | .forward _ => "integration:forward-integrated"
  | .recovery _ _ _ => "validation:recovery-required"
  | .exhausted _ _ => "recovery:exhausted"
  | .inadmissible _ _ => "recovery:inadmissible"

def ValidationOutcome.issued : ValidationOutcome → List IssuedRunnerBinding
  | .forward next => next.toList
  | .recovery _ _ engineer => [engineer]
  | .exhausted _ _ => []
  | .inadmissible _ _ => []

def appendUniqueRefs (refs values : List Ref) : List Ref :=
  values.foldl (fun refs reference => if reference ∈ refs then refs else refs ++ [reference]) refs

def satisfiedForwardGateRefs (units : List ApprovedUnit) (laneId : Id) : Except String (List Ref) :=
  match units.zipIdx.find? fun entry => approvedLaneId entry.2 == laneId with
  | none => .error s!"forward-gate:unknown-lane:{laneId}"
  | some entry =>
    let criterion := "unit-complete:" ++ entry.1.id
    .ok (if units.any fun other => criterion ∈ other.predecessorForwardCriteria then [gateRef criterion] else [])

def integrationRefs (binding : IssuedRunnerBinding) (lane : Id) (report : ValidationReport) (gates : List Ref) : List Ref :=
  [⟨"module-wired:integration"⟩, ⟨"module-wired:staleness"⟩, ⟨"module-wired:closure"⟩, ⟨"module-wired:repair"⟩,
    ⟨binding.assignmentId⟩, ⟨report.oldTip⟩, ⟨report.newTip⟩, ⟨report.tree⟩,
    ⟨"stale:" ++ toString report.staleCount⟩, ⟨"repair-route:" ++ report.repairRoute⟩, unitClosedRef lane] ++ gates

def nextRefs : Option IssuedRunnerBinding → List Ref
  | none => []
  | some next => [⟨"delivery:next-required"⟩, ⟨next.assignmentId⟩, ⟨next.actionId⟩]

def ValidationOutcome.refs (binding : IssuedRunnerBinding) (lane : Id) (report : ValidationReport) (gates : List Ref) :
    ValidationOutcome → List Ref
  | .forward next =>
    appendUniqueRefs (integrationRefs binding lane report gates ++ nextRefs next)
      ([⟨report.exactCommit⟩, ⟨report.exactTree⟩, ⟨"submission-digest:" ++ report.submissionDigest⟩,
        ⟨"audit-digest:" ++ report.auditDigest⟩] ++ report.evidenceRefs.map Ref.mk ++ [⟨report.transcriptPath⟩])
  | .recovery producer blockers engineer =>
    [⟨binding.assignmentId⟩, ⟨producer⟩, ⟨"blockers=" ++ blockers⟩,
      ⟨"recovery-validation-pending:" ++ binding.assignmentId⟩, ⟨"recovery-trigger:" ++ binding.assignmentId⟩,
      ⟨engineer.assignmentId⟩]
  | .exhausted producer blockers =>
    [⟨binding.assignmentId⟩, ⟨producer⟩, ⟨"blockers=" ++ blockers⟩, ⟨"semantic-recovery-exhausted"⟩, blockerRef lane]
  | .inadmissible producer blockers =>
    [⟨binding.assignmentId⟩, ⟨producer⟩, ⟨"blockers=" ++ blockers⟩, ⟨"semantic-recovery-inadmissible"⟩, blockerRef lane]

def validTransition (kindPrefix : String) (refs : List Ref) : Bool :=
  !refs.isEmpty && !refs.any (fun reference => isBlank reference.text || startsWith reference.text kindPrefix) &&
    decide refs.Nodup

def deliveryResultConsumedRef (binding : IssuedRunnerBinding) : Ref :=
  ⟨"delivery-result-consumed:" ++ binding.actionId ++ ":" ++ binding.assignmentId ++ ":" ++ toString binding.runRevision⟩

section Run

variable [BindingJson] (workstream : Id) (units : List ApprovedUnit) (binding : IssuedRunnerBinding)

def receiptConsumptionRefs (texts : ReceiptTexts) (result : List Ref)
    (kindRef : String) (transition : List Ref) (issued : List IssuedRunnerBinding) : List Ref :=
  [⟨"submit-receipt-consumed:" ++ texts.receiptId⟩, terminalConsumedRef binding] ++ result ++
    [⟨texts.transitionRef⟩, ⟨texts.carrierRef⟩, ⟨"submit-receipt-event:" ++ texts.eventRef⟩, bindingRef binding,
      ⟨kindRef⟩] ++ transition ++ texts.artifactRefs.map Ref.mk ++
    issued.flatMap fun next => [⟨texts.actionRef⟩, bindingRef next]

def deliveryTransitionRefs (lane : Id) (report : DeliveryReport) (outcome : DeliveryOutcome) : List Ref :=
  [⟨binding.assignmentId⟩, ⟨binding.actionId⟩, ⟨report.executionAuditRef⟩,
    ⟨"policy-denials:" ++ toString report.policyDenials⟩, ⟨report.transcriptPath⟩] ++ outcome.refs lane binding

def deliveryConsumptionRefs (lane : Id) (texts : ReceiptTexts) (report : DeliveryReport) (outcome : DeliveryOutcome) : List Ref :=
  receiptConsumptionRefs binding texts [deliveryResultConsumedRef binding]
    ("delivery-transition-kind:" ++ outcome.eventKind) (deliveryTransitionRefs binding lane report outcome) outcome.issued

def validationConsumptionRefs (lane : Id) (texts : ReceiptTexts)
    (report : ValidationReport) (gates : List Ref) (outcome : ValidationOutcome) : List Ref :=
  receiptConsumptionRefs binding texts [] ("validation-transition-kind:" ++ outcome.eventKind)
    (outcome.refs binding lane report gates) outcome.issued

def spawnRow (mode boundary : String) : Row where
  kind := ⟨"agent:spawn"⟩
  refs :=
    [⟨binding.workstream⟩, ⟨binding.assignmentId⟩, ⟨binding.actionId⟩, ⟨binding.roleId⟩, ⟨mode⟩, ⟨boundary⟩,
      ⟨"action-assignment:" ++ binding.actionId ++ ":" ++ binding.assignmentId ++ ":" ++ toString binding.runRevision⟩,
      bindingRef binding] ++ (binding.laneId.map fun lane => (⟨"lane:" ++ lane⟩ : Ref)).toList

structure Receipt where
  binding : IssuedRunnerBinding
  refs : List Ref

structure RunState where
  rows : Rows
  receipts : List Receipt

def RunState.start : RunState where
  rows := []
  receipts := []

inductive Action where
  | dispatch (host : HostFacts) (mode boundary : String) (binding : IssuedRunnerBinding)
  | submitDelivery (binding : IssuedRunnerBinding) (texts : ReceiptTexts) (report : DeliveryReport)
      (outcome : DeliveryOutcome)
  | submitValidation (binding : IssuedRunnerBinding) (texts : ReceiptTexts) (report : ValidationReport)
      (host : HostFacts) (outcome : ValidationOutcome)
  | complete (binding : IssuedRunnerBinding)
  | append (row : Row)

def projectedRows (rows : Rows) (binding : IssuedRunnerBinding) (lane : Id) (report : ValidationReport) (gates : List Ref) : Rows :=
  rows ++ [⟨⟨"submit:receipt-projected"⟩, [terminalConsumedRef binding]⟩,
    ⟨⟨"integration:forward-integrated"⟩, integrationRefs binding lane report gates⟩]

def dispatches (rows : Rows) (host : HostFacts) (binding : IssuedRunnerBinding) : Bool :=
  match selectedLanes workstream units rows host with
  | .ok (lane :: _) => binding.laneId == some lane && binding.roleId == "implementer" && binding.workstream == workstream
  | _ => false

def continues (binding next : IssuedRunnerBinding) (roleId : String) : Bool :=
  next.roleId == roleId && next.laneId == binding.laneId && next.workstream == workstream

def DeliveryOutcome.issues : DeliveryOutcome → Bool
  | .accepted _ _ validator => continues workstream binding validator "validator"
  | .recovery _ _ _ engineer => binding.roleId == "implementer" && continues workstream binding engineer "recovery-engineer"
  | .inadmissible _ _ => true

-- A forward verdict issues nothing when the run is complete or no lane can be dispatched.
def ValidationOutcome.issues (rows : Rows) (host : HostFacts) (binding : IssuedRunnerBinding) (lane : Id)
    (report : ValidationReport) (gates : List Ref) : ValidationOutcome → Bool
  | .forward none => true
  | .forward (some next) => dispatches workstream units (projectedRows rows binding lane report gates) host next
  | .recovery _ _ engineer => continues workstream binding engineer "recovery-engineer"
  | .exhausted _ _ => true
  | .inadmissible _ _ => true

def RunState.running (state : RunState) (binding : IssuedRunnerBinding) : Bool :=
  decide (bindingRef binding ∈ carried state.rows) && !terminalConsumed state.rows binding &&
    !state.receipts.any fun receipt => receipt.binding == binding

def step (state : RunState) : Action → Option RunState
  | .dispatch host mode boundary binding =>
    if dispatches workstream units state.rows host binding then
      some { state with rows := state.rows ++ [spawnRow binding mode boundary] }
    else none
  | .submitDelivery binding texts report outcome => do
    let lane ← binding.laneId
    if state.running binding && isDeliveryRole binding.roleId && outcome.issues workstream binding &&
        validTransition "delivery-transition-kind:" (deliveryTransitionRefs binding lane report outcome) then
      return { state with
        receipts := state.receipts ++ [⟨binding, deliveryConsumptionRefs binding lane texts report outcome⟩] }
    else none
  | .submitValidation binding texts report host outcome => do
    let lane ← binding.laneId
    let gates ← (satisfiedForwardGateRefs units lane).toOption
    if state.running binding && binding.roleId == "validator" &&
        outcome.issues workstream units state.rows host binding lane report gates &&
        validTransition "validation-transition-kind:" (outcome.refs binding lane report gates) then
      return { state with
        receipts := state.receipts ++ [⟨binding, validationConsumptionRefs binding lane texts report gates outcome⟩] }
    else none
  | .complete binding => do
    let receipt ← state.receipts.find? fun receipt => receipt.binding == binding
    return {
      rows := state.rows ++ [⟨⟨"submit:receipt-consumed"⟩, receipt.refs⟩]
      receipts := state.receipts.filter fun other => other.binding != binding }
  | .append row => some { state with rows := state.rows ++ [row] }

theorem step_cases {state after : RunState} {action : Action} (stepped : step workstream units state action = some after) :
    (∃ host mode boundary binding, action = .dispatch host mode boundary binding ∧
        dispatches workstream units state.rows host binding = true ∧
        after = { state with rows := state.rows ++ [spawnRow binding mode boundary] }) ∨
    (∃ binding texts report outcome lane, action = .submitDelivery binding texts report outcome ∧
        binding.laneId = some lane ∧ state.running binding = true ∧ isDeliveryRole binding.roleId = true ∧
        outcome.issues workstream binding = true ∧
        after = { state with
          receipts := state.receipts ++ [⟨binding, deliveryConsumptionRefs binding lane texts report outcome⟩] }) ∨
    (∃ binding texts report host outcome lane gates, action = .submitValidation binding texts report host outcome ∧
        binding.laneId = some lane ∧ satisfiedForwardGateRefs units lane = .ok gates ∧ state.running binding = true ∧
        binding.roleId = "validator" ∧ outcome.issues workstream units state.rows host binding lane report gates = true ∧
        after = { state with
          receipts := state.receipts ++ [⟨binding, validationConsumptionRefs binding lane texts report gates outcome⟩] }) ∨
    (∃ binding receipt, action = .complete binding ∧ receipt ∈ state.receipts ∧
        after = ⟨state.rows ++ [⟨⟨"submit:receipt-consumed"⟩, receipt.refs⟩],
          state.receipts.filter fun other => other.binding != binding⟩) ∨
    ∃ row, action = .append row ∧ after = { state with rows := state.rows ++ [row] } := by
  cases action with
  | dispatch host mode boundary binding =>
    rw [step] at stepped
    split at stepped
    · rename_i dispatched
      cases stepped
      exact Or.inl ⟨host, mode, boundary, binding, rfl, dispatched, rfl⟩
    · cases stepped
  | submitDelivery binding texts report outcome =>
    obtain ⟨lane, laneId, stepped⟩ := Option.bind_eq_some_iff.mp stepped
    split at stepped
    · rename_i guarded
      cases stepped
      simp only [Bool.and_eq_true] at guarded
      exact Or.inr (Or.inl ⟨binding, texts, report, outcome, lane, rfl, laneId, guarded.1.1.1, guarded.1.1.2, guarded.1.2, rfl⟩)
    · cases stepped
  | submitValidation binding texts report host outcome =>
    obtain ⟨lane, laneId, stepped⟩ := Option.bind_eq_some_iff.mp stepped
    obtain ⟨gates, satisfied, stepped⟩ := Option.bind_eq_some_iff.mp stepped
    have satisfiedOk : satisfiedForwardGateRefs units lane = .ok gates := by
      cases attempt : satisfiedForwardGateRefs units lane with
      | error error => simp [attempt, Except.toOption] at satisfied
      | ok found => simpa [attempt, Except.toOption] using satisfied
    split at stepped
    · rename_i guarded
      cases stepped
      simp only [Bool.and_eq_true, beq_iff_eq] at guarded
      exact Or.inr (Or.inr (Or.inl ⟨binding, texts, report, host, outcome, lane, gates, rfl, laneId, satisfiedOk,
        guarded.1.1.1, guarded.1.1.2, guarded.1.2, rfl⟩))
    · cases stepped
  | complete binding =>
    obtain ⟨receipt, found, stepped⟩ := Option.bind_eq_some_iff.mp stepped
    cases stepped
    exact Or.inr (Or.inr (Or.inr (Or.inl ⟨binding, receipt, rfl, List.mem_of_find?_eq_some found, rfl⟩)))
  | append row =>
    cases stepped
    exact Or.inr (Or.inr (Or.inr (Or.inr ⟨row, rfl, rfl⟩)))

inductive Reached (allowed : RunState → Action → Prop) : RunState → Prop where
  | start : Reached allowed .start
  | step (state after : RunState) (action : Action) (reached : Reached allowed state) (permitted : allowed state action)
      (stepped : step workstream units state action = some after) : Reached allowed after

variable (actions : List Action)

def run : Option RunState := actions.foldlM (step workstream units) .start

theorem run_reached (state : RunState) (ran : run workstream units actions = some state) :
    Reached workstream units (fun _ _ => True) state := by
  induction actions using List.reverseRecOn generalizing state with
  | nil =>
    cases ran
    exact .start
  | append_singleton actions action ih =>
    rw [run, List.foldlM_append] at ran
    obtain ⟨before, earlier, stepped⟩ := Option.bind_eq_some_iff.mp ran
    obtain ⟨after, stepped, returned⟩ := Option.bind_eq_some_iff.mp stepped
    cases returned
    exact .step before state action (ih before earlier) trivial stepped

def ranTo : RunState := (run workstream units actions).getD .start

theorem ran_to_reached : Reached workstream units (fun _ _ => True) (ranTo workstream units actions) := by
  rw [ranTo]
  cases ran : run workstream units actions with
  | none => exact .start
  | some state => exact run_reached workstream units actions state ran

end Run

end PiAutopilot.Delivery
