import PiAutopilot.Authority.Stimulus

set_option autoImplicit false

namespace PiAutopilot.Authority

open Protocol

abbrev AdmissionResult := Except Feedback (List DomainFact)

-- The identifiers that admission builds are an ASCII label followed by identifier units, so the decoder accepts them.
def labelled (label : String) (text : JsString) (filled : js label ++ text ≠ []) (prefixed : IdentifierUnits (js label))
    (units : IdentifierUnits text) : Identifier :=
  identifierOf (js label ++ text) filled (identifier_units_append prefixed units)

def correctionWorkId (actionId : ActionId) : WorkItemId :=
  labelled "work:correction:" actionId.suffix (by simp [js]) rfl (hex_text_units)

def correctionAssignmentId (actionId : ActionId) : CorrectionAssignmentId :=
  labelled "assignment:" actionId.suffix (by simp [js]) rfl (hex_text_units)

def conflictFindingId (observationDigest : Digest) : FindingId :=
  labelled "finding:conflict:" (observationDigest.hex.map fun digit => hexUnit digit.val) (by simp [js]) rfl
    (hex_text_units)

def movedHeadFindingId (observationDigest : Digest) : FindingId :=
  labelled "finding:moved-head:" (observationDigest.hex.map fun digit => hexUnit digit.val) (by simp [js]) rfl
    (hex_text_units)

def gitConflictRule : RuleId := identifierOf (js "rule:git-conflict") (by simp [js]) rfl

def movedHeadRule : RuleId := identifierOf (js "rule:moved-head") (by simp [js]) rfl

def requestFact : RequestPayload → FactBody
  | .bindRequirements atomIndexRoot declaredAtomCount requirementsRoot sourceRoot taskRoot =>
    .requirementsBound ⟨atomIndexRoot, declaredAtomCount, requirementsRoot, sourceRoot, taskRoot⟩
  | .declareAtom atom => .atomDeclared atom
  | .sealAtomInventory atomCount atomIndexRoot inventoryEvidence =>
    .atomInventorySealed ⟨atomCount, atomIndexRoot, inventoryEvidence⟩
  | .declareWork workItem => .workDeclared workItem
  | .declareDependency dependency dependent planRootId => .dependencyDeclared ⟨dependency, dependent, planRootId⟩
  | .intendPublication candidateId desiredHead expected publicationId _ publicationRef repository =>
    .publicationIntended ⟨candidateId, desiredHead, expected, publicationId, publicationRef, repository⟩

def requestFacts (stimulus : BoundaryRequestReceived) : AdmissionResult :=
  .ok [⟨stimulus.runId, requestFact stimulus.requestPayload⟩]

def CandidatePayload.accepted (payload : CandidatePayload) (planRootId : PlanRootId) : CandidateAccepted where
  candidateId := payload.candidateId
  gitRevision := payload.gitRevision
  gitTree := payload.gitTree
  gitTreeCasAttestation := payload.gitTreeCasAttestation
  manifest := payload.manifest
  planRootId := planRootId
  reviewedDiff := payload.reviewedDiff
  tree := payload.tree

def attestationBinds (attestation : GitTreeCasAttestation) (gitTree : GitTreeId) (tree : ArtifactRoot) : Bool :=
  attestation.gitTree = gitTree && attestation.artifactRoot = tree

section Admission

variable [Hashing] (state : RunState)

def universalRejection (runId : RunId) (actionId : ActionId) (pages : List IndexPage) : Except Feedback Unit :=
  if runId ≠ state.identity.runId then
    semanticFeedback .runMismatch "$.runId" (js "stimulus does not name the authoritative run")
  else if state.terminal.isSome then
    semanticFeedback .runAlreadyTerminal "$.actionId" (js "no semantic action is admissible after T1/T2")
  else
    match lookupIndex (state.indexes .actions) (indexKey .actions actionId.text) pages with
    | .unproven diagnostic => semanticFeedback .pageUnproven "$.pages" diagnostic
    | .proved (some _) _ =>
      semanticFeedback .actionAlreadyCommitted "$.actionId" (js "return the durable original result for this action identity")
    | .proved none _ => .ok ()

def admitBoundaryRequest (stimulus : BoundaryRequestReceived) : AdmissionResult := do
  universalRejection state stimulus.runId stimulus.actionId stimulus.pages
  requestFacts stimulus

def workValue (stimulus : SubmissionReady) : Except Feedback WorkIndexValue :=
  match lookupIndex (state.indexes .work) (indexKey .work stimulus.workItemId.text) stimulus.pages with
  | .unproven diagnostic => semanticFeedback .pageUnproven "$.pages" diagnostic
  | .proved (some (.work work)) _ =>
    if work.workItem.planRootId ≠ stimulus.planRootId then
      semanticFeedback .supersededPlanRoot "$.planRootId" (js "submission does not bind its issued plan root")
    else if work.workItem.inputRoot ≠ stimulus.inputRoot then
      semanticFeedback .staleInputRoot "$.inputRoot" (js "submission input does not equal the immutable issued input")
    else if work.acceptedOutput.isSome then
      semanticFeedback .workItemNotAccepting "$.workItemId" (js "work item already has an accepted output")
    else .ok work
  | .proved _ _ => semanticFeedback .workItemNotAccepting "$.workItemId" (js "work item is not declared")

-- Who corrects a blocking finding, and how far the correction reaches.
def correctionOwner (plan : CurrentPlanState) (finding : BlockingFinding) : CorrectionScope × WorkItemId :=
  match finding.subjectWorkItemId with
  | some owner => (.local, owner)
  | none =>
    if finding.subjectRoot = plan.planRoot then (.planWide, plan.planAuthorWorkItemId)
    else (.crossLane, plan.integrationOwnerWorkItemId)

def correctionWork (plan : CurrentPlanState) (actionId : ActionId) (finding : BlockingFinding)
    (scope : CorrectionScope) (ownerId : WorkItemId) (owner : WorkItem) : CorrectArtifactWork :=
  let integratedInput := (state.currentCandidate.map CurrentCandidateState.tree).getD finding.subjectRoot
  { dependencyCount := .ofNat 0
    dependencyRoot := (state.indexes .dependencies).root
    inputRoot := integratedInput
    planRootId := plan.planRootId
    prompt := finding.report
    roleId := owner.roleId
    ruleInputs := finding.report
    runId := state.identity.runId
    taskRoot := state.identity.taskSnapshot
    topologicalRank := incrementDecimalNatural owner.topologicalRank
    workItemId := correctionWorkId actionId
    workspaceCapability := owner.workspaceCapability
    workspaceId := owner.workspaceId
    fields :=
      { assignmentId := correctionAssignmentId actionId
        findingId := finding.findingId
        integratedInput := integratedInput
        originalOwnerWorkItemId := ownerId
        priorOutputRoot := finding.subjectRoot
        scope := scope
        subjectRoot := finding.subjectRoot } }

def blockingCorrection (actionId : ActionId) (pages : List IndexPage) (finding : Finding)
    (blocking : BlockingFinding) : Except Feedback DomainFact :=
  match state.currentPlan with
  | none => semanticFeedback .correctorUnavailable "$.finding" (js "blocking finding has no current plan authority")
  | some plan =>
    let (scope, ownerId) := correctionOwner plan blocking
    match lookupIndex (state.indexes .work) (indexKey .work ownerId.text) pages with
    | .unproven diagnostic => semanticFeedback .pageUnproven "$.pages" diagnostic
    | .proved (some (.work owner)) _ =>
      let work := correctionWork state plan actionId blocking scope ownerId owner.workItem
      .ok ⟨state.identity.runId, .findingAccepted (.blockingWithCorrection
        ⟨correctionAssignmentId actionId, work.workItemId, ownerId, scope, work⟩ finding)⟩
    | .proved _ _ =>
      semanticFeedback .correctorUnavailable "$.finding" (js "authority-derived corrector is not current declared work")

def correctionFact (actionId : ActionId) (pages : List IndexPage) (finding : Finding) : Except Feedback DomainFact :=
  match finding with
  | .planningGap _ =>
    if state.phase ≠ .planning then
      semanticFeedback .findingInvalid "$.finding.kind"
        (js "planning gaps are terminal planning-phase rulings and cannot poison execution")
    else .ok ⟨state.identity.runId, .findingAccepted (.nonblocking finding)⟩
  | .advisory _ => .ok ⟨state.identity.runId, .findingAccepted (.nonblocking finding)⟩
  | .integrity blocking => blockingCorrection state actionId pages finding blocking
  | .definitionOfDone blocking => blockingCorrection state actionId pages finding blocking

def submissionFact (stimulus : SubmissionReady) : Except Feedback DomainFact :=
  match stimulus.submissionPayload with
  | .acceptPlan payload =>
    .ok ⟨stimulus.runId, .planRootAccepted ⟨payload.coverageRoot, payload.integrationOwnerWorkItemId,
      payload.planAuthorWorkItemId, payload.planRoot, stimulus.planRootId, payload.reviewedPlan⟩⟩
  | .dispositionAtom disposition => .ok ⟨stimulus.runId, .atomDispositioned disposition⟩
  | .acceptWorkOutput accountedDiff evidence submissionId =>
    .ok ⟨stimulus.runId, .workOutputAccepted ⟨accountedDiff, evidence, stimulus.inputRoot, stimulus.outputRoot,
      stimulus.planRootId, submissionId, stimulus.workItemId⟩⟩
  | .acceptFinding finding => correctionFact state stimulus.actionId stimulus.pages finding
  | .clearFinding payload => .ok ⟨stimulus.runId, .findingCleared payload⟩
  | .acceptEvidence _ =>
    semanticFeedback .evidenceInvalid "$.submissionPayload"
      (js "semantic evidence must arrive through settlement of its issued dispatcher command")
  | .acceptCandidate payload =>
    if !attestationBinds payload.gitTreeCasAttestation payload.gitTree payload.tree then
      semanticFeedback .invalidDomainTransition "$.submissionPayload.gitTreeCasAttestation"
        (js "candidate Git/CAS attestation must bind the exact separate Git tree and CAS root")
    else .ok ⟨stimulus.runId, .candidateAccepted (payload.accepted stimulus.planRootId)⟩
  | .recordFinalAttestations payload => .ok ⟨stimulus.runId, .finalAttestationsRecorded payload⟩

def submissionFacts (stimulus : SubmissionReady) : AdmissionResult := do
  let _ ← workValue state stimulus
  let fact ← submissionFact state stimulus
  pure [fact]

def admitSubmissionReady (stimulus : SubmissionReady) : AdmissionResult := do
  universalRejection state stimulus.runId stimulus.actionId stimulus.pages
  submissionFacts state stimulus

variable (stimulus : CommandObservationReceived)

def issuedObservationCommand : Except Feedback Command :=
  match lookupIndex (state.indexes .commands) (indexKey .commands stimulus.commandId.text) stimulus.pages with
  | .unproven diagnostic => semanticFeedback .pageUnproven "$.pages" diagnostic
  | .proved (some (.command entry)) _ =>
    if entry.status ≠ .issued then
      semanticFeedback .commandNotIssued "$.commandId" (js "observation must name one proved issued command")
    else if entry.command.actionId ≠ stimulus.actionId ∨ entry.command.commandId ≠ stimulus.commandId ∨
        entry.command.commandId ≠ commandIdentity entry.command.body.kind entry.command.actionId then
      semanticFeedback .commandNotIssued "$.actionId"
        (js "observation action and command identities must equal the issued command")
    else .ok entry.command
  | .proved _ _ => semanticFeedback .commandNotIssued "$.commandId" (js "observation must name one proved issued command")

def subscriptionRoutesEqual (left right : SubscriptionRoute) : Bool :=
  let attestationsEqual :=
    match left.toolBundleAttestation, right.toolBundleAttestation with
    | none, none => true
    | some left, some right => artifactRefsEqual left right
    | _, _ => false
  left.catalogDigest = right.catalogDigest && left.model = right.model && left.piVersion = right.piVersion &&
    left.policyDigest = right.policyDigest && left.provider = right.provider &&
    left.routeCapability = right.routeCapability && left.thinking = right.thinking && attestationsEqual

def evidencePayloadMatches (command : Command) (fields : ExecuteEvidence) (evidence : EvidenceFact) : Bool :=
  let envelope := evidence.envelope
  evidence.envelopeDigest = evidenceEnvelopeDigest envelope &&
    envelope.actionId = command.actionId &&
    envelope.attemptId = fields.attemptId &&
    envelope.acceptedOutput = fields.candidateTree &&
    envelope.evidenceClass = fields.evidenceClass &&
    artifactRefsEqual envelope.command fields.commandSpec &&
    envelope.cwd = fields.cwd &&
    artifactRefsEqual envelope.environment fields.environment &&
    envelope.kindId = fields.kindId &&
    envelope.obligationId.text = js "evidence-obligation:" ++ command.commandId.text &&
    envelope.ruleId = fields.ruleId &&
    envelope.runId = command.runId &&
    envelope.tree = fields.candidateTree &&
    envelope.workItemId = fields.workItemId

def validationFindingMatches (command : Command) (fields : ExecuteValidationRule) : Finding → Bool
  | .planningGap _ => false
  | .advisory finding =>
    finding.runId = command.runId && finding.subjectRoot = fields.candidateTree && finding.raisedByWorkItemId = fields.workItemId
  | .integrity finding | .definitionOfDone finding =>
    finding.runId = command.runId && finding.subjectRoot = fields.candidateTree &&
      finding.observedByWorkItemId = fields.workItemId

def publicationPayloadMatches (fields : PublishCompareAndSwap) (payload : PublicationObserved) : Bool :=
  payload.publicationId = fields.publicationId &&
    payload.gitTree = fields.candidateTree &&
    payload.tree = fields.verifiedAttestation.artifactRoot &&
    payload.publicationTreeAttestation.gitTree = fields.verifiedAttestation.gitTree &&
    payload.publicationTreeAttestation.artifactRoot = fields.verifiedAttestation.artifactRoot &&
    artifactRefsEqual payload.publicationTreeAttestation.attestation fields.verifiedAttestation.attestation

-- A retry payload matches no command.
def commandPayloadMatches (command : Command) (payload : CommandObservationPayload) : Bool :=
  match command.body, payload with
  | .prepareWorkspace fields, .workspaceReserved leaseId workspaceCapability workspaceId =>
    leaseId = fields.leaseId && workspaceCapability = fields.workspaceCapability && workspaceId = fields.workspaceId
  | .applyWorkspaceIsolation _, .commandObserved => true
  | .materializeWorkspace fields, .workspaceMaterialized gitTree workspaceCapability workspaceId =>
    gitTree = fields.baseTree && workspaceCapability = fields.workspaceCapability && workspaceId = fields.workspaceId
  | .verifyChildRoute fields, .routeVerified route => subscriptionRoutesEqual route.route fields.route
  | .launchChild fields, .childObserved childEpoch _ _ session =>
    childEpoch = fields.childEpoch && session.process.captureId = fields.captureId &&
      session.process.workspaceId = fields.workspaceId
  | .inspectChild fields, .childObserved childEpoch childId _ _ => childEpoch = fields.childEpoch && childId = fields.childId
  | .executeEvidence fields, .evidenceObserved evidence => evidencePayloadMatches command fields evidence
  | .executeValidationRule _, .commandObserved => true
  | .executeValidationRule fields, .validationFinding finding => validationFindingMatches command fields finding
  | .buildIntegratedCandidate fields, .candidateIntegrated payload planRootId =>
    payload.candidateId = fields.candidateId && planRootId = fields.planRootId &&
      payload.gitRevision = fields.candidateCommit && payload.gitTree = fields.candidateTree
  | .buildIntegratedCandidate fields, .integrationConflict _ integrationOwnerWorkItemId planRootId subjectRoot =>
    integrationOwnerWorkItemId = fields.workItemId && planRootId = fields.planRootId && subjectRoot = fields.candidateRoot
  | .publishCompareAndSwap fields, .publicationObserved payload => publicationPayloadMatches fields payload
  | .observeClock _, .clockObserved _ => true
  | .installArtifact fields, .artifactInstalled artifact => artifactRefsEqual artifact fields.artifact
  | _, _ => false

def conflictFinding (conflict : ArtifactRef) (integrationOwnerWorkItemId : WorkItemId) (subjectRoot : ArtifactRoot) : Finding :=
  .integrity
    { evidence := ⟨stimulus.observation, []⟩
      findingId := conflictFindingId stimulus.observationDigest
      observedByWorkItemId := integrationOwnerWorkItemId
      report := conflict
      ruleId := gitConflictRule
      runId := stimulus.runId
      subjectRoot := subjectRoot
      subjectWorkItemId := none }

def movedHeadFinding (plan : CurrentPlanState) (candidate : CurrentCandidateState) : Finding :=
  .definitionOfDone
    { evidence := ⟨stimulus.observation, []⟩
      findingId := movedHeadFindingId stimulus.observationDigest
      observedByWorkItemId := plan.integrationOwnerWorkItemId
      report := stimulus.observation
      ruleId := movedHeadRule
      runId := stimulus.runId
      subjectRoot := candidate.tree
      subjectWorkItemId := none }

def publicationFacts (payload : PublicationObserved) : AdmissionResult :=
  if !attestationBinds payload.publicationTreeAttestation payload.gitTree payload.tree then
    semanticFeedback .invalidDomainTransition "$.observationPayload.publicationTreeAttestation"
      (js "publication attestation must bind the exact published Git tree and CAS root")
  else
    let publication : DomainFact := ⟨stimulus.runId, .publicationObserved payload⟩
    match payload.status with
    | .desiredHead => .ok [publication]
    | .headMoved =>
      match state.currentPlan, state.currentCandidate with
      | some plan, some candidate => do
        let correction ← correctionFact state stimulus.actionId stimulus.pages (movedHeadFinding stimulus plan candidate)
        pure [publication, correction]
      | _, _ =>
        semanticFeedback .correctorUnavailable "$.observationPayload" (js "moved head has no current integration authority")

def observationFacts : AdmissionResult :=
  match stimulus.observationPayload with
  | .routeVerified route =>
    .ok [⟨stimulus.runId, .routeVerificationObserved ⟨route, route.observationId, stimulus.observation⟩⟩]
  | .evidenceObserved evidence => .ok [⟨stimulus.runId, .evidenceObserved evidence⟩]
  | .validationFinding finding => do
    let correction ← correctionFact state stimulus.actionId stimulus.pages finding
    pure [correction]
  | .candidateIntegrated payload planRootId =>
    if !attestationBinds payload.gitTreeCasAttestation payload.gitTree payload.tree then
      semanticFeedback .invalidDomainTransition "$.observationPayload.gitTreeCasAttestation"
        (js "integrated candidate attestation must bind the exact Git tree and CAS root")
    else .ok [⟨stimulus.runId, .candidateAccepted (payload.accepted planRootId)⟩]
  | .integrationConflict conflict integrationOwnerWorkItemId _ subjectRoot => do
    let correction ← correctionFact state stimulus.actionId stimulus.pages
      (conflictFinding stimulus conflict integrationOwnerWorkItemId subjectRoot)
    pure [correction]
  | .publicationObserved payload => publicationFacts state stimulus payload
  | _ => .ok []

def admitCommandObservation : AdmissionResult := do
  universalRejection state stimulus.runId stimulus.actionId stimulus.pages
  let command ← issuedObservationCommand state stimulus
  if commandPayloadMatches command stimulus.observationPayload then observationFacts state stimulus
  else
    semanticFeedback .invalidStimulus "$.observationPayload" (js "observation payload does not match the exact issued command")

def admitRunReplayCompleted (stimulus : RunReplayCompleted) : AdmissionResult := do
  universalRejection state stimulus.runId stimulus.actionId stimulus.pages
  if stimulus.lastSequence = state.lastSequence ∧ stimulus.stateDigest = stateDigest state then .ok []
  else semanticFeedback .replayMismatch "$.stateDigest" (js "replay sequence and digest must equal authoritative state")

def admitOperatorSuspend (stimulus : OperatorSuspendRequested) : AdmissionResult := do
  universalRejection state stimulus.runId stimulus.actionId stimulus.pages
  match state.suspension with
  | .active => .ok []
  | .suspended _ => semanticFeedback .alreadySuspended "$.operatorRequestId" (js "run is already suspended")

def admitOperatorResume (stimulus : OperatorResumeRequested) : AdmissionResult := do
  universalRejection state stimulus.runId stimulus.actionId stimulus.pages
  match state.suspension with
  | .active => semanticFeedback .notSuspended "$.kind" (js "active run cannot be resumed")
  | .suspended suspension =>
    if stimulus.operatorRequestId = suspension.operatorRequestId ∧ stimulus.resumeFromSequence = suspension.sequence then .ok []
    else
      semanticFeedback .resumeBindingMismatch "$.resumeFromSequence" (js "resume must bind exact suspension request and sequence")

def dispatchAdmission : Stimulus → AdmissionResult
  | .boundaryRequestReceived stimulus => admitBoundaryRequest state stimulus
  | .submissionReady stimulus => admitSubmissionReady state stimulus
  | .commandObservationReceived stimulus => admitCommandObservation state stimulus
  | .runReplayCompleted stimulus => admitRunReplayCompleted state stimulus
  | .operatorSuspendRequested stimulus => admitOperatorSuspend state stimulus
  | .operatorResumeRequested stimulus => admitOperatorResume state stimulus

end Admission

end PiAutopilot.Authority
