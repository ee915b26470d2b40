import PiAutopilot.Authority.Fold

set_option autoImplicit false

namespace PiAutopilot.Authority

open Protocol

inductive RequestPayload where
  | bindRequirements (atomIndexRoot : IndexRoot) (declaredAtomCount : DecimalNatural) (requirementsRoot : ArtifactRoot)
      (sourceRoot : ArtifactRoot) (taskRoot : ArtifactRoot)
  | declareAtom (atom : Atom)
  | sealAtomInventory (atomCount : DecimalNatural) (atomIndexRoot : IndexRoot) (inventoryEvidence : ArtifactRef)
  | declareWork (workItem : WorkItem)
  | declareDependency (dependency dependent : WorkItemId) (planRootId : PlanRootId)
  | intendPublication (candidateId : CandidateId) (desiredHead : GitCommitId) (expected : ExpectedRefState)
      (publicationId : PublicationId) (publicationLease : LeaseId) (publicationRef : GitRef) (repository : RepositoryCapability)

structure AcceptPlan where
  coverageRoot : ArtifactRoot
  integrationOwnerWorkItemId : WorkItemId
  planAuthorWorkItemId : WorkItemId
  planRoot : ArtifactRoot
  reviewedPlan : ArtifactRef

structure CandidatePayload where
  candidateId : CandidateId
  gitRevision : GitCommitId
  gitTree : GitTreeId
  gitTreeCasAttestation : GitTreeCasAttestation
  manifest : ArtifactRef
  reviewedDiff : ArtifactRef
  tree : ArtifactRoot

inductive SubmissionPayload where
  | acceptPlan (payload : AcceptPlan)
  | dispositionAtom (disposition : AtomDisposition)
  | acceptWorkOutput (accountedDiff : ArtifactRef) (evidence : List ArtifactRef) (submissionId : SubmissionId)
  | acceptFinding (finding : Finding)
  | clearFinding (payload : FindingCleared)
  | acceptEvidence (evidence : EvidenceFact)
  | acceptCandidate (payload : CandidatePayload)
  | recordFinalAttestations (payload : FinalAttestationsRecorded)

inductive ProcessLifecycle where
  | running
  | exited (code : KindId)
  | signalled (signal : KindId)
  | absent

structure ProcessObservation where
  captureId : CaptureId
  childEpoch : ChildEpoch
  lifecycle : ProcessLifecycle
  processGroupId : ProcessGroupId
  processId : ProcessId
  stderr : WorkspaceRelativePath
  stderrTruncated : Bool
  stdout : WorkspaceRelativePath
  stdoutTruncated : Bool
  workspaceId : WorkspaceId

structure SessionObservation where
  process : ProcessObservation
  sessionFile : Option WorkspaceRelativePath
  sessionId : KindId
  sessionFiles : List WorkspaceRelativePath

structure Diagnostic where
  code : DiagnosticCode
  message : FormattedText .nonEmpty
  related : List ArtifactRef

inductive CommandObservationPayload where
  | workspaceReserved (leaseId : LeaseId) (workspaceCapability : WorkspaceCapability) (workspaceId : WorkspaceId)
  | workspaceMaterialized (gitTree : GitTreeId) (workspaceCapability : WorkspaceCapability) (workspaceId : WorkspaceId)
  | routeVerified (route : RouteVerification)
  | childObserved (childEpoch : ChildEpoch) (childId : ChildId) (sealedRoot : Option ArtifactRoot) (session : SessionObservation)
  | evidenceObserved (evidence : EvidenceFact)
  | validationFinding (finding : Finding)
  | candidateIntegrated (payload : CandidatePayload) (planRootId : PlanRootId)
  | integrationConflict (conflict : ArtifactRef) (integrationOwnerWorkItemId : WorkItemId) (planRootId : PlanRootId)
      (subjectRoot : ArtifactRoot)
  | publicationObserved (payload : PublicationObserved)
  | clockObserved (tick : DecimalNatural)
  | artifactInstalled (artifact : ArtifactRef)
  | commandObserved
  | commandRetry (diagnostic : Diagnostic)

structure BoundaryRequestReceived where
  actionId : ActionId
  pages : List IndexPage
  request : ArtifactRef
  requestDigest : Digest
  requestPayload : RequestPayload
  runId : RunId

structure SubmissionReady where
  actionId : ActionId
  attemptId : AttemptId
  inputRoot : ArtifactRoot
  outputRoot : ArtifactRoot
  pages : List IndexPage
  planRootId : PlanRootId
  runId : RunId
  submissionPayload : SubmissionPayload
  workItemId : WorkItemId

structure CommandObservationReceived where
  actionId : ActionId
  commandId : CommandId
  observation : ArtifactRef
  observationDigest : Digest
  observationPayload : CommandObservationPayload
  pages : List IndexPage
  runId : RunId

structure RunReplayCompleted where
  actionId : ActionId
  lastSequence : DecimalNatural
  pages : List IndexPage
  runId : RunId
  stateDigest : Digest

structure OperatorSuspendRequested where
  actionId : ActionId
  operatorRequestId : OperatorRequestId
  pages : List IndexPage
  reason : ArtifactRef
  runId : RunId

structure OperatorResumeRequested where
  actionId : ActionId
  operatorRequestId : OperatorRequestId
  pages : List IndexPage
  resumeFromSequence : DecimalNatural
  runId : RunId

inductive Stimulus where
  | boundaryRequestReceived (stimulus : BoundaryRequestReceived)
  | submissionReady (stimulus : SubmissionReady)
  | commandObservationReceived (stimulus : CommandObservationReceived)
  | runReplayCompleted (stimulus : RunReplayCompleted)
  | operatorSuspendRequested (stimulus : OperatorSuspendRequested)
  | operatorResumeRequested (stimulus : OperatorResumeRequested)

def Stimulus.actionId : Stimulus → ActionId
  | .boundaryRequestReceived stimulus => stimulus.actionId
  | .submissionReady stimulus => stimulus.actionId
  | .commandObservationReceived stimulus => stimulus.actionId
  | .runReplayCompleted stimulus => stimulus.actionId
  | .operatorSuspendRequested stimulus => stimulus.actionId
  | .operatorResumeRequested stimulus => stimulus.actionId

def Stimulus.pages : Stimulus → List IndexPage
  | .boundaryRequestReceived stimulus => stimulus.pages
  | .submissionReady stimulus => stimulus.pages
  | .commandObservationReceived stimulus => stimulus.pages
  | .runReplayCompleted stimulus => stimulus.pages
  | .operatorSuspendRequested stimulus => stimulus.pages
  | .operatorResumeRequested stimulus => stimulus.pages

def Stimulus.runId : Stimulus → RunId
  | .boundaryRequestReceived stimulus => stimulus.runId
  | .submissionReady stimulus => stimulus.runId
  | .commandObservationReceived stimulus => stimulus.runId
  | .runReplayCompleted stimulus => stimulus.runId
  | .operatorSuspendRequested stimulus => stimulus.runId
  | .operatorResumeRequested stimulus => stimulus.runId

inductive SemanticFeedbackCode where
  | actionAlreadyCommitted
  | alreadySuspended
  | atomInventoryInvalid
  | commandNotIssued
  | correctorUnavailable
  | dependencyCycle
  | duplicateSemanticValue
  | evidenceInvalid
  | findingInvalid
  | invalidAcceptedCommit
  | invalidDomainTransition
  | invalidStimulus
  | noncurrentPlanConsequence
  | notSuspended
  | outcomeIneligible
  | pageUnproven
  | planInvalid
  | replayMismatch
  | resumeBindingMismatch
  | routeInvalid
  | runAlreadyTerminal
  | runMismatch
  | staleInputRoot
  | supersededPlanRoot
  | workItemNotAccepting
  deriving DecidableEq

structure Feedback where
  code : SemanticFeedbackCode
  path : String
  diagnostic : JsString

def semanticFeedback {α : Type} (code : SemanticFeedbackCode) (path : String) (diagnostic : JsString) : Except Feedback α :=
  .error ⟨code, path, diagnostic⟩

class StimulusHashing extends Hashing where
  stimulusDigest : Stimulus → Digest

export StimulusHashing (stimulusDigest)

end PiAutopilot.Authority
