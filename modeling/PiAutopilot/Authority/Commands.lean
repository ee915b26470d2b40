import PiAutopilot.Authority.Values

set_option autoImplicit false

namespace PiAutopilot.Authority

open Protocol

inductive CompactionContract where
  | disabled
  | sealedSummary (instructions priorSummary : ArtifactRef)

inductive ChildMemorySeed where
  | initial (initialPrompt : ArtifactRef)
  | continuation (compaction : CompactionContract) (continuationPrompt : ArtifactRef) (evidencePages : List ArtifactRef)
      (predecessorAttempt : KindId) (sealedScratch : ArtifactRef)

structure PrepareWorkspace where
  leaseId : LeaseId
  planRootId : PlanRootId
  workspaceCapability : WorkspaceCapability
  workspaceId : WorkspaceId
  workItemId : WorkItemId

structure ApplyWorkspaceIsolation where
  childEpoch : ChildEpoch
  expectedPolicyDigest : Digest
  expectedWorkspaceRoot : ArtifactRoot
  isolationPolicy : ArtifactRef
  leaseId : LeaseId
  workspaceCapability : WorkspaceCapability
  workspaceId : WorkspaceId

structure MaterializeWorkspace where
  baseCommit : GitCommitId
  baseTree : GitTreeId
  repository : RepositoryCapability
  reservationLease : LeaseId
  workspaceCapability : WorkspaceCapability
  workspaceId : WorkspaceId

structure VerifyChildRoute where
  captureId : CaptureId
  deadlineTick : DecimalNatural
  route : SubscriptionRoute

structure LaunchChild where
  attemptId : AttemptId
  captureId : CaptureId
  childEpoch : ChildEpoch
  deadlineTick : DecimalNatural
  expectedWorkspaceRoot : ArtifactRoot
  maxStderrBytes : DecimalNatural
  maxStdoutBytes : DecimalNatural
  memorySeed : ChildMemorySeed
  planRootId : PlanRootId
  policyRoot : ArtifactRoot
  roleId : RoleId
  route : SubscriptionRoute
  routeObservation : ArtifactRef
  routeObservationId : RouteObservationId
  runtimeRoot : ArtifactRoot
  workItemId : WorkItemId
  workspaceCapability : WorkspaceCapability
  workspaceId : WorkspaceId

structure InspectChild where
  childEpoch : ChildEpoch
  childId : ChildId
  processDescriptor : ArtifactRef
  workItemId : WorkItemId

structure ExecuteEvidence where
  attemptId : AttemptId
  candidateTree : ArtifactRoot
  commandSpec : ArtifactRef
  cwd : WorkspaceRelativePath
  deadlineTick : DecimalNatural
  environment : ArtifactRef
  evidenceClass : EvidenceClass
  kindId : KindId
  ruleId : RuleId
  workItemId : WorkItemId
  workspaceCapability : WorkspaceCapability
  workspaceId : WorkspaceId

structure ExecuteValidationRule where
  candidateTree : ArtifactRoot
  deadlineTick : DecimalNatural
  inputs : ArtifactRef
  ruleId : RuleId
  workItemId : WorkItemId

structure BuildIntegratedCandidate where
  baseCommit : GitCommitId
  baseRoot : ArtifactRoot
  baseTree : GitTreeId
  candidateCommit : GitCommitId
  candidateId : CandidateId
  candidateRoot : ArtifactRoot
  candidateTree : GitTreeId
  integrationWorkspace : WorkspaceCapability
  planRootId : PlanRootId
  repository : RepositoryCapability
  workItemId : WorkItemId

structure PublishCompareAndSwap where
  candidateId : CandidateId
  candidateTree : GitTreeId
  desiredHead : GitCommitId
  expected : ExpectedRefState
  publicationId : PublicationId
  publicationLease : LeaseId
  publicationRef : GitRef
  repository : RepositoryCapability
  verifiedAttestation : GitTreeCasAttestation

structure ObserveClock where
  clockId : RuleId
  notBeforeTick : DecimalNatural
  sourceDigest : Digest

structure InstallArtifact where
  artifact : ArtifactRef

inductive CommandBody where
  | prepareWorkspace (fields : PrepareWorkspace)
  | applyWorkspaceIsolation (fields : ApplyWorkspaceIsolation)
  | materializeWorkspace (fields : MaterializeWorkspace)
  | verifyChildRoute (fields : VerifyChildRoute)
  | launchChild (fields : LaunchChild)
  | inspectChild (fields : InspectChild)
  | executeEvidence (fields : ExecuteEvidence)
  | executeValidationRule (fields : ExecuteValidationRule)
  | buildIntegratedCandidate (fields : BuildIntegratedCandidate)
  | publishCompareAndSwap (fields : PublishCompareAndSwap)
  | observeClock (fields : ObserveClock)
  | installArtifact (fields : InstallArtifact)

structure Command where
  actionId : ActionId
  commandId : CommandId
  runId : RunId
  body : CommandBody

inductive CommandKind where
  | prepareWorkspace
  | applyWorkspaceIsolation
  | materializeWorkspace
  | verifyChildRoute
  | launchChild
  | inspectChild
  | executeEvidence
  | executeValidationRule
  | buildIntegratedCandidate
  | publishCompareAndSwap
  | observeClock
  | installArtifact
  deriving DecidableEq

def CommandKind.label : CommandKind → JsString
  | .prepareWorkspace => js "prepare-workspace"
  | .applyWorkspaceIsolation => js "apply-workspace-isolation"
  | .materializeWorkspace => js "materialize-workspace"
  | .verifyChildRoute => js "verify-child-route"
  | .launchChild => js "launch-child"
  | .inspectChild => js "inspect-child"
  | .executeEvidence => js "execute-evidence"
  | .executeValidationRule => js "execute-validation-rule"
  | .buildIntegratedCandidate => js "build-integrated-candidate"
  | .publishCompareAndSwap => js "publish-compare-and-swap"
  | .observeClock => js "observe-clock"
  | .installArtifact => js "install-artifact"

def CommandBody.kind : CommandBody → CommandKind
  | .prepareWorkspace _ => .prepareWorkspace
  | .applyWorkspaceIsolation _ => .applyWorkspaceIsolation
  | .materializeWorkspace _ => .materializeWorkspace
  | .verifyChildRoute _ => .verifyChildRoute
  | .launchChild _ => .launchChild
  | .inspectChild _ => .inspectChild
  | .executeEvidence _ => .executeEvidence
  | .executeValidationRule _ => .executeValidationRule
  | .buildIntegratedCandidate _ => .buildIntegratedCandidate
  | .publishCompareAndSwap _ => .publishCompareAndSwap
  | .observeClock _ => .observeClock
  | .installArtifact _ => .installArtifact

structure AcceptedOutput where
  accountedDiff : ArtifactRef
  evidence : List ArtifactRef
  outputRoot : ArtifactRoot
  submissionId : SubmissionId

structure WorkIndexValue where
  acceptedOutput : Option AcceptedOutput
  workItem : WorkItem

structure SubmissionIndexValue where
  acceptedOutput : AcceptedOutput
  planRootId : PlanRootId
  runId : RunId
  workItemId : WorkItemId

structure PlanIndexValue where
  coverageRoot : ArtifactRoot
  integrationOwnerWorkItemId : WorkItemId
  planAuthorWorkItemId : WorkItemId
  planRoot : ArtifactRoot
  planRootId : PlanRootId
  reviewedPlan : ArtifactRef
  runId : RunId
  supersededBy : Option PlanRootId

-- Whether a finding is still open; a cleared one keeps its resolution.
inductive FindingStatus where
  | open
  | cleared
  deriving DecidableEq

structure FindingIndexValue where
  correctionWorkItemId : Option WorkItemId
  finding : Finding
  resolution : Option ArtifactRef
  status : FindingStatus

structure CandidateIndexValue where
  candidateId : CandidateId
  gitRevision : GitCommitId
  gitTree : GitTreeId
  gitTreeCasAttestation : GitTreeCasAttestation
  manifest : ArtifactRef
  planRootId : PlanRootId
  reviewedDiff : ArtifactRef
  runId : RunId
  tree : ArtifactRoot

inductive PublicationStatus where
  | intended
  | desiredHead
  | headMoved
  deriving DecidableEq

structure PublicationIndexValue where
  candidateId : CandidateId
  desiredHead : GitCommitId
  expected : ExpectedRefState
  observedHead : Option GitCommitId
  publicationId : PublicationId
  publicationTreeAttestation : Option GitTreeCasAttestation
  runId : RunId
  status : PublicationStatus

inductive ActionRecordKind where
  | decisionCommitted
  | commandSettled
  | outcomeCommitted
  | runSuspended
  | runResumed
  deriving DecidableEq

structure ActionIndexValue where
  actionId : ActionId
  recordKind : ActionRecordKind
  sequence : DecimalNatural

inductive CommandStatus where
  | issued
  | settled
  deriving DecidableEq

structure CommandIndexValue where
  command : Command
  commandId : CommandId
  observation : Option ArtifactRef
  status : CommandStatus

structure DependencyIndexValue where
  dependency : WorkItemId
  dependent : WorkItemId
  planRootId : PlanRootId
  runId : RunId

inductive IndexValue where
  | atom (atom : Atom)
  | disposition (disposition : AtomDisposition)
  | work (value : WorkIndexValue)
  | submission (value : SubmissionIndexValue)
  | plan (value : PlanIndexValue)
  | finding (value : FindingIndexValue)
  | evidence (evidence : EvidenceFact)
  | candidate (value : CandidateIndexValue)
  | publication (value : PublicationIndexValue)
  | command (value : CommandIndexValue)
  | action (value : ActionIndexValue)
  | dependency (value : DependencyIndexValue)

inductive IndexValueKind where
  | atom
  | disposition
  | work
  | submission
  | plan
  | finding
  | evidence
  | candidate
  | publication
  | command
  | action
  | dependency
  deriving DecidableEq

def IndexValue.kind : IndexValue → IndexValueKind
  | .atom _ => .atom
  | .disposition _ => .disposition
  | .work _ => .work
  | .submission _ => .submission
  | .plan _ => .plan
  | .finding _ => .finding
  | .evidence _ => .evidence
  | .candidate _ => .candidate
  | .publication _ => .publication
  | .command _ => .command
  | .action _ => .action
  | .dependency _ => .dependency

abbrev RunIndex := AuthenticatedIndexState IndexValue
abbrev IndexPage := ResolvedIndexPage IndexValue

def indexValues (state : RunIndex) (kind : IndexValueKind) : Option (List IndexValue) :=
  if !state.hotComplete then none
  else some ((state.hot.map Prod.snd).filter fun value => value.kind = kind)

structure TaskComplete where
  advisoryDisclosures : ArtifactRef
  c1ToC7Proof : ArtifactRef
  candidateId : CandidateId
  coverageRoot : ArtifactRoot
  evidenceIndexRoot : IndexRoot
  finalManifest : ArtifactRef
  finalTree : ArtifactRoot
  gitTree : GitTreeId
  gitTreeCasAttestation : ArtifactRef
  publicationId : PublicationId
  publicationTreeAttestation : ArtifactRef
  publishedRevision : GitCommitId
  reviewedDiff : ArtifactRef

structure PlanningStop where
  explanation : ArtifactRef
  reason : PlanningGapReason
  sourceAnchors : NonEmpty SourceAnchor
  sourceEvidence : NonEmpty ArtifactRef

inductive TerminalOutcome where
  | t1 (outcome : TaskComplete)
  | t2 (outcome : PlanningStop)

end PiAutopilot.Authority
