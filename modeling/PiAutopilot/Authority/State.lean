import PiAutopilot.Authority.Commands

set_option autoImplicit false

namespace PiAutopilot.Authority

open Protocol

structure RunGenesis where
  expectedPublication : ExpectedRefState
  policyRoot : ArtifactRoot
  publicationRef : GitRef
  repository : RepositoryCapability
  repositoryBase : GitCommitId
  repositoryTree : GitTreeId
  route : SubscriptionRoute
  runId : RunId
  runtimeRoot : ArtifactRoot
  sequence : DecimalNatural
  taskSnapshot : ArtifactRoot

structure RunIdentity where
  runId : RunId
  taskSnapshot : ArtifactRoot
  repository : RepositoryCapability
  repositoryBase : GitCommitId
  repositoryTree : GitTreeId
  publicationRef : GitRef
  expectedPublication : ExpectedRefState
  policyRoot : ArtifactRoot
  runtimeRoot : ArtifactRoot
  route : SubscriptionRoute

structure RequirementsState where
  sourceRoot : ArtifactRoot
  requirementsRoot : ArtifactRoot
  taskRoot : ArtifactRoot
  atomIndexRoot : IndexRoot
  declaredAtomCount : DecimalNatural
  inventorySealed : Bool
  inventoryEvidence : Option ArtifactRef

inductive RunPhase where
  | planning
  | execution
  deriving DecidableEq

structure CurrentPlanState where
  planRootId : PlanRootId
  planRoot : ArtifactRoot
  coverageRoot : ArtifactRoot
  reviewedPlan : ArtifactRef
  planAuthorWorkItemId : WorkItemId
  integrationOwnerWorkItemId : WorkItemId

structure CurrentCandidateState where
  candidateId : CandidateId
  planRootId : PlanRootId
  tree : ArtifactRoot
  gitRevision : GitCommitId
  gitTree : GitTreeId
  manifest : ArtifactRef
  reviewedDiff : ArtifactRef
  gitTreeCasAttestation : GitTreeCasAttestation

structure CurrentPublicationState where
  publicationId : PublicationId
  candidateId : CandidateId
  repository : RepositoryCapability
  publicationRef : GitRef
  expected : ExpectedRefState
  desiredHead : GitCommitId
  status : PublicationStatus
  observedHead : Option GitCommitId
  tree : Option ArtifactRoot
  gitTree : Option GitTreeId
  publicationTreeAttestation : Option GitTreeCasAttestation

structure FinalAttestationState where
  candidateId : CandidateId
  publicationId : PublicationId
  c1ToC7Proof : ArtifactRef
  finalManifest : ArtifactRef
  evidenceIndexRoot : IndexRoot
  finalVerificationEvidence : EvidenceId
  advisoryDisclosures : ArtifactRef

inductive CounterName where
  | declaredAtoms
  | dispositionedAtoms
  | declaredWork
  | acceptedWork
  | openBlockingFindings
  | openAdvisoryFindings
  | observedEvidence
  deriving DecidableEq

abbrev RunCounters := CounterName → DecimalNatural

abbrev RunIndexes := IndexName → RunIndex

structure Suspended where
  actionId : ActionId
  operatorRequestId : OperatorRequestId
  reason : ArtifactRef
  sequence : DecimalNatural

inductive SuspensionState where
  | active
  | suspended (suspension : Suspended)

structure TerminalState where
  actionId : ActionId
  sequence : DecimalNatural
  outcome : TerminalOutcome

structure RunState where
  identity : RunIdentity
  phase : RunPhase
  lastSequence : DecimalNatural
  requirements : Option RequirementsState
  currentPlan : Option CurrentPlanState
  currentCandidate : Option CurrentCandidateState
  currentPublication : Option CurrentPublicationState
  finalAttestations : Option FinalAttestationState
  planningGap : Option PlanningGapFinding
  counters : RunCounters
  indexes : RunIndexes
  suspension : SuspensionState
  terminal : Option TerminalState

def replaceIndex (indexes : RunIndexes) (name : IndexName) (value : RunIndex) : RunIndexes := Function.update indexes name value

def incrementCounter (state : RunState) (name : CounterName) : RunState :=
  { state with counters := Function.update state.counters name (incrementDecimalNatural (state.counters name)) }

def decrementCounter (state : RunState) (name : CounterName) : Option RunState :=
  (decrementDecimalNatural (state.counters name)).map fun next =>
    { state with counters := Function.update state.counters name next }

def initialState [SparseHashing] (genesis : RunGenesis) : RunState where
  identity :=
    { runId := genesis.runId
      taskSnapshot := genesis.taskSnapshot
      repository := genesis.repository
      repositoryBase := genesis.repositoryBase
      repositoryTree := genesis.repositoryTree
      publicationRef := genesis.publicationRef
      expectedPublication := genesis.expectedPublication
      policyRoot := genesis.policyRoot
      runtimeRoot := genesis.runtimeRoot
      route := genesis.route }
  phase := .planning
  lastSequence := genesis.sequence
  requirements := none
  currentPlan := none
  currentCandidate := none
  currentPublication := none
  finalAttestations := none
  planningGap := none
  counters := fun _ => .ofNat 0
  indexes := fun name => initialAuthenticatedIndex name
  suspension := .active
  terminal := none

structure RequirementsBound where
  atomIndexRoot : IndexRoot
  declaredAtomCount : DecimalNatural
  requirementsRoot : ArtifactRoot
  sourceRoot : ArtifactRoot
  taskRoot : ArtifactRoot

structure AtomInventorySealed where
  atomCount : DecimalNatural
  atomIndexRoot : IndexRoot
  inventoryEvidence : ArtifactRef

structure DependencyDeclared where
  dependency : WorkItemId
  dependent : WorkItemId
  planRootId : PlanRootId

structure WorkOutputAccepted where
  accountedDiff : ArtifactRef
  evidence : List ArtifactRef
  inputRoot : ArtifactRoot
  outputRoot : ArtifactRoot
  planRootId : PlanRootId
  submissionId : SubmissionId
  workItemId : WorkItemId

structure PlanRootAccepted where
  coverageRoot : ArtifactRoot
  integrationOwnerWorkItemId : WorkItemId
  planAuthorWorkItemId : WorkItemId
  planRoot : ArtifactRoot
  planRootId : PlanRootId
  reviewedPlan : ArtifactRef

structure PlanRootSuperseded where
  newPlanRootId : PlanRootId
  priorPlanRootId : PlanRootId
  reason : ArtifactRef

structure CorrectionAssignment where
  assignmentId : CorrectionAssignmentId
  correctorWorkItemId : WorkItemId
  originalOwnerWorkItemId : WorkItemId
  scope : CorrectionScope
  work : CorrectArtifactWork

inductive AcceptedFinding where
  | blockingWithCorrection (correction : CorrectionAssignment) (finding : Finding)
  | nonblocking (finding : Finding)

def AcceptedFinding.finding : AcceptedFinding → Finding
  | .blockingWithCorrection _ finding => finding
  | .nonblocking finding => finding

structure FindingCleared where
  correctedRoot : ArtifactRoot
  evidence : List EvidenceId
  findingId : FindingId
  resolution : ArtifactRef

structure RouteVerificationObserved where
  observation : RouteVerification
  observationId : RouteObservationId
  rawObservation : ArtifactRef

structure CandidateAccepted where
  candidateId : CandidateId
  gitRevision : GitCommitId
  gitTree : GitTreeId
  gitTreeCasAttestation : GitTreeCasAttestation
  manifest : ArtifactRef
  planRootId : PlanRootId
  reviewedDiff : ArtifactRef
  tree : ArtifactRoot

structure PublicationIntended where
  candidateId : CandidateId
  desiredHead : GitCommitId
  expected : ExpectedRefState
  publicationId : PublicationId
  publicationRef : GitRef
  repository : RepositoryCapability

inductive ObservedStatus where
  | desiredHead
  | headMoved
  deriving DecidableEq

def ObservedStatus.publicationStatus : ObservedStatus → PublicationStatus
  | .desiredHead => .desiredHead
  | .headMoved => .headMoved

structure PublicationObserved where
  gitTree : GitTreeId
  observedHead : Option GitCommitId
  publicationId : PublicationId
  publicationTreeAttestation : GitTreeCasAttestation
  status : ObservedStatus
  tree : ArtifactRoot

structure FinalAttestationsRecorded where
  advisoryDisclosures : ArtifactRef
  c1ToC7Proof : ArtifactRef
  candidateId : CandidateId
  evidenceIndexRoot : IndexRoot
  finalManifest : ArtifactRef
  finalVerificationEvidence : EvidenceId
  publicationId : PublicationId

inductive FactBody where
  | requirementsBound (fact : RequirementsBound)
  | atomDeclared (atom : Atom)
  | atomInventorySealed (fact : AtomInventorySealed)
  | atomDispositioned (disposition : AtomDisposition)
  | workDeclared (workItem : WorkItem)
  | dependencyDeclared (fact : DependencyDeclared)
  | workOutputAccepted (fact : WorkOutputAccepted)
  | planRootAccepted (fact : PlanRootAccepted)
  | planRootSuperseded (fact : PlanRootSuperseded)
  | findingAccepted (acceptance : AcceptedFinding)
  | findingCleared (fact : FindingCleared)
  | evidenceObserved (evidence : EvidenceFact)
  | routeVerificationObserved (fact : RouteVerificationObserved)
  | candidateAccepted (fact : CandidateAccepted)
  | publicationIntended (fact : PublicationIntended)
  | publicationObserved (fact : PublicationObserved)
  | finalAttestationsRecorded (fact : FinalAttestationsRecorded)

def FactBody.label : FactBody → JsString
  | .requirementsBound _ => js "requirements-bound"
  | .atomDeclared _ => js "atom-declared"
  | .atomInventorySealed _ => js "atom-inventory-sealed"
  | .atomDispositioned _ => js "atom-dispositioned"
  | .workDeclared _ => js "work-declared"
  | .dependencyDeclared _ => js "dependency-declared"
  | .workOutputAccepted _ => js "work-output-accepted"
  | .planRootAccepted _ => js "plan-root-accepted"
  | .planRootSuperseded _ => js "plan-root-superseded"
  | .findingAccepted _ => js "finding-accepted"
  | .findingCleared _ => js "finding-cleared"
  | .evidenceObserved _ => js "evidence-observed"
  | .routeVerificationObserved _ => js "route-verification-observed"
  | .candidateAccepted _ => js "candidate-accepted"
  | .publicationIntended _ => js "publication-intended"
  | .publicationObserved _ => js "publication-observed"
  | .finalAttestationsRecorded _ => js "final-attestations-recorded"

structure DomainFact where
  runId : RunId
  body : FactBody

-- What commandActionId digests: port, kind, inputs and preconditions of one port intent.
inductive PortIntent where
  | allocateAttemptDirectory (workspaceCapability : WorkspaceCapability) (workspaceId : WorkspaceId) (leaseId : LeaseId)
  | executeEvidenceCommand (inputs : ExecuteEvidence)
  | publishIfExpectedHead (desiredHead : GitCommitId) (expected : ExpectedRefState) (publicationId : PublicationId)
      (publicationRef : GitRef) (repository : RepositoryCapability) (candidateTree : GitTreeId) (publicationLease : LeaseId)
      (verifiedAttestation : GitTreeCasAttestation)

-- SHA-256 over the canonical bytes of each kind of value.
class Hashing extends SparseHashing, ValueHashing IndexValue where
  indexKeyDigest : IndexName → JsString → Key
  indexMutationDigest : IndexMutation → Digest
  stateDigest : RunState → Digest
  artifactRefDigest : ArtifactRef → Digest
  evidenceEnvelopeDigest : EvidenceEnvelope → Digest
  terminalOutcomeDigest : TerminalOutcome → Digest
  canonicalDecisionFactsDigest : List DomainFact → Digest
  canonicalCommandsDigest : List Command → Digest
  canonicalCommandsByteLength : List Command → DecimalNatural
  commandActionDigest : RunId → PortIntent → Digest
  commandIdentityDigest : CommandKind → ActionId → Digest

export Hashing (indexMutationDigest stateDigest artifactRefDigest evidenceEnvelopeDigest terminalOutcomeDigest
  canonicalDecisionFactsDigest canonicalCommandsDigest canonicalCommandsByteLength)

def indexKey [Hashing] (name : IndexName) (identity : JsString) : Key := Hashing.indexKeyDigest name identity

def artifactRefsEqual [Hashing] (left right : ArtifactRef) : Bool := artifactRefDigest left = artifactRefDigest right

end PiAutopilot.Authority
