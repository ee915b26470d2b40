import PiAutopilot.Authority.Index

set_option autoImplicit false

namespace PiAutopilot.Authority

open Protocol

abbrev RunId := Identifier
abbrev WorkItemId := Identifier
abbrev AttemptId := Identifier
abbrev CommandId := Identifier
abbrev PlanRootId := Identifier
abbrev PlanUnitId := Identifier
abbrev AtomId := Identifier
abbrev RequirementId := Identifier
abbrev SubmissionId := Identifier
abbrev FindingId := Identifier
abbrev CorrectionAssignmentId := Identifier
abbrev EvidenceId := Identifier
abbrev EvidenceObligationId := Identifier
abbrev CandidateId := Identifier
abbrev PublicationId := Identifier
abbrev RoleId := Identifier
abbrev RuleId := Identifier
abbrev KindId := Identifier
abbrev WorkspaceId := Identifier
abbrev WorkspaceCapability := Identifier
abbrev ChildId := Identifier
abbrev RepositoryCapability := Identifier
abbrev OperatorRequestId := Identifier
abbrev LeaseId := Identifier
abbrev DiagnosticCode := Identifier
abbrev RouteObservationId := Identifier
abbrev RouteCapability := Identifier
abbrev ProcessId := Identifier
abbrev ProcessGroupId := Identifier
abbrev CaptureId := Identifier
abbrev ChildEpoch := DecimalNatural
abbrev ArtifactRoot := Digest
abbrev CasBlobId := Digest
abbrev IndexRoot := Digest
abbrev ArtifactPath := FormattedText .path
abbrev WorkspaceRelativePath := FormattedText .path
abbrev SourceAnchor := FormattedText .sourceAnchor
abbrev GitCommitId := FormattedText .gitOid
abbrev GitTreeId := FormattedText .gitOid
abbrev GitRef := FormattedText .gitRef

-- The text action:sha256:<hex>.
structure ActionId where
  digest : Digest
  deriving DecidableEq

def ActionId.suffix (actionId : ActionId) : JsString := actionId.digest.hex.map fun digit => hexUnit digit.val

def ActionId.text (actionId : ActionId) : JsString := js "action:sha256:" ++ actionId.suffix

structure NonEmpty (α : Type) where
  first : α
  rest : List α
  deriving DecidableEq

def NonEmpty.toList {α : Type} (values : NonEmpty α) : List α := values.first :: values.rest

structure ByteRange where
  length : DecimalNatural
  offset : DecimalNatural
  deriving DecidableEq

structure ArtifactRef where
  blob : CasBlobId
  byteLength : DecimalNatural
  codec : KindId
  codecVersion : KindId
  digest : Digest
  path : ArtifactPath
  range : Option ByteRange
  root : ArtifactRoot
  deriving DecidableEq

inductive ExitObservation where
  | exited (code : DecimalNatural)
  | signalled (signal : Identifier)
  deriving DecidableEq

inductive ExpectedRefState where
  | unborn
  | at (commit : GitCommitId)
  deriving DecidableEq

structure GitTreeCasAttestation where
  artifactRoot : ArtifactRoot
  attestation : ArtifactRef
  gitTree : GitTreeId
  deriving DecidableEq

inductive ThinkingLevel where
  | off
  | minimal
  | low
  | medium
  | high
  | xhigh
  | max
  deriving DecidableEq

-- The channel is always "subscription".
structure SubscriptionRoute where
  catalogDigest : Digest
  model : KindId
  piVersion : KindId
  policyDigest : Digest
  provider : KindId
  routeCapability : RouteCapability
  thinking : ThinkingLevel
  toolBundleAttestation : Option ArtifactRef

structure RouteVerification where
  observationId : RouteObservationId
  route : SubscriptionRoute

inductive AtomKind where
  | work
  | decision
  | constraint
  | acceptance
  | premise
  | question
  | reference
  deriving DecidableEq

structure Atom where
  atomId : AtomId
  kind : AtomKind
  requirementId : RequirementId
  runId : RunId
  sourceAnchor : SourceAnchor
  sourceEvidence : ArtifactRef

inductive DispositionKind where
  | implementedBy (planUnits : NonEmpty PlanUnitId) (workItems : NonEmpty WorkItemId)
  | honoredBy (criteria : NonEmpty ArtifactRef) (planUnits : NonEmpty PlanUnitId)
  | invalidatedPremiseToOperatorQuestion (operatorQuestion : AtomId)
  | guards (planUnits : NonEmpty PlanUnitId)
  | runLevelGuard (guard : ArtifactRef)
  | verifiedBy (criteria : NonEmpty ArtifactRef)
  | verified
  | refutedToOperatorQuestion (operatorQuestion : AtomId)
  | unverifiableToRecordedAssumption (assumption : ArtifactRef)
  | answeredByOperatorAtom (operatorAtom : AtomId)
  | nonmaterialAssumption (assumption : ArtifactRef)
  | consumed (consumedBy : NonEmpty PlanUnitId)
  | excludedHistorical (exclusionEvidence : ArtifactRef)
  | naWithReason (independentPlanningReview : EvidenceId) (reason : ArtifactRef)

structure DispositionMeaning where
  evidence : NonEmpty ArtifactRef
  planRootId : PlanRootId
  kind : DispositionKind

structure AtomDisposition where
  atomId : AtomId
  meaning : DispositionMeaning
  runId : RunId

def dispositionIsLegal (atom : Atom) (disposition : AtomDisposition) : Bool :=
  if atom.atomId ≠ disposition.atomId ∨ atom.runId ≠ disposition.runId then false
  else
    match atom.kind, disposition.meaning.kind with
    | _, .naWithReason .. => true
    | .acceptance, .verifiedBy .. => true
    | .constraint, .guards .. => true
    | .constraint, .runLevelGuard .. => true
    | .decision, .honoredBy .. => true
    | .decision, .invalidatedPremiseToOperatorQuestion .. => true
    | .premise, .verified => true
    | .premise, .refutedToOperatorQuestion .. => true
    | .premise, .unverifiableToRecordedAssumption .. => true
    | .question, .answeredByOperatorAtom .. => true
    | .question, .nonmaterialAssumption .. => true
    | .reference, .consumed .. => true
    | .reference, .excludedHistorical .. => true
    | .work, .implementedBy .. => true
    | _, _ => false

structure CommonWork where
  dependencyCount : DecimalNatural
  dependencyRoot : IndexRoot
  inputRoot : ArtifactRoot
  planRootId : PlanRootId
  prompt : ArtifactRef
  roleId : RoleId
  ruleInputs : ArtifactRef
  runId : RunId
  taskRoot : ArtifactRoot
  topologicalRank : DecimalNatural
  workItemId : WorkItemId
  workspaceCapability : WorkspaceCapability
  workspaceId : WorkspaceId

inductive CorrectionScope where
  | local
  | planWide
  | crossLane
  deriving DecidableEq

structure CorrectArtifactFields where
  assignmentId : CorrectionAssignmentId
  findingId : FindingId
  integratedInput : ArtifactRoot
  originalOwnerWorkItemId : WorkItemId
  priorOutputRoot : ArtifactRoot
  scope : CorrectionScope
  subjectRoot : ArtifactRoot

inductive WorkKind where
  | produceArtifact (artifactKindId : KindId) (outputPath : ArtifactPath) (sourceRoot : ArtifactRoot)
  | reviewArtifact (reviewPolicy : ArtifactRef) (subjectRoot : ArtifactRoot)
  | correctArtifact (fields : CorrectArtifactFields)
  | integrateCandidate (acceptedOutputs : ArtifactRef) (baseCommit : GitCommitId) (baseRoot : ArtifactRoot)
      (baseTree : GitTreeId) (publicationRef : GitRef) (repository : RepositoryCapability)
  | verifyCandidate (candidateRoot : ArtifactRoot) (validationPlan : ArtifactRef)

structure WorkItem extends CommonWork where
  kind : WorkKind

structure CorrectArtifactWork extends CommonWork where
  fields : CorrectArtifactFields

def CorrectArtifactWork.workItem (work : CorrectArtifactWork) : WorkItem where
  toCommonWork := work.toCommonWork
  kind := .correctArtifact work.fields

inductive PlanningGapReason where
  | substantialPath
  | contradiction
  deriving DecidableEq

structure PlanningGapFinding where
  atomIds : NonEmpty AtomId
  explanation : ArtifactRef
  findingId : FindingId
  independentReview : ArtifactRef
  planRootId : PlanRootId
  reason : PlanningGapReason
  runId : RunId
  sourceAnchors : NonEmpty SourceAnchor
  sourceEvidence : NonEmpty ArtifactRef

structure BlockingFinding where
  evidence : NonEmpty ArtifactRef
  findingId : FindingId
  observedByWorkItemId : WorkItemId
  report : ArtifactRef
  ruleId : RuleId
  runId : RunId
  subjectRoot : ArtifactRoot
  subjectWorkItemId : Option WorkItemId

structure AdvisoryFinding where
  disclosure : ArtifactRef
  evidence : NonEmpty ArtifactRef
  findingId : FindingId
  raisedByWorkItemId : WorkItemId
  report : ArtifactRef
  ruleId : RuleId
  runId : RunId
  subjectRoot : ArtifactRoot

inductive Finding where
  | planningGap (finding : PlanningGapFinding)
  | integrity (finding : BlockingFinding)
  | definitionOfDone (finding : BlockingFinding)
  | advisory (finding : AdvisoryFinding)

def Finding.runId : Finding → RunId
  | .planningGap finding => finding.runId
  | .integrity finding => finding.runId
  | .definitionOfDone finding => finding.runId
  | .advisory finding => finding.runId

def Finding.findingId : Finding → FindingId
  | .planningGap finding => finding.findingId
  | .integrity finding => finding.findingId
  | .definitionOfDone finding => finding.findingId
  | .advisory finding => finding.findingId

inductive FindingKind where
  | planningGap
  | integrity
  | definitionOfDone
  | advisory
  deriving DecidableEq

def Finding.kind : Finding → FindingKind
  | .planningGap _ => .planningGap
  | .integrity _ => .integrity
  | .definitionOfDone _ => .definitionOfDone
  | .advisory _ => .advisory

def blockingKind (kind : FindingKind) : Bool := kind = .integrity || kind = .definitionOfDone

inductive EvidenceClass where
  | mechanical
  | planningReview
  | finalVerification
  | advisoryReview
  deriving DecidableEq

structure EvidenceEnvelope where
  acceptedOutput : ArtifactRoot
  actionId : ActionId
  attemptId : AttemptId
  evidenceClass : EvidenceClass
  command : ArtifactRef
  cwd : WorkspaceRelativePath
  environment : ArtifactRef
  evidenceId : EvidenceId
  exit : ExitObservation
  kindId : KindId
  obligationId : EvidenceObligationId
  output : ArtifactRef
  ruleId : RuleId
  runId : RunId
  tree : ArtifactRoot
  workItemId : WorkItemId

structure EvidenceFact where
  envelope : EvidenceEnvelope
  envelopeDigest : Digest

end PiAutopilot.Authority
