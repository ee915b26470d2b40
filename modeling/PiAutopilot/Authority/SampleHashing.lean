import Mathlib.Tactic.DeriveCountable
import PiAutopilot.Authority.IndexRefinement
import PiAutopilot.Authority.Stimulus

set_option autoImplicit false

namespace PiAutopilot.Authority

open Protocol

deriving instance Countable for ActionId, NonEmpty, ByteRange, ArtifactRef, ExitObservation, ExpectedRefState,
  GitTreeCasAttestation, ThinkingLevel, SubscriptionRoute, RouteVerification
deriving instance Countable for AtomKind, Atom, DispositionKind, DispositionMeaning, AtomDisposition, CommonWork,
  CorrectionScope, CorrectArtifactFields, WorkKind, WorkItem, CorrectArtifactWork
deriving instance Countable for PlanningGapReason, PlanningGapFinding, BlockingFinding, AdvisoryFinding, Finding,
  EvidenceClass, EvidenceEnvelope, EvidenceFact
deriving instance Countable for CompactionContract, ChildMemorySeed, PrepareWorkspace, ApplyWorkspaceIsolation,
  MaterializeWorkspace, VerifyChildRoute, LaunchChild, InspectChild, ExecuteEvidence, ExecuteValidationRule,
  BuildIntegratedCandidate, PublishCompareAndSwap, ObserveClock, InstallArtifact, CommandBody, Command, CommandKind
deriving instance Countable for AcceptedOutput, WorkIndexValue, SubmissionIndexValue, PlanIndexValue, FindingStatus,
  FindingIndexValue, CandidateIndexValue, PublicationStatus, PublicationIndexValue, ActionRecordKind, ActionIndexValue,
  CommandStatus, CommandIndexValue, DependencyIndexValue, IndexValue
deriving instance Countable for IndexName, IndexMutation, SparseWitness, ResolvedIndexPage, PortIntent
deriving instance Countable for RequirementsBound, AtomInventorySealed, DependencyDeclared, WorkOutputAccepted,
  PlanRootAccepted, PlanRootSuperseded, CorrectionAssignment, AcceptedFinding, FindingCleared, RouteVerificationObserved,
  CandidateAccepted, PublicationIntended, ObservedStatus, PublicationObserved, FinalAttestationsRecorded, FactBody, DomainFact
deriving instance Countable for RequestPayload, AcceptPlan, CandidatePayload, SubmissionPayload, ProcessLifecycle,
  ProcessObservation, SessionObservation, Diagnostic, CommandObservationPayload, BoundaryRequestReceived, SubmissionReady,
  CommandObservationReceived, RunReplayCompleted, OperatorSuspendRequested, OperatorResumeRequested, Stimulus

instance : Fintype IndexName where
  elems := {.actions, .atoms, .candidates, .commands, .dependencies, .dispositions, .evidence, .findings, .plans,
    .publications, .submissions, .work}
  complete name := by cases name <;> decide

instance : Fintype CounterName where
  elems := {.declaredAtoms, .dispositionedAtoms, .declaredWork, .acceptedWork, .openBlockingFindings, .openAdvisoryFindings,
    .observedEvidence}
  complete name := by cases name <;> decide

deriving instance Countable for TaskComplete, PlanningStop, TerminalOutcome, TerminalState, Suspended, SuspensionState,
  RunIdentity, RequirementsState, RunPhase, CurrentPlanState, CurrentCandidateState, CurrentPublicationState,
  FinalAttestationState, AuthenticatedIndexState, RunState

deriving instance DecidableEq for ExecuteEvidence, PortIntent

-- A digest that can be computed for the listed values and has no collisions on any values: a listed value is
-- written as its position, every other one as a fresh digest behind another first digit.
noncomputable def tableDigest {α : Type} [Countable α] [DecidableEq α] (table : List α) (value : α) : Digest :=
  if value ∈ table then ⟨1 :: List.replicate (table.idxOf value) 0⟩ else ⟨0 :: (freshDigest value).hex⟩

-- Index keys have 64 digits, so they cannot be distinct for all texts; these are for texts with different endings.
def endingKey (identity : JsString) : Key :=
  ⟨((identity.reverse.map fun (unit : UInt16) => Fin.ofNat 16 unit.toNat) ++ List.replicate 64 0).take 64, by simp⟩

def CommandKind.digit : CommandKind → Fin 16
  | .prepareWorkspace => 0
  | .applyWorkspaceIsolation => 1
  | .materializeWorkspace => 2
  | .verifyChildRoute => 3
  | .launchChild => 4
  | .inspectChild => 5
  | .executeEvidence => 6
  | .executeValidationRule => 7
  | .buildIntegratedCandidate => 8
  | .publishCompareAndSwap => 9
  | .observeClock => 10
  | .installArtifact => 11

-- Hashing without collisions in which the listed artifact references and port intents have digests that compute.
@[reducible] noncomputable def sampleHashing (references : List ArtifactRef) (intents : List (RunId × PortIntent)) : StimulusHashing where
  toSparseHashing := freshSparseHashing
  toValueHashing := freshValueHashing IndexValue
  indexKeyDigest _ identity := endingKey identity
  indexMutationDigest := freshDigest
  stateDigest := freshDigest
  artifactRefDigest := tableDigest references
  evidenceEnvelopeDigest := freshDigest
  terminalOutcomeDigest := freshDigest
  canonicalDecisionFactsDigest := freshDigest
  canonicalCommandsDigest := freshDigest
  canonicalCommandsByteLength _ := .ofNat 2
  commandActionDigest runId intent := tableDigest intents (runId, intent)
  commandIdentityDigest kind actionId := ⟨kind.digit :: actionId.digest.hex⟩
  stimulusDigest := freshDigest

end PiAutopilot.Authority
