import PiAutopilot.Authority.SampleRun

set_option autoImplicit false

namespace PiAutopilot.Authority

open Protocol

def sampleAnchor : SourceAnchor := ⟨js "anchor:task", by decide +kernel, by decide +kernel⟩

def sampleAtom : Atom where
  atomId := sampleId [7, 0]
  kind := .acceptance
  requirementId := sampleId [7, 1]
  runId := sampleGenesis.runId
  sourceAnchor := sampleAnchor
  sourceEvidence := sampleRef

def sampleDisposition : AtomDisposition where
  atomId := sampleAtom.atomId
  meaning := ⟨⟨sampleRef, []⟩, samplePlanRoot, .verifiedBy ⟨sampleRef, []⟩⟩
  runId := sampleGenesis.runId

section Sample

attribute [local instance] sampleWorld

def bindingRequest : BoundaryRequestReceived :=
  boundaryRequest [1, 4] (.bindRequirements ⟨[12]⟩ (.ofNat 1) ⟨[13, 1]⟩ ⟨[13, 2]⟩ sampleGenesis.taskSnapshot)

def requirementsFact : RequirementsBound where
  atomIndexRoot := ⟨[12]⟩
  declaredAtomCount := .ofNat 1
  requirementsRoot := ⟨[13, 1]⟩
  sourceRoot := ⟨[13, 2]⟩
  taskRoot := sampleGenesis.taskSnapshot

noncomputable def boundState : RunState :=
  { intended.state with requirements := some (boundRequirements intended.run requirementsFact) }

noncomputable def bound : Stage :=
  .reached boundState 5 (committedBook intended.state intendedBook (.boundaryRequestReceived bindingRequest) [] none)

noncomputable def boundStep : Step intended.run bound.run where
  stimulus := .boundaryRequestReceived bindingRequest
  commits :=
    boundary_request_commits
      (by decide +kernel) rfl (requirements_bound_leads intended.state intendedBook [] requirementsFact rfl rfl)
      (fun _ => no_outcome_unattested _ _ rfl rfl) (committable_of_check (by decide +kernel))

def atomRequest : BoundaryRequestReceived := boundaryRequest [1, 5] (.declareAtom sampleAtom)

noncomputable def atomBook : Book := enter bound.book .atoms (indexKey .atoms sampleAtom.atomId.text) (.atom sampleAtom)

noncomputable def inventoried : Stage :=
  .reached (incrementCounter bound.state .declaredAtoms) 6
    (committedBook bound.state atomBook (.boundaryRequestReceived atomRequest) [] none)

noncomputable def inventoriedStep : Step bound.run inventoried.run where
  stimulus := .boundaryRequestReceived atomRequest
  commits :=
    boundary_request_commits (by decide +kernel) rfl
      (atom_declared_leads bound.state bound.book (tidy_orderly _ (by decide +kernel)) [] sampleAtom rfl rfl rfl
        (by decide +kernel))
      (fun _ => no_outcome_unattested _ _ rfl rfl) (committable_of_check (by decide +kernel))

noncomputable def sealFact : AtomInventorySealed := ⟨.ofNat 1, (pageOf .atoms (inventoried.book .atoms)).root, sampleRef⟩

noncomputable def sealRequest : BoundaryRequestReceived :=
  boundaryRequest [1, 6] (.sealAtomInventory sealFact.atomCount sealFact.atomIndexRoot sealFact.inventoryEvidence)

noncomputable def sealedState : RunState :=
  { inventoried.state with requirements := some (sealedRequirements (boundRequirements intended.run requirementsFact) sealFact) }

noncomputable def sealedStage : Stage :=
  .reached sealedState 7 (committedBook inventoried.state inventoried.book (.boundaryRequestReceived sealRequest) [] none)

noncomputable def sealedStep : Step inventoried.run sealedStage.run where
  stimulus := .boundaryRequestReceived sealRequest
  commits :=
    boundary_request_commits
      (by decide +kernel) rfl
      (atom_inventory_sealed_leads inventoried.state inventoried.book [] sealFact _ rfl rfl rfl (by decide +kernel) rfl)
      (fun _ => no_outcome_unattested _ _ rfl rfl) (committable_of_check (by decide +kernel))

def dispositioning : SubmissionReady := submission [1, 7] authorWork ⟨[14]⟩ (.dispositionAtom sampleDisposition)

noncomputable def dispositionBook : Book :=
  enter sealedStage.book .dispositions (indexKey .dispositions sampleDisposition.atomId.text) (.disposition sampleDisposition)

noncomputable def dispositioned : Stage :=
  .reached (incrementCounter sealedStage.state .dispositionedAtoms) 8
    (committedBook sealedStage.state dispositionBook (.submissionReady dispositioning) [] none)

noncomputable def dispositionedStep : Step sealedStage.run dispositioned.run where
  stimulus := .submissionReady dispositioning
  commits :=
    submission_commits (by decide +kernel) rfl rfl rfl rfl rfl rfl
      (atom_dispositioned_leads sealedStage.state sealedStage.book (tidy_orderly _ (by decide +kernel)) []
        sampleAtom _ rfl rfl (by decide +kernel) rfl rfl (fun _ member => by cases member) rfl (by decide +kernel))
      (fun _ => no_outcome_unattested _ _ rfl rfl) (committable_of_check (by decide +kernel))

-- The observation of an issued command, installed as the sample artifact.
def observing (command : Command) (payload : CommandObservationPayload) : CommandObservationReceived where
  actionId := command.actionId
  commandId := command.commandId
  observation := sampleRef
  observationDigest := ⟨[10]⟩
  observationPayload := payload
  pages := []
  runId := sampleGenesis.runId

noncomputable def settledBook (book : Book) (command : Command) : Book :=
  enter book .commands (settledEntry command).1 (settledEntry command).2

noncomputable def reserving : CommandObservationReceived :=
  observing (reserveSample 0 authorWork)
    (.workspaceReserved (leaseFor authorWork.workItemId) authorWork.workspaceCapability authorWork.workspaceId)

noncomputable def reserved : Stage :=
  .reached dispositioned.state 9 (committedBook dispositioned.state
    (settledBook dispositioned.book (reserveSample 0 authorWork)) (.commandObservationReceived reserving) [] none)

noncomputable def reservedStep : Step dispositioned.run reserved.run where
  stimulus := .commandObservationReceived reserving
  commits :=
    observation_commits (by decide +kernel) rfl rfl rfl rfl
      rfl rfl (by decide +kernel) (by decide +kernel) (by decide +kernel) (tidy_orderly _ (by decide +kernel)) rfl
      ⟨_, fold_facts_nil _ _⟩ ⟨_, fold_facts_nil _ _⟩ (fun _ => no_outcome_unattested _ _ rfl rfl)
      (committable_of_check (by decide +kernel))

noncomputable def sampleObligation : EvidenceObligationId :=
  identifierOf (js "evidence-obligation:" ++ (verifySample 1 authorWork).commandId.text) (by simp [js])
    (identifier_units_append rfl (identifier_units))

noncomputable def sampleEnvelope : EvidenceEnvelope where
  acceptedOutput := candidateRoot 0
  actionId := (verifySample 1 authorWork).actionId
  attemptId := attemptFor authorWork.workItemId
  evidenceClass := .finalVerification
  command := sampleRef
  cwd := evidenceDirectory
  environment := authorWork.ruleInputs
  evidenceId := sampleId [8, 0]
  exit := .exited (.ofNat 0)
  kindId := finalVerificationKind
  obligationId := sampleObligation
  output := sampleRef
  ruleId := finalVerificationRule
  runId := sampleGenesis.runId
  tree := candidateRoot 0
  workItemId := authorWork.workItemId

noncomputable def sampleEvidence : EvidenceFact := ⟨sampleEnvelope, evidenceEnvelopeDigest sampleEnvelope⟩

noncomputable def verifying : CommandObservationReceived := observing (verifySample 1 authorWork) (.evidenceObserved sampleEvidence)

noncomputable def withEvidence (book : Book) : Book :=
  enter book .evidence (indexKey .evidence sampleEnvelope.evidenceId.text) (.evidence sampleEvidence)

noncomputable def verified : Stage :=
  .reached (incrementCounter reserved.state .observedEvidence) 10 (committedBook reserved.state
    (withEvidence (settledBook reserved.book (verifySample 1 authorWork))) (.commandObservationReceived verifying) [] none)

theorem sample_evidence_digest : decide (sampleEvidence.envelopeDigest = evidenceEnvelopeDigest sampleEvidence.envelope) = true :=
  decide_eq_true rfl

theorem verifying_matches : commandPayloadMatches (verifySample 1 authorWork) (.evidenceObserved sampleEvidence) = true := by
  change evidencePayloadMatches (verifySample 1 authorWork) (evidenceInputs authorWork (candidateRoot 0) sampleRef) sampleEvidence = true
  simp only [evidencePayloadMatches, sample_evidence_digest, Bool.true_and]
  decide +kernel

noncomputable def verifiedStep : Step reserved.run verified.run where
  stimulus := .commandObservationReceived verifying
  commits :=
    observation_commits (by decide +kernel) rfl rfl rfl rfl rfl rfl
      verifying_matches (by decide +kernel) (by decide +kernel) (tidy_orderly _ (by decide +kernel)) rfl
      (fold_facts_single (evidence_observed_leads reserved.state reserved.book (tidy_orderly _ (by decide +kernel)) []
        sampleEvidence rfl rfl rfl (by decide +kernel)))
      (fold_facts_single (evidence_observed_leads reserved.state (settledBook reserved.book (verifySample 1 authorWork))
        (tidy_orderly _ (by decide +kernel)) [] sampleEvidence rfl rfl rfl (by decide +kernel)))
      (fun _ => no_outcome_unattested _ _ rfl rfl) (committable_of_check (by decide +kernel))

def sampleObserved : PublicationObserved where
  gitTree := sampleGitTree
  observedHead := some sampleCommit
  publicationId := samplePublication.publicationId
  publicationTreeAttestation := sampleAttestation 0
  status := .desiredHead
  tree := candidateRoot 0

noncomputable def publishing : CommandObservationReceived := observing (publishSample 2 0) (.publicationObserved sampleObserved)

noncomputable def withObserved (book : Book) : Book :=
  enter book .publications (indexKey .publications sampleObserved.publicationId.text)
    (.publication (observedValue (samplePublication.publicationValue sampleGenesis.runId) sampleObserved))

noncomputable def publishedState : RunState := noteObservation samplePublication.publicationState sampleObserved verified.state

noncomputable def published : Stage :=
  .reached publishedState 11 (committedBook verified.state (withObserved (settledBook verified.book (publishSample 2 0)))
    (.commandObservationReceived publishing) [] none)

theorem observed_leads {book : Book} (orderly : Orderly book) (room : (book .publications).length < maxHotIndexValues)
    (listed : entryOf book .publications (indexKey .publications sampleObserved.publicationId.text) =
      some (.publication (samplePublication.publicationValue sampleGenesis.runId))) :
    Leads verified.state book ⟨sampleGenesis.runId, .publicationObserved sampleObserved⟩ [] publishedState (withObserved book) :=
  publication_observed_leads verified.state book orderly [] sampleObserved samplePublication.publicationState
    (candidateEntry 0).candidateState rfl rfl rfl rfl rfl rfl rfl listed
    rfl room

noncomputable def publishedStep : Step verified.run published.run where
  stimulus := .commandObservationReceived publishing
  commits :=
    observation_commits (by decide +kernel) rfl rfl rfl rfl rfl rfl
      (by decide +kernel) (by decide +kernel) (by decide +kernel) (tidy_orderly _ (by decide +kernel)) rfl
      (fold_facts_single (observed_leads (tidy_orderly _ (by decide +kernel)) (by decide +kernel) rfl))
      (fold_facts_single (observed_leads
        (tidy_orderly _ (by decide +kernel)) (by decide +kernel) rfl))
      (fun _ => no_outcome_unattested _ _ rfl rfl) (committable_of_check (by decide +kernel))

noncomputable def attestationsFact : FinalAttestationsRecorded where
  advisoryDisclosures := sampleRef
  c1ToC7Proof := sampleRef
  candidateId := (candidateFact 0).candidateId
  evidenceIndexRoot := (pageOf .evidence (published.book .evidence)).root
  finalManifest := sampleRef
  finalVerificationEvidence := sampleEnvelope.evidenceId
  publicationId := samplePublication.publicationId

noncomputable def attesting : SubmissionReady := submission [1, 8] authorWork ⟨[14]⟩ (.recordFinalAttestations attestationsFact)

noncomputable def attestedState : RunState := { published.state with finalAttestations := some attestationsFact.attestationState }

noncomputable def attested : Stage :=
  .reached attestedState 12 (committedBook published.state published.book (.submissionReady attesting) [] none)

noncomputable def attestedStep : Step published.run attested.run where
  stimulus := .submissionReady attesting
  commits :=
    submission_commits (by decide +kernel) rfl rfl rfl rfl rfl rfl
      (final_attestations_leads published.state published.book [] attestationsFact rfl rfl rfl (by decide +kernel))
      (fun _ => no_outcome_unaccepted _ _ rfl rfl) (committable_of_check (by decide +kernel))

-- No step up to the attestations is taken while the run is suspended or already attested.
theorem attested_reached_by {allowed : RunState → Stimulus → Prop}
    (permits : ∀ state stimulus, state.suspension = .active → state.finalAttestations = none → allowed state stimulus) :
    ReachedBy allowed sampleGenesis attested.run := by
  have openedReached : ReachedBy allowed sampleGenesis opened.run := opened_run ▸ .start
  refine .commit _ _ _ ?_ (permits _ _ rfl rfl) attestedStep.commits
  refine .commit _ _ _ ?_ (permits _ _ rfl rfl) publishedStep.commits
  refine .commit _ _ _ ?_ (permits _ _ rfl rfl) verifiedStep.commits
  refine .commit _ _ _ ?_ (permits _ _ rfl rfl) reservedStep.commits
  refine .commit _ _ _ ?_ (permits _ _ rfl rfl) dispositionedStep.commits
  refine .commit _ _ _ ?_ (permits _ _ rfl rfl) sealedStep.commits
  refine .commit _ _ _ ?_ (permits _ _ rfl rfl) inventoriedStep.commits
  refine .commit _ _ _ ?_ (permits _ _ rfl rfl) boundStep.commits
  refine .commit _ _ _ ?_ (permits _ _ rfl rfl) intendedStep.commits
  refine .commit _ _ _ ?_ (permits _ _ rfl rfl) offeredStep.commits
  refine .commit _ _ _ ?_ (permits _ _ rfl rfl) plannedStep.commits
  exact .commit _ _ _ openedReached (permits _ _ rfl rfl) declaredStep.commits

end Sample

end PiAutopilot.Authority
