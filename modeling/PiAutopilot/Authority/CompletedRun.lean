import PiAutopilot.Authority.AttestedRun

set_option autoImplicit false

namespace PiAutopilot.Authority

open Protocol

section Outcome

variable [Hashing]

-- No check of an outcome reads the actions index.
theorem outcome_ignores_actions (state : RunState) (indexes : RunIndexes)
    (same : ∀ name, name ≠ .actions → indexes name = state.indexes name) (pages : List IndexPage) :
    determineTerminalOutcome { state with indexes := indexes } pages = determineTerminalOutcome state pages := by
  have checks : t1Checks { state with indexes := indexes } pages = t1Checks state pages := by
    simp only [t1Checks, c1RequirementsBound, c2AtomsDispositioned, coverageComplete, coverageObligations, finalEvidenceGreen,
      settledEvidenceCommand, c4ReviewedDiffAndManifest, integrationOutput, c6AcceptedWorkRetained, finalAttestationsBound,
      same .atoms (by decide), same .dispositions (by decide), same .evidence (by decide), same .commands (by decide),
      same .work (by decide)]
    rfl
  have stop : planningStopEligible { state with indexes := indexes } = planningStopEligible state := by
    simp only [planningStopEligible, same .commands (by decide)]
  rw [determineTerminalOutcome, eligibleOutcomeForState, checks, stop]
  rfl

theorem determines_t1 {state : RunState} {pages : List IndexPage} {outcome : TaskComplete} (executing : state.phase = .execution)
    (completes : taskComplete state = some outcome) (checks : (t1Checks state pages).all = true) :
    determineTerminalOutcome state pages = some (.t1 outcome) := by
  have stop : planningStopEligible state = none := by
    rw [planningStopEligible, executing]
    simp
  simp only [determineTerminalOutcome, eligibleOutcomeForState, stop, completes, checks, if_true]

-- The evidence that the attestations name and its settled command are both listed.
theorem final_evidence_listed (state : RunState) (book : Book) (orderly : Orderly book) (pages : List IndexPage)
    (attestations : FinalAttestationState) (candidate : CurrentCandidateState) (evidence : EvidenceFact) (command : Command)
    {fields : ExecuteEvidence} (observation : ArtifactRef) (attested : state.finalAttestations = some attestations)
    (chosen : state.currentCandidate = some candidate)
    (listed : entryOf book .evidence (indexKey .evidence attestations.finalVerificationEvidence.text) = some (.evidence evidence))
    (executes : command.body = .executeEvidence fields)
    (settled : entryOf book .commands (indexKey .commands (commandIdentity .executeEvidence evidence.envelope.actionId).text) =
        some (.command ⟨command, command.commandId, some observation, .settled⟩))
    (green : evidenceGreen (onBook state book) candidate attestations.finalVerificationEvidence evidence command fields = true) :
    finalEvidenceGreen (onBook state book) pages = true := by
  simp only [finalEvidenceGreen, on_book_final_attestations, on_book_current_candidate, attested, chosen,
    on_book_lookup state book orderly, listed, settledEvidenceCommand, settled, executes, if_true, green]

theorem integration_output_listed (state : RunState) (book : Book) (orderly : Orderly book) (pages : List IndexPage)
    (plan : CurrentPlanState) (work : WorkIndexValue) (current : state.currentPlan = some plan)
    (listed : entryOf book .work (indexKey .work plan.integrationOwnerWorkItemId.text) = some (.work work)) :
    integrationOutput (onBook state book) pages = work.acceptedOutput := by
  simp only [integrationOutput, on_book_current_plan, current, Option.bind_some, on_book_lookup state book orderly, listed]

end Outcome

section Sample

attribute [local instance] sampleWorld

-- The output of a work item, with the tree of the candidate as its root.
def outputSubmission (action : List (Fin 16)) (workItem : WorkItem) (submissionId : SubmissionId) : SubmissionReady :=
  submission action workItem (candidateRoot 0) (.acceptWorkOutput sampleRef [] submissionId)

def outputFact (workItem : WorkItem) (submissionId : SubmissionId) : WorkOutputAccepted where
  accountedDiff := sampleRef
  evidence := []
  inputRoot := workItem.inputRoot
  outputRoot := candidateRoot 0
  planRootId := workItem.planRootId
  submissionId := submissionId
  workItemId := workItem.workItemId

noncomputable def withOutput (book : Book) (workItem : WorkItem) (submissionId : SubmissionId) : Book :=
  enter (enter book .work (indexKey .work workItem.workItemId.text)
      (.work ⟨some (outputFact workItem submissionId).acceptedOutput, workItem⟩))
    .submissions (indexKey .submissions submissionId.text)
    (.submission ⟨(outputFact workItem submissionId).acceptedOutput, workItem.planRootId, sampleGenesis.runId,
      workItem.workItemId⟩)

noncomputable def sampleOutcome : TaskComplete where
  advisoryDisclosures := sampleRef
  c1ToC7Proof := sampleRef
  candidateId := (candidateFact 0).candidateId
  coverageRoot := planFact.coverageRoot
  evidenceIndexRoot := attestationsFact.evidenceIndexRoot
  finalManifest := sampleRef
  finalTree := candidateRoot 0
  gitTree := sampleGitTree
  gitTreeCasAttestation := sampleRef
  publicationId := samplePublication.publicationId
  publicationTreeAttestation := sampleRef
  publishedRevision := sampleCommit
  reviewedDiff := sampleRef

theorem sample_evidence_green (state : RunState) (run : state.identity.runId = sampleGenesis.runId) :
    evidenceGreen state (candidateEntry 0).candidateState sampleEnvelope.evidenceId sampleEvidence (verifySample 1 authorWork)
      (evidenceInputs authorWork (candidateRoot 0) sampleRef) = true := by
  simp only [evidenceGreen, sample_evidence_digest, Bool.true_and, run]
  decide +kernel

variable (counters : RunCounters) (sequence : DecimalNatural) (book : Book)

-- The attested state, with the counters and the sequence it has reached since.
noncomputable def attestedWith : RunState := { attested.state with counters := counters, lastSequence := sequence }

theorem attested_requirements_bound (atoms : book .atoms = attested.book .atoms) :
    c1RequirementsBound (onBook (attestedWith counters sequence) book) = true := by
  have root : sealFact.atomIndexRoot = ((onBook (attestedWith counters sequence) book).indexes .atoms).root := by
    change _ = (pageOf .atoms (book .atoms)).root
    rw [atoms]
    rfl
  change (decide (sampleGenesis.taskSnapshot = sampleGenesis.taskSnapshot) && true &&
    decide (sealFact.atomIndexRoot = ((onBook (attestedWith counters sequence) book).indexes .atoms).root)) = true
  rw [decide_eq_true root]
  decide

theorem attested_covered (atoms : book .atoms = attested.book .atoms) (dispositions : book .dispositions = attested.book .dispositions)
    (counted : ∀ name, name ≠ .declaredWork → name ≠ .acceptedWork → counters name = attested.state.counters name) :
    c2AtomsDispositioned (onBook (attestedWith counters sequence) book) = true := by
  have declared : counters .declaredAtoms = .ofNat 1 := counted .declaredAtoms (by decide) (by decide)
  have disposed : counters .dispositionedAtoms = .ofNat 1 := counted .dispositionedAtoms (by decide) (by decide)
  have page : ∀ name, (onBook (attestedWith counters sequence) book).indexes name = pageOf name (book name) := fun _ => rfl
  have covered : coverageComplete (onBook (attestedWith counters sequence) book) = true := by
    have kept : (attestedWith counters sequence).requirements = attested.state.requirements := rfl
    have counts : (attestedWith counters sequence).counters = counters := rfl
    simp only [coverageComplete, coverageObligations, page, atoms, dispositions, on_book_requirements, on_book_counters,
      kept, counts, declared, disposed]
    decide +kernel
  rw [c2AtomsDispositioned, attested_requirements_bound counters sequence book atoms, covered]
  change (true && !zero (counters .declaredAtoms) && equal (counters .declaredAtoms) (counters .dispositionedAtoms) &&
    decide (DecimalNatural.ofNat 1 = counters .declaredAtoms) && true) = true
  rw [declared, disposed]
  decide +kernel

theorem attested_evidence_green (orderly : Orderly book) (evidence : book .evidence = attested.book .evidence)
    (settled : entryOf book .commands (settledEntry (verifySample 1 authorWork)).1 = some (settledEntry (verifySample 1 authorWork)).2) :
    finalEvidenceGreen (onBook (attestedWith counters sequence) book) [] = true := by
  refine final_evidence_listed _ book orderly [] attestationsFact.attestationState (candidateEntry 0).candidateState
    sampleEvidence (verifySample 1 authorWork) sampleRef rfl rfl ?_ rfl
    settled (sample_evidence_green _ rfl)
  rw [entryOf, evidence]
  rfl

theorem attested_integrated {submissionId : SubmissionId} (orderly : Orderly book)
    (owner : entryOf book .work (indexKey .work authorWork.workItemId.text) =
      some (.work ⟨some (outputFact authorWork submissionId).acceptedOutput, authorWork⟩)) :
    c4ReviewedDiffAndManifest (onBook (attestedWith counters sequence) book) [] = true := by
  have output := integration_output_listed (attestedWith counters sequence) book orderly [] _ _ rfl owner
  rw [c4ReviewedDiffAndManifest, output]
  change (artifactRefsEqual sampleRef sampleRef && decide (sampleGitTree = sampleGitTree) && artifactRefsEqual sampleRef sampleRef) = true
  decide +kernel

theorem attested_evidence : attested.book .evidence = published.book .evidence := by
  simp only [attested, Stage.reached]
  rfl

theorem attested_bound (evidence : book .evidence = attested.book .evidence) :
    finalAttestationsBound (onBook (attestedWith counters sequence) book) = true := by
  have root : attestationsFact.evidenceIndexRoot = ((onBook (attestedWith counters sequence) book).indexes .evidence).root := by
    change _ = (pageOf .evidence (book .evidence)).root
    rw [evidence, attested_evidence]
    rfl
  change (decide ((candidateFact 0).candidateId = (candidateFact 0).candidateId) &&
    decide (attestationsFact.evidenceIndexRoot = ((onBook (attestedWith counters sequence) book).indexes .evidence).root)) = true
  rw [decide_eq_true root]
  decide +kernel

-- Once the attestations are recorded, the outputs are all that a success still needs.
theorem attested_completes {submissionId : SubmissionId}
    (orderly : Orderly book) (atoms : book .atoms = attested.book .atoms) (evidence : book .evidence = attested.book .evidence)
    (dispositions : book .dispositions = attested.book .dispositions)
    (settled : entryOf book .commands (settledEntry (verifySample 1 authorWork)).1 = some (settledEntry (verifySample 1 authorWork)).2)
    (owner : entryOf book .work (indexKey .work authorWork.workItemId.text) =
      some (.work ⟨some (outputFact authorWork submissionId).acceptedOutput, authorWork⟩))
    (counted : ∀ name, name ≠ .declaredWork → name ≠ .acceptedWork → counters name = attested.state.counters name)
    (accepted : c6AcceptedWorkRetained (onBook (attestedWith counters sequence) book) = true) :
    determineTerminalOutcome (onBook (attestedWith counters sequence) book) [] = some (.t1 sampleOutcome) := by
  refine determines_t1 rfl rfl ?_
  have unblocked : zero (counters .openBlockingFindings) = true := by
    rw [counted .openBlockingFindings (by decide) (by decide)]
    decide +kernel
  have identity : c5IdentityBindings (onBook (attestedWith counters sequence) book) = true := by
    change c5IdentityBindings attested.state = true
    decide +kernel
  have contained : publicationContainsCandidate (onBook (attestedWith counters sequence) book) = true := by
    change publicationContainsCandidate attested.state = true
    decide +kernel
  simp only [T1Checks.all, t1Checks, attested_requirements_bound counters sequence book atoms,
    attested_covered counters sequence book atoms dispositions counted,
    attested_evidence_green counters sequence book orderly evidence settled,
    attested_integrated counters sequence book orderly owner, identity, accepted, contained,
    attested_bound counters sequence book evidence, Bool.true_and, Bool.and_true]
  change (true && zero (counters .openBlockingFindings)) = true
  rw [unblocked]
  rfl

noncomputable def finishingBook : Book := withOutput attested.book authorWork (sampleId [9, 0])

noncomputable def finishingState : RunState := incrementCounter attested.state .acceptedWork

theorem finishing_completes : determineTerminalOutcome (onBook finishingState finishingBook) [] = some (.t1 sampleOutcome) :=
  attested_completes finishingState.counters finishingState.lastSequence finishingBook
    (tidy_orderly _ (by decide +kernel)) rfl rfl rfl rfl rfl (fun name _ other => Function.update_of_ne other ..)
    (by decide +kernel)

noncomputable def finished : Stage :=
  ⟨finishingState, committedBook attested.state finishingBook
    (.submissionReady (outputSubmission [1, 9] authorWork (sampleId [9, 0]))) [] (some (.t1 sampleOutcome))⟩

-- The state of the run after its last commit.
noncomputable def succeeded : RunState := committedState finished.run (sampleAction [1, 9]) (.ofNat 13) (some (.t1 sampleOutcome))

theorem finished_completes : determineTerminalOutcome finished.run [] = some (.t1 sampleOutcome) :=
  (outcome_ignores_actions (onBook finishingState finishingBook) _ (fun name other => congrArg (pageOf name)
    (Function.update_of_ne other ..)) []).trans finishing_completes

noncomputable def succeededStep : Step attested.run succeeded where
  stimulus := .submissionReady (outputSubmission [1, 9] authorWork (sampleId [9, 0]))
  commits :=
    submission_terminates rfl rfl rfl rfl rfl
      rfl
      (work_output_accepted_leads attested.state attested.book (tidy_orderly _ (by decide +kernel))
        (outputFact authorWork (sampleId [9, 0])) ⟨none, authorWork⟩ rfl rfl rfl rfl rfl (by decide +kernel) (by decide +kernel))
      finishing_completes finished_completes (committable_of_check (by decide +kernel))

end Sample

end PiAutopilot.Authority
