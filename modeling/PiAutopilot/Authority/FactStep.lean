import PiAutopilot.Authority.Reads

set_option autoImplicit false

namespace PiAutopilot.Authority

open Protocol

section FactStep

variable [Hashing]

def StoredWork (contents : Contents) (workItemId : WorkItemId) (work : WorkIndexValue) : Prop :=
  contents .work (indexKey .work workItemId.text) = some (.work work)

noncomputable def insertAt (state : RunState) (contents : Contents) (name : IndexName) (identity : JsString)
    (value : IndexValue) : RunState :=
  writeIndex state contents name (indexKey name identity) value

def putAt (contents : Contents) (name : IndexName) (identity : JsString) (value : IndexValue) : Contents :=
  put contents name (indexKey name identity) value

def acceptedWorkValue (prior : WorkIndexValue) (fact : WorkOutputAccepted) : IndexValue :=
  .work { prior with acceptedOutput := some fact.acceptedOutput }

def submissionValue (runId : RunId) (fact : WorkOutputAccepted) : IndexValue :=
  .submission ⟨fact.acceptedOutput, fact.planRootId, runId, fact.workItemId⟩

def correctionValue (correction : CorrectionAssignment) : IndexValue := .work ⟨none, correction.work.workItem⟩

def openFinding (finding : Finding) (correctionWorkItemId : Option WorkItemId) : IndexValue :=
  .finding ⟨correctionWorkItemId, finding, none, .open⟩

def clearedFinding (prior : FindingIndexValue) (resolution : ArtifactRef) : IndexValue :=
  .finding { prior with status := .cleared, resolution := some resolution }

def FindingUncounted (finding : Finding) (before after : RunState) : Prop :=
  match findingCounter finding with
  | none => after = before
  | some counter => decrementCounter before counter = some after

-- What one accepted fact does to the state and to the maps its indexes authenticate.
inductive FactStep (state : RunState) (contents : Contents) (runId : RunId) : FactBody → RunState → Contents → Prop where
  | requirementsBound (fact : RequirementsBound) (unbound : state.requirements = none)
      (sameTask : fact.taskRoot = state.identity.taskSnapshot) :
      FactStep state contents runId (.requirementsBound fact)
        { state with requirements := some (boundRequirements state fact) } contents
  | atomDeclared (atom : Atom) (requirements : RequirementsState) (bound : state.requirements = some requirements)
      (unsealed : requirements.inventorySealed = false) (sameRun : atom.runId = state.identity.runId)
      (absent : contents .atoms (indexKey .atoms atom.atomId.text) = none) :
      FactStep state contents runId (.atomDeclared atom)
        (incrementCounter (insertAt state contents .atoms atom.atomId.text (.atom atom)) .declaredAtoms)
        (putAt contents .atoms atom.atomId.text (.atom atom))
  | atomInventorySealed (fact : AtomInventorySealed) (requirements : RequirementsState)
      (bound : state.requirements = some requirements) (unsealed : requirements.inventorySealed = false)
      (sameRoot : fact.atomIndexRoot = (state.indexes .atoms).root) (sameCount : fact.atomCount = (state.indexes .atoms).count)
      (declared : fact.atomCount = requirements.declaredAtomCount) :
      FactStep state contents runId (.atomInventorySealed fact)
        { state with requirements := some (sealedRequirements requirements fact) } contents
  | atomDispositioned (disposition : AtomDisposition) (requirements : RequirementsState)
      (bound : state.requirements = some requirements) (isSealed : requirements.inventorySealed = true) (atom : Atom)
      (stored : contents .atoms (indexKey .atoms disposition.atomId.text) = some (.atom atom))
      (legal : dispositionIsLegal atom disposition = true) (plan : CurrentPlanState) (current : state.currentPlan = some plan)
      (samePlan : disposition.meaning.planRootId = plan.planRootId)
      (implemented : ∀ workItemId ∈ implementingWork disposition.meaning.kind,
        ∃ work, StoredWork contents workItemId work ∧ work.workItem.planRootId = plan.planRootId)
      (absent : contents .dispositions (indexKey .dispositions disposition.atomId.text) = none) :
      FactStep state contents runId (.atomDispositioned disposition)
        (incrementCounter (insertAt state contents .dispositions disposition.atomId.text (.disposition disposition))
          .dispositionedAtoms)
        (putAt contents .dispositions disposition.atomId.text (.disposition disposition))
  | workDeclared (workItem : WorkItem) (sameRun : workItem.runId = state.identity.runId)
      (sameTask : workItem.taskRoot = state.identity.taskSnapshot)
      (inPlan : state.phase = .execution → state.currentPlan.map CurrentPlanState.planRootId = some workItem.planRootId)
      (absent : contents .work (indexKey .work workItem.workItemId.text) = none) :
      FactStep state contents runId (.workDeclared workItem)
        (incrementCounter (insertAt state contents .work workItem.workItemId.text (.work ⟨none, workItem⟩)) .declaredWork)
        (putAt contents .work workItem.workItemId.text (.work ⟨none, workItem⟩))
  | dependencyDeclared (fact : DependencyDeclared) (distinct : fact.dependency ≠ fact.dependent)
      (dependent dependency : WorkIndexValue) (dependentStored : StoredWork contents fact.dependent dependent)
      (dependencyStored : StoredWork contents fact.dependency dependency)
      (dependentPlan : dependent.workItem.planRootId = fact.planRootId)
      (dependencyPlan : dependency.workItem.planRootId = fact.planRootId)
      (ranked : compareDecimalNatural dependency.workItem.topologicalRank dependent.workItem.topologicalRank = .less)
      (noReverse : contents .dependencies (indexKey .dependencies (edgeIdentity fact.dependent fact.dependency)) = none)
      (absent : contents .dependencies (indexKey .dependencies (edgeIdentity fact.dependency fact.dependent)) = none) :
      FactStep state contents runId (.dependencyDeclared fact)
        (insertAt state contents .dependencies (edgeIdentity fact.dependency fact.dependent)
          (.dependency ⟨fact.dependency, fact.dependent, fact.planRootId, runId⟩))
        (putAt contents .dependencies (edgeIdentity fact.dependency fact.dependent)
          (.dependency ⟨fact.dependency, fact.dependent, fact.planRootId, runId⟩))
  | workOutputAccepted (fact : WorkOutputAccepted)
      (inPlan : state.currentPlan.map CurrentPlanState.planRootId = some fact.planRootId) (prior : WorkIndexValue)
      (stored : StoredWork contents fact.workItemId prior) (sameInput : prior.workItem.inputRoot = fact.inputRoot)
      (pending : prior.acceptedOutput = none)
      (absent : contents .submissions (indexKey .submissions fact.submissionId.text) = none) :
      FactStep state contents runId (.workOutputAccepted fact)
        (incrementCounter
          (insertAt (insertAt state contents .work fact.workItemId.text (acceptedWorkValue prior fact))
            (putAt contents .work fact.workItemId.text (acceptedWorkValue prior fact)) .submissions fact.submissionId.text
            (submissionValue runId fact)) .acceptedWork)
        (putAt (putAt contents .work fact.workItemId.text (acceptedWorkValue prior fact)) .submissions fact.submissionId.text
          (submissionValue runId fact))
  | planRootAccepted (fact : PlanRootAccepted) (planning : state.phase = .planning) (noPlan : state.currentPlan = none)
      (author owner : WorkIndexValue) (authorStored : StoredWork contents fact.planAuthorWorkItemId author)
      (ownerStored : StoredWork contents fact.integrationOwnerWorkItemId owner)
      (absent : contents .plans (indexKey .plans fact.planRootId.text) = none) :
      FactStep state contents runId (.planRootAccepted fact)
        (enterExecution (fact.planValue runId).planState
          (insertAt state contents .plans fact.planRootId.text (.plan (fact.planValue runId))))
        (putAt contents .plans fact.planRootId.text (.plan (fact.planValue runId)))
  | planRootSuperseded (fact : PlanRootSuperseded)
      (current : state.currentPlan.map CurrentPlanState.planRootId = some fact.priorPlanRootId)
      (distinct : fact.newPlanRootId ≠ fact.priorPlanRootId) (target prior : PlanIndexValue)
      (targetStored : contents .plans (indexKey .plans fact.newPlanRootId.text) = some (.plan target))
      (targetCurrent : target.supersededBy = none)
      (priorStored : contents .plans (indexKey .plans fact.priorPlanRootId.text) = some (.plan prior))
      (priorCurrent : prior.supersededBy = none) :
      FactStep state contents runId (.planRootSuperseded fact)
        (switchPlan target
          (insertAt state contents .plans fact.priorPlanRootId.text
            (.plan { prior with supersededBy := some fact.newPlanRootId })))
        (putAt contents .plans fact.priorPlanRootId.text (.plan { prior with supersededBy := some fact.newPlanRootId }))
  | blockingFindingAccepted (correction : CorrectionAssignment) (finding : Finding)
      (sameRun : finding.runId = state.identity.runId) (blocking : blockingKind finding.kind = true) (plan : CurrentPlanState)
      (current : state.currentPlan = some plan) (samePlan : correction.work.planRootId = plan.planRootId)
      (sameOwner : correction.originalOwnerWorkItemId = expectedOwner plan finding) (owner : WorkIndexValue)
      (ownerStored : StoredWork contents (expectedOwner plan finding) owner)
      (workAbsent : contents .work (indexKey .work correction.correctorWorkItemId.text) = none)
      (findingAbsent : contents .findings (indexKey .findings finding.findingId.text) = none) :
      FactStep state contents runId (.findingAccepted (.blockingWithCorrection correction finding))
        (noteFinding finding
          (insertAt
            (incrementCounter (insertAt state contents .work correction.correctorWorkItemId.text (correctionValue correction))
              .declaredWork)
            (putAt contents .work correction.correctorWorkItemId.text (correctionValue correction)) .findings
            finding.findingId.text (openFinding finding (some correction.correctorWorkItemId))))
        (putAt (putAt contents .work correction.correctorWorkItemId.text (correctionValue correction)) .findings
          finding.findingId.text (openFinding finding (some correction.correctorWorkItemId)))
  | nonblockingFindingAccepted (finding : Finding) (sameRun : finding.runId = state.identity.runId)
      (nonblocking : blockingKind finding.kind = false)
      (planning : finding.kind = .planningGap → state.phase = .planning ∧ state.currentPlan = none)
      (absent : contents .findings (indexKey .findings finding.findingId.text) = none) :
      FactStep state contents runId (.findingAccepted (.nonblocking finding))
        (noteFinding finding (insertAt state contents .findings finding.findingId.text (openFinding finding none)))
        (putAt contents .findings finding.findingId.text (openFinding finding none))
  | findingCleared (fact : FindingCleared) (prior : FindingIndexValue)
      (stored : contents .findings (indexKey .findings fact.findingId.text) = some (.finding prior))
      (isOpen : prior.status = .open) (after : RunState)
      (uncounted : FindingUncounted prior.finding
        (insertAt state contents .findings fact.findingId.text (clearedFinding prior fact.resolution)) after) :
      FactStep state contents runId (.findingCleared fact) after
        (putAt contents .findings fact.findingId.text (clearedFinding prior fact.resolution))
  | evidenceObserved (evidence : EvidenceFact) (sameRun : evidence.envelope.runId = state.identity.runId)
      (sameDigest : evidence.envelopeDigest = evidenceEnvelopeDigest evidence.envelope)
      (absent : contents .evidence (indexKey .evidence evidence.envelope.evidenceId.text) = none) :
      FactStep state contents runId (.evidenceObserved evidence)
        (incrementCounter (insertAt state contents .evidence evidence.envelope.evidenceId.text (.evidence evidence))
          .observedEvidence)
        (putAt contents .evidence evidence.envelope.evidenceId.text (.evidence evidence))
  | routeVerificationObserved (fact : RouteVerificationObserved)
      (sameObservation : fact.observationId = fact.observation.observationId) :
      FactStep state contents runId (.routeVerificationObserved fact) state contents
  | candidateAccepted (fact : CandidateAccepted)
      (inPlan : state.currentPlan.map CurrentPlanState.planRootId = some fact.planRootId)
      (absent : contents .candidates (indexKey .candidates fact.candidateId.text) = none) :
      FactStep state contents runId (.candidateAccepted fact)
        (selectCandidate (fact.candidateValue runId).candidateState
          (insertAt state contents .candidates fact.candidateId.text (.candidate (fact.candidateValue runId))))
        (putAt contents .candidates fact.candidateId.text (.candidate (fact.candidateValue runId)))
  | publicationIntended (fact : PublicationIntended)
      (forCandidate : state.currentCandidate.map CurrentCandidateState.candidateId = some fact.candidateId)
      (sameRepository : fact.repository = state.identity.repository)
      (sameRef : fact.publicationRef = state.identity.publicationRef)
      (absent : contents .publications (indexKey .publications fact.publicationId.text) = none) :
      FactStep state contents runId (.publicationIntended fact)
        (selectPublication fact.publicationState
          (insertAt state contents .publications fact.publicationId.text (.publication (fact.publicationValue runId))))
        (putAt contents .publications fact.publicationId.text (.publication (fact.publicationValue runId)))
  | publicationObserved (fact : PublicationObserved) (publication : CurrentPublicationState) (candidate : CurrentCandidateState)
      (isCurrent : state.currentPublication = some publication) (hasCandidate : state.currentCandidate = some candidate)
      (samePublication : publication.publicationId = fact.publicationId) (sameTree : fact.tree = candidate.tree)
      (sameGitTree : fact.gitTree = candidate.gitTree)
      (atHead : fact.status = .desiredHead → fact.observedHead = some publication.desiredHead)
      (offHead : fact.status = .headMoved → fact.observedHead ≠ some publication.desiredHead) (prior : PublicationIndexValue)
      (stored : contents .publications (indexKey .publications fact.publicationId.text) = some (.publication prior))
      (intended : prior.status = .intended) :
      FactStep state contents runId (.publicationObserved fact)
        (noteObservation publication fact
          (insertAt state contents .publications fact.publicationId.text (.publication (observedValue prior fact))))
        (putAt contents .publications fact.publicationId.text (.publication (observedValue prior fact)))
  | finalAttestationsRecorded (fact : FinalAttestationsRecorded)
      (forCandidate : state.currentCandidate.map CurrentCandidateState.candidateId = some fact.candidateId)
      (forPublication : state.currentPublication.map CurrentPublicationState.publicationId = some fact.publicationId)
      (sameEvidence : fact.evidenceIndexRoot = (state.indexes .evidence).root)
      (complete : (state.indexes .commands).hotComplete = true)
      (quiet : ∀ entry ∈ (state.indexes .commands).hot, pendingBesides fact.publicationId entry.2 = false) :
      FactStep state contents runId (.finalAttestationsRecorded fact)
        { state with finalAttestations := some fact.attestationState } contents

-- The indexes a fact writes.
def writtenIndexes : FactBody → List IndexName
  | .requirementsBound _ | .atomInventorySealed _ | .routeVerificationObserved _ | .finalAttestationsRecorded _ => []
  | .atomDeclared _ => [.atoms]
  | .atomDispositioned _ => [.dispositions]
  | .workDeclared _ => [.work]
  | .dependencyDeclared _ => [.dependencies]
  | .workOutputAccepted _ => [.work, .submissions]
  | .planRootAccepted _ | .planRootSuperseded _ => [.plans]
  | .findingAccepted (.blockingWithCorrection _ _) => [.work, .findings]
  | .findingAccepted (.nonblocking _) | .findingCleared _ => [.findings]
  | .evidenceObserved _ => [.evidence]
  | .candidateAccepted _ => [.candidates]
  | .publicationIntended _ | .publicationObserved _ => [.publications]

variable {body : FactBody} {after state : RunState} {runId : RunId} {finding : Finding}

omit [Hashing] in
theorem log_indexes_unwritten : .commands ∉ writtenIndexes body ∧ .actions ∉ writtenIndexes body := by
  cases body with
  | findingAccepted acceptance => cases acceptance <;> exact ⟨by simp [writtenIndexes], by simp [writtenIndexes]⟩
  | _ => exact ⟨by simp [writtenIndexes], by simp [writtenIndexes]⟩

theorem fact_step_unwritten {contents maps : Contents}
    (step : FactStep state contents runId body after maps) (name : IndexName) (unwritten : name ∉ writtenIndexes body) :
    maps name = contents name := by
  cases step with
  | requirementsBound | atomInventorySealed | routeVerificationObserved | finalAttestationsRecorded => rfl
  | atomDeclared | atomDispositioned | workDeclared | dependencyDeclared | planRootAccepted | planRootSuperseded
  | nonblockingFindingAccepted | findingCleared | evidenceObserved | candidateAccepted | publicationIntended
  | publicationObserved => exact put_other (List.ne_of_not_mem_cons unwritten)
  | workOutputAccepted | blockingFindingAccepted =>
    rw [putAt, putAt, put_other (List.ne_of_not_mem_cons (List.not_mem_of_not_mem_cons unwritten)),
      put_other (List.ne_of_not_mem_cons unwritten)]

-- The plan, candidate, publication and attestations in force.
structure SameSelection (before after : RunState) : Prop where
  plan : after.currentPlan = before.currentPlan
  candidate : after.currentCandidate = before.currentCandidate
  publication : after.currentPublication = before.currentPublication
  attestations : after.finalAttestations = before.finalAttestations

-- What a record writes after its facts, and the identity nothing ever writes.
structure SameEnvelope (before after : RunState) : Prop where
  identity : after.identity = before.identity
  lastSequence : after.lastSequence = before.lastSequence
  suspension : after.suspension = before.suspension
  terminal : after.terminal = before.terminal

omit [Hashing] in
theorem same_envelope_trans {before middle : RunState} (first : SameEnvelope before middle)
    (second : SameEnvelope middle after) : SameEnvelope before after :=
  ⟨second.identity.trans first.identity, second.lastSequence.trans first.lastSequence,
    second.suspension.trans first.suspension, second.terminal.trans first.terminal⟩

omit [Hashing] in
theorem note_finding_same : SameSelection state (noteFinding finding state) ∧ SameEnvelope state (noteFinding finding state) := by
  cases finding <;> exact ⟨⟨rfl, rfl, rfl, rfl⟩, rfl, rfl, rfl, rfl⟩

omit [Hashing] in
theorem finding_uncounted_same
    (uncounted : FindingUncounted finding state after) : SameSelection state after ∧ SameEnvelope state after := by
  rw [FindingUncounted] at uncounted
  split at uncounted
  · rw [uncounted]
    exact ⟨⟨rfl, rfl, rfl, rfl⟩, rfl, rfl, rfl, rfl⟩
  · rw [decrementCounter] at uncounted
    obtain ⟨next, _, rfl⟩ := Option.map_eq_some_iff.mp uncounted
    exact ⟨⟨rfl, rfl, rfl, rfl⟩, rfl, rfl, rfl, rfl⟩

def changesSelection : FactBody → Bool
  | .planRootAccepted _ | .planRootSuperseded _ | .candidateAccepted _ | .publicationIntended _ | .publicationObserved _
  | .finalAttestationsRecorded _ => true
  | _ => false

theorem fact_step_selection {contents maps : Contents}
    (step : FactStep state contents runId body after maps) (unchanged : changesSelection body = false) :
    SameSelection state after := by
  cases step with
  | requirementsBound | atomInventorySealed | routeVerificationObserved | atomDeclared | atomDispositioned | workDeclared
  | dependencyDeclared | workOutputAccepted | evidenceObserved => exact ⟨rfl, rfl, rfl, rfl⟩
  | blockingFindingAccepted correction finding =>
    obtain ⟨plan, candidate, publication, attestations⟩ := (note_finding_same).1
    exact ⟨plan, candidate, publication, attestations⟩
  | nonblockingFindingAccepted finding =>
    obtain ⟨plan, candidate, publication, attestations⟩ := (note_finding_same).1
    exact ⟨plan, candidate, publication, attestations⟩
  | findingCleared fact prior stored isOpen _ uncounted =>
    obtain ⟨plan, candidate, publication, attestations⟩ := (finding_uncounted_same uncounted).1
    exact ⟨plan, candidate, publication, attestations⟩
  | planRootAccepted | planRootSuperseded | candidateAccepted | publicationIntended | publicationObserved
  | finalAttestationsRecorded => cases unchanged

theorem fact_step_envelope {contents maps : Contents}
    (step : FactStep state contents runId body after maps) : SameEnvelope state after := by
  cases step with
  | requirementsBound | atomInventorySealed | routeVerificationObserved | finalAttestationsRecorded | atomDeclared
  | atomDispositioned | workDeclared | dependencyDeclared | workOutputAccepted | evidenceObserved | planRootAccepted
  | planRootSuperseded | candidateAccepted | publicationIntended | publicationObserved => exact ⟨rfl, rfl, rfl, rfl⟩
  | blockingFindingAccepted correction finding =>
    obtain ⟨identity, lastSequence, suspension, terminal⟩ := (note_finding_same).2
    exact ⟨identity, lastSequence, suspension, terminal⟩
  | nonblockingFindingAccepted finding =>
    obtain ⟨identity, lastSequence, suspension, terminal⟩ := (note_finding_same).2
    exact ⟨identity, lastSequence, suspension, terminal⟩
  | findingCleared fact prior stored isOpen _ uncounted =>
    obtain ⟨identity, lastSequence, suspension, terminal⟩ := (finding_uncounted_same uncounted).2
    exact ⟨identity, lastSequence, suspension, terminal⟩

end FactStep

end PiAutopilot.Authority
