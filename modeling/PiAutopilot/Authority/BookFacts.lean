import PiAutopilot.Authority.Book

set_option autoImplicit false

namespace PiAutopilot.Authority

open Protocol

section BookFacts

variable [Hashing] (state : RunState) (book : Book) (orderly : Orderly book)

-- The fact is accepted on the listed state and leads to the other listed state.
def Leads (fact : DomainFact) (pages : List IndexPage) (after : RunState) (next : Book) : Prop :=
  ∃ mutations, foldDomainFact (onBook state book) fact pages none = .ok ⟨onBook after next, mutations⟩

theorem leads_of_apply {state : RunState} (after : RunState) (book next : Book) (fact : DomainFact) (pages : List IndexPage)
    (mutations : List IndexMutation) (cursor : Nat)
    (applied : applySemanticFact (onBook state book) fact ⟨pages, none, [], 0⟩ =
      .ok ⟨onBook after next, ⟨pages, none, mutations, cursor⟩⟩) : Leads state book fact pages after next := by
  refine ⟨mutations, ?_⟩
  rw [foldDomainFact, applied]
  rfl

variable (pages : List IndexPage)

theorem requirements_bound_leads (fact : RequirementsBound)
    (unbound : state.requirements = none) (task : fact.taskRoot = state.identity.taskSnapshot) :
    Leads state book ⟨state.identity.runId, .requirementsBound fact⟩ pages
      { state with requirements := some (boundRequirements (onBook state book) fact) } book := by
  refine leads_of_apply _ _ _ _ _ [] 0 ?_
  simp only [applySemanticFact, applyRequirementsBound, on_book_identity, on_book_requirements, unbound, task, ne_eq,
    not_true_eq_false, Option.isSome_none, Bool.false_eq_true, or_self, if_false]
  rfl

include orderly

theorem atom_declared_leads (atom : Atom)
    (opened : (state.requirements.all fun requirements => requirements.inventorySealed) = false)
    (run : atom.runId = state.identity.runId) (absent : entryOf book .atoms (indexKey .atoms atom.atomId.text) = none)
    (room : (book .atoms).length < maxHotIndexValues) :
    Leads state book ⟨state.identity.runId, .atomDeclared atom⟩ pages (incrementCounter state .declaredAtoms)
      (enter book .atoms (indexKey .atoms atom.atomId.text) (.atom atom)) := by
  obtain ⟨mutation, moved⟩ := on_book_insert state book orderly pages [] 0 (.atom atom) "duplicate-atom"
    (js "atom " ++ atom.atomId.text ++ js " already exists") absent room
  refine leads_of_apply _ _ _ _ _ [mutation] 1 ?_
  simp only [applySemanticFact, applyAtomDeclared, on_book_identity, on_book_requirements, opened, run, moved, ne_eq,
    not_true_eq_false, Bool.false_eq_true, or_self, if_false]
  rfl

omit orderly in
theorem atom_inventory_sealed_leads (fact : AtomInventorySealed)
    (requirements : RequirementsState) (bound : state.requirements = some requirements)
    (opened : requirements.inventorySealed = false) (root : fact.atomIndexRoot = (pageOf .atoms (book .atoms)).root)
    (count : fact.atomCount = .ofNat (book .atoms).length) (declared : fact.atomCount = requirements.declaredAtomCount) :
    Leads state book ⟨state.identity.runId, .atomInventorySealed fact⟩ pages
      { state with requirements := some (sealedRequirements requirements fact) } book := by
  refine leads_of_apply _ _ _ _ _ [] 0 ?_
  have sealable : ¬(requirements.inventorySealed ∨ fact.atomIndexRoot ≠ ((onBook state book).indexes .atoms).root ∨
      fact.atomCount ≠ ((onBook state book).indexes .atoms).count ∨ fact.atomCount ≠ requirements.declaredAtomCount) := by
    rintro (closed | otherRoot | otherCount | undeclared)
    · rw [opened] at closed
      cases closed
    · exact otherRoot root
    · exact otherCount count
    · exact undeclared declared
  simp only [applySemanticFact, applyAtomInventorySealed, on_book_identity, on_book_requirements, bound, ne_eq, not_true_eq_false, if_false]
  rw [if_neg sealable]
  rfl

theorem current_plan_work_listed {pages : List IndexPage} {planRootId : PlanRootId} {workItems : List WorkItemId}
    (planned : ∀ workItemId ∈ workItems, ∃ work, entryOf book .work (indexKey .work workItemId.text) = some (.work work) ∧
      work.workItem.planRootId = planRootId) :
    currentPlanWork (onBook state book) pages planRootId workItems = .ok () := by
  induction workItems with
  | nil => rfl
  | cons workItemId rest ih =>
    obtain ⟨work, listed, plan⟩ := planned workItemId List.mem_cons_self
    rw [currentPlanWork, on_book_lookup_value state book orderly, listed]
    simp only [plan, if_true]
    exact ih fun later member => planned later (List.mem_cons_of_mem _ member)

theorem atom_dispositioned_leads {disposition : AtomDisposition} (atom : Atom) (plan : CurrentPlanState)
    (isSealed : (state.requirements.any fun requirements => requirements.inventorySealed) = true)
    (listed : entryOf book .atoms (indexKey .atoms disposition.atomId.text) = some (.atom atom))
    (legal : dispositionIsLegal atom disposition = true) (current : state.currentPlan = some plan)
    (meaning : disposition.meaning.planRootId = plan.planRootId)
    (planned : ∀ workItemId ∈ implementingWork disposition.meaning.kind,
      ∃ work, entryOf book .work (indexKey .work workItemId.text) = some (.work work) ∧ work.workItem.planRootId = plan.planRootId)
    (absent : entryOf book .dispositions (indexKey .dispositions disposition.atomId.text) = none)
    (room : (book .dispositions).length < maxHotIndexValues) :
    Leads state book ⟨state.identity.runId, .atomDispositioned disposition⟩ pages (incrementCounter state .dispositionedAtoms)
      (enter book .dispositions (indexKey .dispositions disposition.atomId.text) (.disposition disposition)) := by
  obtain ⟨mutation, moved⟩ := on_book_insert state book orderly pages [] 0
    (.disposition disposition) "duplicate-disposition" (js "atom already has a disposition") absent room
  refine leads_of_apply _ _ _ _ _ [mutation] 1 ?_
  simp only [applySemanticFact, applyAtomDispositioned, on_book_identity, on_book_requirements, on_book_current_plan, isSealed,
    on_book_lookup_value state book orderly, listed, legal, current, meaning,
    current_plan_work_listed state book orderly planned, moved, ne_eq, not_true_eq_false, Bool.not_true,
    Bool.false_eq_true, if_false]
  rfl

theorem work_declared_leads
    (workItem : WorkItem) (run : workItem.runId = state.identity.runId) (task : workItem.taskRoot = state.identity.taskSnapshot)
    (planned : state.phase = .execution → state.currentPlan.map CurrentPlanState.planRootId = some workItem.planRootId)
    (absent : entryOf book .work (indexKey .work workItem.workItemId.text) = none)
    (room : (book .work).length < maxHotIndexValues) :
    Leads state book ⟨state.identity.runId, .workDeclared workItem⟩ pages (incrementCounter state .declaredWork)
      (enter book .work (indexKey .work workItem.workItemId.text) (.work ⟨none, workItem⟩)) := by
  obtain ⟨mutation, moved⟩ := on_book_insert state book orderly pages [] 0
    (.work ⟨none, workItem⟩) "duplicate-work-item" (js "work item already exists") absent room
  refine leads_of_apply _ _ _ _ _ [mutation] 1 ?_
  have current : ¬(state.phase = .execution ∧
      state.currentPlan.map CurrentPlanState.planRootId ≠ some workItem.planRootId) := fun both => both.2 (planned both.1)
  simp only [applySemanticFact, applyWorkDeclared, on_book_identity, on_book_phase, on_book_current_plan, run, task, current,
    moved, ne_eq, not_true_eq_false, or_self, if_false]
  rfl

theorem plan_root_accepted_leads
    (fact : PlanRootAccepted) (author : WorkIndexValue) {owner : WorkIndexValue} (planning : state.phase = .planning)
    (unplanned : state.currentPlan = none)
    (authored : entryOf book .work (indexKey .work fact.planAuthorWorkItemId.text) = some (.work author))
    (owned : entryOf book .work (indexKey .work fact.integrationOwnerWorkItemId.text) = some (.work owner))
    (absent : entryOf book .plans (indexKey .plans fact.planRootId.text) = none)
    (room : (book .plans).length < maxHotIndexValues) :
    Leads state book ⟨state.identity.runId, .planRootAccepted fact⟩ pages
      (enterExecution (fact.planValue state.identity.runId).planState state)
      (enter book .plans (indexKey .plans fact.planRootId.text) (.plan (fact.planValue state.identity.runId))) := by
  obtain ⟨mutation, moved⟩ := on_book_insert state book orderly pages [] 0
    (.plan (fact.planValue state.identity.runId)) "duplicate-plan-root" (js "plan root already exists") absent room
  refine leads_of_apply _ _ _ _ _ [mutation] 1 ?_
  simp only [applySemanticFact, applyPlanRootAccepted, on_book_identity, on_book_phase, on_book_current_plan, planning, unplanned,
    on_book_lookup_value state book orderly, authored, owned, moved, ne_eq, not_true_eq_false, Option.isSome_none,
    Bool.false_eq_true, or_self, if_false]
  rfl

theorem candidate_accepted_leads
    (fact : CandidateAccepted) (planned : state.currentPlan.map CurrentPlanState.planRootId = some fact.planRootId)
    (absent : entryOf book .candidates (indexKey .candidates fact.candidateId.text) = none)
    (room : (book .candidates).length < maxHotIndexValues) :
    Leads state book ⟨state.identity.runId, .candidateAccepted fact⟩ pages
      (selectCandidate (fact.candidateValue state.identity.runId).candidateState state)
      (enter book .candidates (indexKey .candidates fact.candidateId.text) (.candidate (fact.candidateValue state.identity.runId))) := by
  obtain ⟨mutation, moved⟩ := on_book_insert state book orderly pages [] 0
    (.candidate (fact.candidateValue state.identity.runId)) "duplicate-candidate" (js "candidate already exists") absent room
  refine leads_of_apply _ _ _ _ _ [mutation] 1 ?_
  simp only [applySemanticFact, applyCandidateAccepted, on_book_identity, on_book_current_plan, planned, moved, ne_eq,
    not_true_eq_false, if_false]
  rfl

theorem publication_intended_leads (fact : PublicationIntended)
    (current : state.currentCandidate.map CurrentCandidateState.candidateId = some fact.candidateId)
    (repository : fact.repository = state.identity.repository)
    (reference : fact.publicationRef = state.identity.publicationRef)
    (absent : entryOf book .publications (indexKey .publications fact.publicationId.text) = none)
    (room : (book .publications).length < maxHotIndexValues) :
    Leads state book ⟨state.identity.runId, .publicationIntended fact⟩ pages (selectPublication fact.publicationState state)
      (enter book .publications (indexKey .publications fact.publicationId.text)
        (.publication (fact.publicationValue state.identity.runId))) := by
  obtain ⟨mutation, moved⟩ := on_book_insert state book orderly pages [] 0
    (.publication (fact.publicationValue state.identity.runId)) "duplicate-publication" (js "publication already exists")
    absent room
  refine leads_of_apply _ _ _ _ _ [mutation] 1 ?_
  simp only [applySemanticFact, applyPublicationIntended, on_book_identity, on_book_current_candidate, current, repository,
    reference, moved, ne_eq, not_true_eq_false, or_self, if_false]
  rfl

theorem publication_observed_leads
    (fact : PublicationObserved) (publication : CurrentPublicationState) (candidate : CurrentCandidateState)
    {prior : PublicationIndexValue} (selected : state.currentPublication = some publication)
    (chosen : state.currentCandidate = some candidate) (same : publication.publicationId = fact.publicationId)
    (tree : fact.tree = candidate.tree) (gitTree : fact.gitTree = candidate.gitTree)
    (reached : fact.status = .desiredHead) (head : fact.observedHead = some publication.desiredHead)
    (listed : entryOf book .publications (indexKey .publications fact.publicationId.text) = some (.publication prior))
    (intended : prior.status = .intended) (room : (book .publications).length < maxHotIndexValues) :
    Leads state book ⟨state.identity.runId, .publicationObserved fact⟩ pages (noteObservation publication fact state)
      (enter book .publications (indexKey .publications fact.publicationId.text) (.publication (observedValue prior fact))) := by
  have derived : observePublication fact (entryOf book .publications (indexKey .publications fact.publicationId.text)) =
      .next (some (.publication (observedValue prior fact))) := by
    simp [listed, observePublication, intended]
  obtain ⟨mutation, moved⟩ := on_book_mutate state book orderly pages [] 0 derived room
  refine leads_of_apply _ _ _ _ _ [mutation] 1 ?_
  simp only [applySemanticFact, applyPublicationObserved, on_book_identity, on_book_current_publication,
    on_book_current_candidate, selected, chosen, same, tree, gitTree, reached, head, moved, ne_eq, not_true_eq_false, or_self,
    and_false, reduceCtorEq, false_and, if_false]
  rfl

theorem evidence_observed_leads (evidence : EvidenceFact) (run : evidence.envelope.runId = state.identity.runId)
    (bound : evidence.envelopeDigest = evidenceEnvelopeDigest evidence.envelope)
    (absent : entryOf book .evidence (indexKey .evidence evidence.envelope.evidenceId.text) = none)
    (room : (book .evidence).length < maxHotIndexValues) :
    Leads state book ⟨state.identity.runId, .evidenceObserved evidence⟩ pages (incrementCounter state .observedEvidence)
      (enter book .evidence (indexKey .evidence evidence.envelope.evidenceId.text) (.evidence evidence)) := by
  obtain ⟨mutation, moved⟩ := on_book_insert state book orderly pages [] 0
    (.evidence evidence) "duplicate-evidence" (js "evidence already exists") absent room
  refine leads_of_apply _ _ _ _ _ [mutation] 1 ?_
  simp only [applySemanticFact, applyEvidenceObserved, on_book_identity, run, bound, moved, ne_eq, not_true_eq_false, if_false]
  rfl

omit orderly in
theorem final_attestations_leads (fact : FinalAttestationsRecorded)
    (candidate : state.currentCandidate.map CurrentCandidateState.candidateId = some fact.candidateId)
    (publication : state.currentPublication.map CurrentPublicationState.publicationId = some fact.publicationId)
    (root : fact.evidenceIndexRoot = (pageOf .evidence (book .evidence)).root)
    (settled : ((book .commands).any fun entry => pendingBesides fact.publicationId entry.2) = false) :
    Leads state book ⟨state.identity.runId, .finalAttestationsRecorded fact⟩ pages
      { state with finalAttestations := some fact.attestationState } book := by
  refine leads_of_apply _ _ _ _ _ [] 0 ?_
  have rooted : fact.evidenceIndexRoot = ((onBook state book).indexes .evidence).root := root
  simp only [applySemanticFact, applyFinalAttestationsRecorded, on_book_identity, on_book_current_candidate,
    on_book_current_publication, candidate, publication, rooted, on_book_hot_complete, on_book_hot, settled, ne_eq,
    not_true_eq_false, or_self, Bool.not_true, Bool.false_eq_true, if_false]
  rfl

theorem work_output_accepted_leads {pages : List IndexPage} (fact : WorkOutputAccepted) (prior : WorkIndexValue)
    (planned : state.currentPlan.map CurrentPlanState.planRootId = some fact.planRootId)
    (listed : entryOf book .work (indexKey .work fact.workItemId.text) = some (.work prior))
    (input : prior.workItem.inputRoot = fact.inputRoot) (waiting : prior.acceptedOutput = none)
    (absent : entryOf book .submissions (indexKey .submissions fact.submissionId.text) = none)
    (room : (book .work).length < maxHotIndexValues) (submissionRoom : (book .submissions).length < maxHotIndexValues) :
    Leads state book ⟨state.identity.runId, .workOutputAccepted fact⟩ pages (incrementCounter state .acceptedWork)
      (enter (enter book .work (indexKey .work fact.workItemId.text) (.work { prior with acceptedOutput := some fact.acceptedOutput }))
        .submissions (indexKey .submissions fact.submissionId.text)
        (.submission ⟨fact.acceptedOutput, fact.planRootId, state.identity.runId, fact.workItemId⟩)) := by
  have derived : acceptOutput fact.inputRoot fact.acceptedOutput (entryOf book .work (indexKey .work fact.workItemId.text)) =
      .next (some (.work { prior with acceptedOutput := some fact.acceptedOutput })) := by
    simp [listed, acceptOutput, input, waiting]
  obtain ⟨accepted, first⟩ := on_book_mutate state book orderly pages [] 0 derived room
  have orderly' := enter_orderly orderly (indexKey .work fact.workItemId.text)
    (.work { prior with acceptedOutput := some fact.acceptedOutput }) room
  obtain ⟨inserted, second⟩ := on_book_insert state _ orderly' pages [accepted] 1
    (.submission ⟨fact.acceptedOutput, fact.planRootId, state.identity.runId, fact.workItemId⟩) "duplicate-submission"
    (js "submission already exists") absent submissionRoom
  refine leads_of_apply _ _ _ _ _ [accepted, inserted] 2 ?_
  simp only [applySemanticFact, applyWorkOutputAccepted, on_book_identity, on_book_current_plan, planned, first, ne_eq,
    not_true_eq_false, if_false]
  show (mutate _ ⟨pages, none, [accepted], 1⟩ _ _ _).map _ = _
  rw [second]
  rfl

theorem dependency_declared_leads
    (fact : DependencyDeclared) {dependent : WorkIndexValue} (dependency : WorkIndexValue) (distinct : fact.dependency ≠ fact.dependent)
    (dependentListed : entryOf book .work (indexKey .work fact.dependent.text) = some (.work dependent))
    (dependencyListed : entryOf book .work (indexKey .work fact.dependency.text) = some (.work dependency))
    (dependentPlan : dependent.workItem.planRootId = fact.planRootId)
    (dependencyPlan : dependency.workItem.planRootId = fact.planRootId)
    (ranked : compareDecimalNatural dependency.workItem.topologicalRank dependent.workItem.topologicalRank = .less)
    (noReverse : entryOf book .dependencies (indexKey .dependencies (edgeIdentity fact.dependent fact.dependency)) = none)
    (absent : entryOf book .dependencies (indexKey .dependencies (edgeIdentity fact.dependency fact.dependent)) = none)
    (room : (book .dependencies).length < maxHotIndexValues) :
    Leads state book ⟨state.identity.runId, .dependencyDeclared fact⟩ pages state
      (enter book .dependencies (indexKey .dependencies (edgeIdentity fact.dependency fact.dependent))
        (.dependency ⟨fact.dependency, fact.dependent, fact.planRootId, state.identity.runId⟩)) := by
  obtain ⟨mutation, moved⟩ := on_book_insert state book orderly pages [] 0
    (.dependency ⟨fact.dependency, fact.dependent, fact.planRootId, state.identity.runId⟩) "duplicate-dependency"
    (js "dependency edge already exists") absent room
  refine leads_of_apply _ _ _ _ _ [mutation] 1 ?_
  simp only [applySemanticFact, applyDependencyDeclared, on_book_identity, distinct, on_book_lookup_value state book orderly,
    dependentListed, dependencyListed, dependentPlan, dependencyPlan, ranked, noReverse, ne_eq, not_true_eq_false, or_self,
    if_false, moved]
  rfl

-- A blocking finding together with the work that corrects it.
theorem correction_leads (correction : CorrectionAssignment) (finding : Finding) {plan : CurrentPlanState} (owner : WorkIndexValue)
    (run : finding.runId = state.identity.runId) (blocking : blockingKind finding.kind = true)
    (current : state.currentPlan = some plan) (samePlan : correction.work.planRootId = plan.planRootId)
    (sameOwner : correction.originalOwnerWorkItemId = expectedOwner plan finding)
    (owned : entryOf book .work (indexKey .work (expectedOwner plan finding).text) = some (.work owner))
    (absent : entryOf book .work (indexKey .work correction.correctorWorkItemId.text) = none)
    (unfound : entryOf book .findings (indexKey .findings finding.findingId.text) = none)
    (room : (book .work).length < maxHotIndexValues) (findingRoom : (book .findings).length < maxHotIndexValues) :
    Leads state book ⟨state.identity.runId, .findingAccepted (.blockingWithCorrection correction finding)⟩ pages
      (noteFinding finding (incrementCounter state .declaredWork))
      (enter (enter book .work (indexKey .work correction.correctorWorkItemId.text) (.work ⟨none, correction.work.workItem⟩))
        .findings (indexKey .findings finding.findingId.text)
        (.finding ⟨some correction.correctorWorkItemId, finding, none, .open⟩)) := by
  obtain ⟨declared, first⟩ := on_book_insert state book orderly pages [] 0
    (.work ⟨none, correction.work.workItem⟩) "duplicate-work-item" (js "correction work already exists") absent room
  have orderly' := enter_orderly orderly (indexKey .work correction.correctorWorkItemId.text) (.work ⟨none, correction.work.workItem⟩) room
  obtain ⟨noted, second⟩ := on_book_insert (incrementCounter state .declaredWork) _ orderly' pages [declared] 1 (.finding ⟨some correction.correctorWorkItemId, finding, none, .open⟩) "duplicate-finding"
    (js "finding already exists") unfound findingRoom
  have checked : checkFinding (onBook state book) pages finding = .ok () := by
    cases finding with
    | planningGap gap => cases blocking
    | integrity body | definitionOfDone body | advisory body => rfl
  have corrected : declareCorrection (onBook state book) correction finding ⟨pages, none, [], 0⟩ =
      .ok ⟨onBook (incrementCounter state .declaredWork)
        (enter book .work (indexKey .work correction.correctorWorkItemId.text) (.work ⟨none, correction.work.workItem⟩)),
        ⟨pages, none, [declared], 1⟩⟩ := by
    simp only [declareCorrection, on_book_current_plan, current, samePlan, sameOwner, on_book_lookup_value state book orderly,
      owned, ne_eq, not_true_eq_false, if_false, first]
    rfl
  refine leads_of_apply _ _ _ _ _ [declared, noted] 2 ?_
  simp only [applySemanticFact, applyFindingAccepted, AcceptedFinding.finding, on_book_identity, run, blocking, ne_eq,
    not_true_eq_false, if_false, if_true, checked, corrected]
  show recordFinding finding (some correction.correctorWorkItemId) _ = _
  rw [recordFinding, second]
  cases finding with
  | planningGap gap => cases blocking
  | integrity body | definitionOfDone body | advisory body => rfl

end BookFacts

end PiAutopilot.Authority
