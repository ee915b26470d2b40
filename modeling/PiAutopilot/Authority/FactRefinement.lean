import PiAutopilot.Authority.FactStep
import PiAutopilot.Lib.Fallible

set_option autoImplicit false

namespace PiAutopilot.Authority

open Lib Protocol

section Refinement

variable [Hashing]

-- A progress whose state is the result of a step and reads as the step's maps.
def Steps (state : RunState) (contents : Contents) (runId : RunId) (body : FactBody) (after : RunState) : Prop :=
  ∃ contents', FactStep state contents runId body after contents' ∧ Reads after contents'

variable {state : RunState} {contents : Contents}

theorem reads_insert (reads : Reads state contents) (name : IndexName) (identity : JsString) (value : IndexValue) :
    Reads (insertAt state contents name identity value) (putAt contents name identity value) :=
  reads_write state contents reads

theorem reads_increment (reads : Reads state contents) (name : CounterName) : Reads (incrementCounter state name) contents :=
  reads_of_indexes state _ reads rfl

theorem reads_note_finding (reads : Reads state contents) (finding : Finding) : Reads (noteFinding finding state) contents := by
  refine reads_of_indexes state _ reads ?_
  cases finding <;> rfl

section Facts

variable (collisionFree : CollisionFree IndexValue) (state : RunState) (contents : Contents) (reads : Reads state contents)
  (context : TransitionContext) (prepares : context.supplied = none) (runId : RunId) (progress : Progress)

include reads in
theorem requirements_bound_step {fact : RequirementsBound} (applied : applyRequirementsBound state fact context = .ok progress) :
    Steps state contents runId (.requirementsBound fact) progress.state := by
  rw [applyRequirementsBound] at applied
  obtain ⟨valid, applied⟩ := refused_ok applied
  rw [not_or, Bool.not_eq_true, Option.isSome_eq_false_iff, Option.isNone_iff_eq_none, not_not] at valid
  cases applied
  exact ⟨contents, .requirementsBound fact valid.1 valid.2, reads_of_indexes state _ reads rfl⟩

include collisionFree reads prepares in
theorem atom_declared_step (atom : Atom) (applied : applyAtomDeclared state atom context = .ok progress) :
    Steps state contents runId (.atomDeclared atom) progress.state := by
  rw [applyAtomDeclared] at applied
  obtain ⟨valid, applied⟩ := refused_ok applied
  rw [not_or, not_not] at valid
  obtain ⟨requirements, bound, unsealed⟩ : ∃ requirements, state.requirements = some requirements ∧
      requirements.inventorySealed = false := by
    cases bound : state.requirements with
    | none => simp [bound] at valid
    | some requirements => exact ⟨requirements, rfl, by simpa [bound] using valid.1⟩
  obtain ⟨⟨written, _⟩, mutation, rfl⟩ := map_ok applied
  obtain ⟨absent, rfl, _⟩ := mutate_insert_ok collisionFree reads prepares mutation
  exact ⟨putAt contents .atoms atom.atomId.text (.atom atom), .atomDeclared atom requirements bound unsealed valid.2 absent,
    reads_increment (reads_insert reads _ _ _) .declaredAtoms⟩

include reads in
theorem atom_inventory_sealed_step {fact : AtomInventorySealed} (applied : applyAtomInventorySealed state fact context = .ok progress) :
    Steps state contents runId (.atomInventorySealed fact) progress.state := by
  rw [applyAtomInventorySealed] at applied
  split at applied
  · cases applied
  · rename_i requirements bound
    obtain ⟨valid, applied⟩ := refused_ok applied
    simp only [not_or, Bool.not_eq_true, not_not] at valid
    cases applied
    exact ⟨contents, .atomInventorySealed fact requirements bound valid.1 valid.2.1 valid.2.2.1 valid.2.2.2,
      reads_of_indexes state _ reads rfl⟩

include collisionFree reads in
theorem current_plan_work_stored {planRootId : PlanRootId} {workItemIds : List WorkItemId}
    (checked : currentPlanWork state context.pages planRootId workItemIds = .ok ()) :
    ∀ workItemId ∈ workItemIds, ∃ work, StoredWork contents workItemId work ∧ work.workItem.planRootId = planRootId := by
  induction workItemIds with
  | nil => simp
  | cons workItemId rest ih =>
    rw [currentPlanWork] at checked
    split at checked
    · cases checked
    · rename_i work found
      obtain ⟨inPlan, checked⟩ := required_ok checked
      have stored := lookup_value_reads collisionFree reads found
      exact List.forall_mem_cons.mpr ⟨⟨work, stored.symm, inPlan⟩, ih checked⟩
    · cases checked

include collisionFree reads prepares

theorem atom_dispositioned_step (disposition : AtomDisposition)
    (applied : applyAtomDispositioned state disposition context = .ok progress) :
    Steps state contents runId (.atomDispositioned disposition) progress.state := by
  rw [applyAtomDispositioned] at applied
  obtain ⟨valid, applied⟩ := refused_ok applied
  obtain ⟨requirements, bound, isSealed⟩ : ∃ requirements, state.requirements = some requirements ∧
      requirements.inventorySealed = true := by
    cases bound : state.requirements with
    | none => simp [bound] at valid
    | some requirements => exact ⟨requirements, rfl, by simpa [bound] using valid⟩
  split at applied
  · cases applied
  · rename_i atom found
    have stored := (lookup_value_reads collisionFree reads found).symm
    obtain ⟨legal, applied⟩ := refused_ok applied
    rw [Bool.not_eq_true', Bool.not_eq_false] at legal
    split at applied
    · cases applied
    · rename_i plan current
      obtain ⟨samePlan, applied⟩ := refused_ok applied
      obtain ⟨_, checked, mapped⟩ := bind_ok applied
      obtain ⟨⟨written, _⟩, mutation, rfl⟩ := map_ok mapped
      obtain ⟨absent, rfl, _⟩ := mutate_insert_ok collisionFree reads prepares mutation
      exact ⟨putAt contents .dispositions disposition.atomId.text (.disposition disposition),
        .atomDispositioned disposition requirements bound isSealed atom stored legal plan current (not_not.mp samePlan)
          (current_plan_work_stored collisionFree state contents reads context checked) absent,
        reads_increment (reads_insert reads _ _ _) .dispositionedAtoms⟩
  · cases applied

theorem work_declared_step (workItem : WorkItem) (applied : applyWorkDeclared state workItem context = .ok progress) :
    Steps state contents runId (.workDeclared workItem) progress.state := by
  rw [applyWorkDeclared] at applied
  obtain ⟨valid, applied⟩ := refused_ok applied
  simp only [not_or, not_not] at valid
  obtain ⟨inPlan, applied⟩ := refused_ok applied
  obtain ⟨⟨written, _⟩, mutation, rfl⟩ := map_ok applied
  obtain ⟨absent, rfl, _⟩ := mutate_insert_ok collisionFree reads prepares mutation
  refine ⟨putAt contents .work workItem.workItemId.text (.work ⟨none, workItem⟩),
    .workDeclared workItem valid.1 valid.2 (fun execution => ?_) absent,
    reads_increment (reads_insert reads _ _ _) .declaredWork⟩
  exact not_not.mp fun outside => inPlan ⟨execution, outside⟩

theorem dependency_declared_step (fact : DependencyDeclared) (applied : applyDependencyDeclared state runId fact context = .ok progress) :
    Steps state contents runId (.dependencyDeclared fact) progress.state := by
  rw [applyDependencyDeclared] at applied
  obtain ⟨distinct, applied⟩ := refused_ok applied
  split at applied
  · rename_i dependent dependency foundDependent foundDependency
    have dependentStored := (lookup_value_reads collisionFree reads foundDependent).symm
    have dependencyStored := (lookup_value_reads collisionFree reads foundDependency).symm
    obtain ⟨samePlan, applied⟩ := refused_ok applied
    simp only [not_or, not_not] at samePlan
    obtain ⟨ranked, applied⟩ := refused_ok applied
    split at applied
    · cases applied
    · cases applied
    · rename_i reverse
      have noReverse := (lookup_value_reads collisionFree reads reverse).symm
      obtain ⟨written, _⟩ := progress
      obtain ⟨absent, rfl, _⟩ := mutate_insert_ok collisionFree reads prepares applied
      exact ⟨_, .dependencyDeclared fact distinct dependent dependency dependentStored dependencyStored samePlan.1
        samePlan.2 (not_not.mp ranked) noReverse absent, reads_insert reads _ _ _⟩
  · cases applied
  · cases applied

theorem work_output_accepted_step (fact : WorkOutputAccepted) (applied : applyWorkOutputAccepted state runId fact context = .ok progress) :
    Steps state contents runId (.workOutputAccepted fact) progress.state := by
  rw [applyWorkOutputAccepted] at applied
  obtain ⟨inPlan, applied⟩ := refused_ok applied
  obtain ⟨⟨written, middle⟩, first, mapped⟩ := bind_ok applied
  obtain ⟨next, derived, rfl, _, prepares'⟩ := mutate_ok collisionFree state reads context prepares _ _ _ _ first
  obtain ⟨prior, stored, sameInput, pending, rfl⟩ : ∃ prior, StoredWork contents fact.workItemId prior ∧
      prior.workItem.inputRoot = fact.inputRoot ∧ prior.acceptedOutput = none ∧
      next = some (acceptedWorkValue prior fact) := by
    rw [acceptOutput.eq_def] at derived
    split at derived
    · rename_i prior stored
      split at derived
      · cases derived
      · rename_i sameInput
        split at derived
        · cases derived
        · rename_i pending
          cases derived
          exact ⟨prior, stored, not_not.mp sameInput, by simpa using pending, rfl⟩
    · cases derived
  have written := reads_insert reads .work fact.workItemId.text (acceptedWorkValue prior fact)
  obtain ⟨⟨final, _⟩, second, rfl⟩ := map_ok mapped
  obtain ⟨absent, rfl, _⟩ := mutate_insert_ok collisionFree written prepares' second
  exact ⟨_, .workOutputAccepted fact (not_not.mp inPlan) prior stored sameInput pending absent,
    reads_increment (reads_insert written _ _ _) .acceptedWork⟩

theorem plan_root_accepted_step (fact : PlanRootAccepted) (applied : applyPlanRootAccepted state runId fact context = .ok progress) :
    Steps state contents runId (.planRootAccepted fact) progress.state := by
  rw [applyPlanRootAccepted] at applied
  obtain ⟨valid, applied⟩ := refused_ok applied
  simp only [not_or, not_not, Bool.not_eq_true, Option.isSome_eq_false_iff, Option.isNone_iff_eq_none] at valid
  split at applied
  · rename_i author owner foundAuthor foundOwner
    have authorStored := (lookup_value_reads collisionFree reads foundAuthor).symm
    have ownerStored := (lookup_value_reads collisionFree reads foundOwner).symm
    obtain ⟨⟨written, _⟩, mutation, rfl⟩ := map_ok applied
    obtain ⟨absent, rfl, _⟩ := mutate_insert_ok collisionFree reads prepares mutation
    exact ⟨_, .planRootAccepted fact valid.1 valid.2 author owner authorStored ownerStored absent,
      reads_of_indexes _ _ (reads_insert reads _ _ _) rfl⟩
  · cases applied
  · cases applied

theorem plan_root_superseded_step (fact : PlanRootSuperseded) (applied : applyPlanRootSuperseded state fact context = .ok progress) :
    Steps state contents runId (.planRootSuperseded fact) progress.state := by
  rw [applyPlanRootSuperseded] at applied
  obtain ⟨valid, applied⟩ := refused_ok applied
  simp only [not_or, not_not] at valid
  split at applied
  · cases applied
  · rename_i target found
    have targetStored := (lookup_value_reads collisionFree reads found).symm
    obtain ⟨targetCurrent, applied⟩ := refused_ok applied
    obtain ⟨⟨written, _⟩, mutation, rfl⟩ := map_ok applied
    obtain ⟨next, derived, rfl, _⟩ := mutate_ok collisionFree state reads context prepares _ _ _ _ mutation
    rw [supersede.eq_def] at derived
    split at derived
    · rename_i prior priorStored
      split at derived
      · cases derived
      · rename_i priorCurrent
        cases derived
        exact ⟨_, .planRootSuperseded fact valid.1 valid.2 target prior targetStored (by simpa using targetCurrent)
          priorStored (by simpa using priorCurrent),
          reads_of_indexes _ _ (reads_insert reads .plans fact.priorPlanRootId.text
            (.plan { prior with supersededBy := some fact.newPlanRootId })) rfl⟩
    · cases derived
  · cases applied

theorem declare_correction_step {correction : CorrectionAssignment} {finding : Finding}
    (applied : declareCorrection state correction finding context = .ok progress) :
    ∃ plan owner, state.currentPlan = some plan ∧ correction.work.planRootId = plan.planRootId ∧
      correction.originalOwnerWorkItemId = expectedOwner plan finding ∧ StoredWork contents (expectedOwner plan finding) owner ∧
      contents .work (indexKey .work correction.correctorWorkItemId.text) = none ∧
      progress.state = incrementCounter (insertAt state contents .work correction.correctorWorkItemId.text
        (correctionValue correction)) .declaredWork ∧ progress.context.supplied = none := by
  rw [declareCorrection] at applied
  split at applied
  · cases applied
  · rename_i plan current
    obtain ⟨samePlan, applied⟩ := refused_ok applied
    obtain ⟨sameOwner, applied⟩ := refused_ok applied
    split at applied
    · cases applied
    · rename_i owner found
      have ownerStored := (lookup_value_reads collisionFree reads found).symm
      obtain ⟨⟨written, _⟩, mutation, rfl⟩ := map_ok applied
      obtain ⟨absent, rfl, _, prepares'⟩ := mutate_insert_ok collisionFree reads prepares mutation
      exact ⟨plan, owner, current, not_not.mp samePlan, not_not.mp sameOwner, ownerStored, absent, rfl, prepares'⟩
    · cases applied

omit collisionFree reads prepares

include collisionFree in
theorem record_finding_step {finding : Finding} {correctionWorkItemId : Option WorkItemId} {before : Progress}
    {maps : Contents} (readsBefore : Reads before.state maps) (preparesBefore : before.context.supplied = none)
    (applied : recordFinding finding correctionWorkItemId before = .ok progress) :
    maps .findings (indexKey .findings finding.findingId.text) = none ∧
      progress.state = noteFinding finding (insertAt before.state maps .findings finding.findingId.text
        (openFinding finding correctionWorkItemId)) := by
  rw [recordFinding] at applied
  obtain ⟨⟨written, _⟩, mutation, rfl⟩ := map_ok applied
  obtain ⟨absent, rfl, _⟩ := mutate_insert_ok collisionFree readsBefore preparesBefore mutation
  exact ⟨absent, rfl⟩

theorem planning_gap_checked {gap : PlanningGapFinding} (checked : checkPlanningGap state context.pages gap = .ok ()) :
    state.phase = .planning ∧ state.currentPlan = none := by
  obtain ⟨valid, checked⟩ := refused_ok checked
  simp only [not_or, not_not, Bool.not_eq_true, Option.isSome_eq_false_iff, Option.isNone_iff_eq_none] at valid
  exact ⟨valid.1, valid.2.1⟩

include collisionFree reads prepares

theorem finding_accepted_step (acceptance : AcceptedFinding) (applied : applyFindingAccepted state acceptance context = .ok progress) :
    Steps state contents runId (.findingAccepted acceptance) progress.state := by
  rw [applyFindingAccepted] at applied
  obtain ⟨sameRun, applied⟩ := refused_ok applied
  obtain ⟨_, checked, continued⟩ := bind_ok applied
  cases acceptance with
  | blockingWithCorrection correction finding =>
    by_cases blocking : blockingKind finding.kind = true
    · simp only [blocking, if_true] at continued
      obtain ⟨corrected, declared, recorded⟩ := bind_ok continued
      obtain ⟨plan, owner, current, samePlan, sameOwner, ownerStored, workAbsent, after, prepares'⟩ :=
        declare_correction_step collisionFree state contents reads context prepares corrected declared
      have readsCorrected : Reads corrected.state
          (putAt contents .work correction.correctorWorkItemId.text (correctionValue correction)) := by
        rw [after]
        exact reads_increment (reads_insert reads _ _ _) .declaredWork
      obtain ⟨findingAbsent, final⟩ := record_finding_step collisionFree progress readsCorrected prepares' recorded
      have readsFinal := reads_note_finding (reads_insert readsCorrected .findings finding.findingId.text
        (openFinding finding (some correction.correctorWorkItemId))) finding
      rw [← final] at readsFinal
      rw [after] at final
      refine ⟨_, ?_, readsFinal⟩
      rw [final]
      exact .blockingFindingAccepted correction finding (not_not.mp sameRun) blocking plan current samePlan sameOwner owner
        ownerStored workAbsent findingAbsent
    · simp only [blocking, Bool.false_eq_true, if_false] at continued
      cases continued
  | nonblocking finding =>
    by_cases blocking : blockingKind finding.kind = true
    · simp only [blocking, if_true] at continued
      cases continued
    · simp only [blocking, Bool.false_eq_true, if_false] at continued
      obtain ⟨absent, final⟩ := record_finding_step collisionFree progress reads prepares continued
      have readsFinal := reads_note_finding (reads_insert reads .findings finding.findingId.text (openFinding finding none)) finding
      rw [← final] at readsFinal
      refine ⟨_, ?_, readsFinal⟩
      rw [final]
      refine .nonblockingFindingAccepted finding (not_not.mp sameRun) (Bool.not_eq_true _ ▸ blocking) ?_ absent
      intro isGap
      cases finding with
      | planningGap gap => exact planning_gap_checked state context checked
      | integrity _ => cases isGap
      | definitionOfDone _ => cases isGap
      | advisory _ => cases isGap

theorem finding_cleared_step (fact : FindingCleared) (applied : applyFindingCleared state fact context = .ok progress) :
    Steps state contents runId (.findingCleared fact) progress.state := by
  rw [applyFindingCleared] at applied
  obtain ⟨⟨written, _⟩, mutation, continued⟩ := bind_ok applied
  obtain ⟨next, derived, rfl, _⟩ := mutate_ok collisionFree state reads context prepares _ _ _ _ mutation
  obtain ⟨prior, stored, isOpen, rfl⟩ : ∃ prior, contents .findings (indexKey .findings fact.findingId.text) =
      some (.finding prior) ∧ prior.status = .open ∧ next = some (clearedFinding prior fact.resolution) := by
    rw [clearFinding.eq_def] at derived
    split at derived
    · rename_i prior stored
      split at derived
      · cases derived
      · rename_i isOpen
        cases derived
        exact ⟨prior, stored, not_not.mp isOpen, rfl⟩
    · cases derived
  have readsWritten := reads_insert reads .findings fact.findingId.text (clearedFinding prior fact.resolution)
  split at continued
  · rename_i found lookup
    have same := lookup_value_reads collisionFree reads lookup
    rw [stored, Option.some_inj, IndexValue.finding.injEq] at same
    subst same
    split at continued
    · rename_i uncounted
      cases continued
      refine ⟨_, .findingCleared fact found stored isOpen _ ?_, readsWritten⟩
      rw [FindingUncounted, uncounted]
      rfl
    · rename_i counter counting
      split at continued
      · cases continued
      · rename_i decremented lowered
        cases continued
        refine ⟨_, .findingCleared fact found stored isOpen _ ?_, reads_of_indexes _ _ readsWritten ?_⟩
        · rw [FindingUncounted, counting]
          exact lowered
        · obtain ⟨count, _, rfl⟩ := Option.map_eq_some_iff.mp lowered
          rfl
  · cases continued

theorem evidence_observed_step (evidence : EvidenceFact) (applied : applyEvidenceObserved state evidence context = .ok progress) :
    Steps state contents runId (.evidenceObserved evidence) progress.state := by
  rw [applyEvidenceObserved] at applied
  obtain ⟨sameRun, applied⟩ := refused_ok applied
  obtain ⟨sameDigest, applied⟩ := refused_ok applied
  obtain ⟨⟨written, _⟩, mutation, rfl⟩ := map_ok applied
  obtain ⟨absent, rfl, _⟩ := mutate_insert_ok collisionFree reads prepares mutation
  exact ⟨_, .evidenceObserved evidence (not_not.mp sameRun) (not_not.mp sameDigest) absent,
    reads_increment (reads_insert reads _ _ _) .observedEvidence⟩

omit collisionFree reads prepares

include reads in
theorem route_verification_observed_step {fact : RouteVerificationObserved}
    (applied : applyRouteVerificationObserved state fact context = .ok progress) :
    Steps state contents runId (.routeVerificationObserved fact) progress.state := by
  rw [applyRouteVerificationObserved] at applied
  obtain ⟨same, applied⟩ := required_ok applied
  cases applied
  exact ⟨contents, .routeVerificationObserved fact same, reads⟩

include collisionFree reads prepares

theorem candidate_accepted_step (fact : CandidateAccepted) (applied : applyCandidateAccepted state runId fact context = .ok progress) :
    Steps state contents runId (.candidateAccepted fact) progress.state := by
  rw [applyCandidateAccepted] at applied
  obtain ⟨inPlan, applied⟩ := refused_ok applied
  obtain ⟨⟨written, _⟩, mutation, rfl⟩ := map_ok applied
  obtain ⟨absent, rfl, _⟩ := mutate_insert_ok collisionFree reads prepares mutation
  exact ⟨_, .candidateAccepted fact (not_not.mp inPlan) absent, reads_of_indexes _ _ (reads_insert reads _ _ _) rfl⟩

theorem publication_intended_step (fact : PublicationIntended)
    (applied : applyPublicationIntended state runId fact context = .ok progress) :
    Steps state contents runId (.publicationIntended fact) progress.state := by
  rw [applyPublicationIntended] at applied
  obtain ⟨valid, applied⟩ := refused_ok applied
  simp only [not_or, not_not] at valid
  obtain ⟨⟨written, _⟩, mutation, rfl⟩ := map_ok applied
  obtain ⟨absent, rfl, _⟩ := mutate_insert_ok collisionFree reads prepares mutation
  exact ⟨_, .publicationIntended fact valid.1 valid.2.1 valid.2.2 absent, reads_of_indexes _ _ (reads_insert reads _ _ _) rfl⟩

theorem publication_observed_step (fact : PublicationObserved) (applied : applyPublicationObserved state fact context = .ok progress) :
    Steps state contents runId (.publicationObserved fact) progress.state := by
  rw [applyPublicationObserved] at applied
  split at applied
  · rename_i publication candidate isCurrent hasCandidate
    obtain ⟨samePublication, applied⟩ := refused_ok applied
    obtain ⟨sameTrees, applied⟩ := refused_ok applied
    simp only [not_or, not_not] at sameTrees
    obtain ⟨agrees, applied⟩ := refused_ok applied
    simp only [not_or, not_and, not_not] at agrees
    obtain ⟨⟨written, _⟩, mutation, rfl⟩ := map_ok applied
    obtain ⟨next, derived, rfl, _⟩ := mutate_ok collisionFree state reads context prepares _ _ _ _ mutation
    rw [observePublication.eq_def] at derived
    split at derived
    · rename_i prior stored
      split at derived
      · cases derived
      · rename_i intended
        cases derived
        exact ⟨_, .publicationObserved fact publication candidate isCurrent hasCandidate (not_not.mp samePublication)
          sameTrees.1 sameTrees.2 agrees.1 agrees.2 prior stored (not_not.mp intended),
          reads_of_indexes _ _ (reads_insert reads .publications fact.publicationId.text (.publication (observedValue prior fact))) rfl⟩
    · cases derived
  · cases applied

omit collisionFree reads prepares

include reads in
theorem final_attestations_recorded_step {fact : FinalAttestationsRecorded}
    (applied : applyFinalAttestationsRecorded state fact context = .ok progress) :
    Steps state contents runId (.finalAttestationsRecorded fact) progress.state := by
  rw [applyFinalAttestationsRecorded] at applied
  obtain ⟨valid, applied⟩ := refused_ok applied
  simp only [not_or, not_not] at valid
  obtain ⟨settled, applied⟩ := refused_ok applied
  simp only [not_or, Bool.not_eq_true', Bool.not_eq_false, Bool.not_eq_true, List.any_eq_false] at settled
  cases applied
  exact ⟨contents, .finalAttestationsRecorded fact valid.1 valid.2.1 valid.2.2 settled.1 settled.2, reads_of_indexes state _ reads rfl⟩

end Facts

-- Every accepted fact is one step of the abstract run.
theorem fold_domain_fact_step (collisionFree : CollisionFree IndexValue) {state : RunState} {contents : Contents}
    (reads : Reads state contents) {fact : DomainFact} {pages : List IndexPage} {applied : FactFoldApplied}
    (folded : foldDomainFact state fact pages none = .ok applied) :
    fact.runId = state.identity.runId ∧ Steps state contents fact.runId fact.body applied.state := by
  obtain ⟨progress, semantic, returned⟩ := bind_ok folded
  cases returned
  obtain ⟨runId, body⟩ := fact
  obtain ⟨sameRun, semantic⟩ := refused_ok semantic
  refine ⟨not_not.mp sameRun, ?_⟩
  cases body with
  | requirementsBound body => exact requirements_bound_step state contents reads _ runId progress semantic
  | atomDeclared atom => exact atom_declared_step collisionFree state contents reads _ rfl runId progress atom semantic
  | atomInventorySealed body => exact atom_inventory_sealed_step state contents reads _ runId progress semantic
  | atomDispositioned disposition =>
    exact atom_dispositioned_step collisionFree state contents reads _ rfl runId progress disposition semantic
  | workDeclared workItem => exact work_declared_step collisionFree state contents reads _ rfl runId progress workItem semantic
  | dependencyDeclared body =>
    exact dependency_declared_step collisionFree state contents reads _ rfl runId progress body semantic
  | workOutputAccepted body =>
    exact work_output_accepted_step collisionFree state contents reads _ rfl runId progress body semantic
  | planRootAccepted body => exact plan_root_accepted_step collisionFree state contents reads _ rfl runId progress body semantic
  | planRootSuperseded body =>
    exact plan_root_superseded_step collisionFree state contents reads _ rfl runId progress body semantic
  | findingAccepted acceptance =>
    exact finding_accepted_step collisionFree state contents reads _ rfl runId progress acceptance semantic
  | findingCleared body => exact finding_cleared_step collisionFree state contents reads _ rfl runId progress body semantic
  | evidenceObserved evidence =>
    exact evidence_observed_step collisionFree state contents reads _ rfl runId progress evidence semantic
  | routeVerificationObserved body => exact route_verification_observed_step state contents reads _ runId progress semantic
  | candidateAccepted body => exact candidate_accepted_step collisionFree state contents reads _ rfl runId progress body semantic
  | publicationIntended body =>
    exact publication_intended_step collisionFree state contents reads _ rfl runId progress body semantic
  | publicationObserved body =>
    exact publication_observed_step collisionFree state contents reads _ rfl runId progress body semantic
  | finalAttestationsRecorded body => exact final_attestations_recorded_step state contents reads _ runId progress semantic

end Refinement

end PiAutopilot.Authority
