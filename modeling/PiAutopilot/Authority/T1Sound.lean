import PiAutopilot.Authority.Committed
import PiAutopilot.Authority.CompletedRun
import PiAutopilot.Authority.Counters
import PiAutopilot.Authority.StoredEntries

set_option autoImplicit false

namespace PiAutopilot.Authority

open Lib Protocol

section Accomplished

variable [Hashing]

-- What a T1 outcome promises, read off the maps that the indexes authenticate.
structure Covered (state : RunState) (contents : Contents) : Prop where
  isSealed : ∃ requirements, state.requirements = some requirements ∧ requirements.inventorySealed = true
  nonempty : ∃ key atom, contents .atoms key = some (.atom atom)
  dispositioned : ∀ key value, contents .atoms key = some value → ∃ atom disposition, value = .atom atom ∧
    contents .dispositions (indexKey .dispositions atom.atomId.text) = some (.disposition disposition) ∧
    disposition.atomId = atom.atomId ∧ dispositionIsLegal atom disposition = true

structure WorkAccepted (log : List JournalRecord) (contents : Contents) : Prop where
  stored : ∀ key value, contents .work key = some value → ∃ work, value = .work work ∧ work.acceptedOutput.isSome
  declared : ∀ record ∈ log, ∀ fact ∈ recordFacts record, ∀ entry ∈ declaredWork fact.body,
    ∃ work, StoredWork contents entry.1 work ∧ work.workItem = entry.2 ∧ work.acceptedOutput.isSome

def NoBlockingFinding (contents : Contents) : Prop :=
  ∀ key entry, contents .findings key = some (.finding entry) → entry.status = .open → blockingKind entry.finding.kind = false

structure Integrated (state : RunState) (contents : Contents) (candidate : CurrentCandidateState) : Prop where
  current : state.currentCandidate = some candidate
  stored : ∃ entry, contents .candidates (indexKey .candidates candidate.candidateId.text) = some (.candidate entry) ∧
    entry.candidateState = candidate
  ofPlan : ∃ plan entry, state.currentPlan = some plan ∧
    contents .plans (indexKey .plans plan.planRootId.text) = some (.plan entry) ∧ entry.planState = plan ∧
    candidate.planRootId = plan.planRootId ∧
    ∃ work output, StoredWork contents plan.integrationOwnerWorkItemId work ∧ work.acceptedOutput = some output ∧
      output.outputRoot = candidate.tree

def Published (state : RunState) (contents : Contents) (candidate : CurrentCandidateState) : Prop :=
  ∃ publication entry attestation, state.currentPublication = some publication ∧
    contents .publications (indexKey .publications publication.publicationId.text) = some (.publication entry) ∧
    entry.publicationId = publication.publicationId ∧ entry.candidateId = candidate.candidateId ∧ entry.status = .desiredHead ∧
    entry.observedHead = some entry.desiredHead ∧ entry.publicationTreeAttestation = some attestation ∧
    attestation.gitTree = candidate.gitTree ∧ attestation.artifactRoot = candidate.tree

def Verified (contents : Contents) (candidate : CurrentCandidateState) : Prop :=
  ∃ evidenceId evidence code entry fields,
    contents .evidence (indexKey .evidence evidenceId) = some (.evidence evidence) ∧
    evidence.envelope.exit = .exited code ∧ code.text = js "0" ∧ evidence.envelope.evidenceClass = .finalVerification ∧
    evidence.envelope.tree = candidate.tree ∧
    contents .commands (indexKey .commands (commandIdentity .executeEvidence evidence.envelope.actionId).text) =
      some (.command entry) ∧
    entry.command.body = .executeEvidence fields ∧ entry.command.actionId = evidence.envelope.actionId ∧
    fields.candidateTree = candidate.tree ∧ entry.status = .settled

variable {state : RunState}

omit [Hashing] in
theorem coverage_complete_lists (complete : coverageComplete state = true) :
    (∃ requirements, state.requirements = some requirements ∧ requirements.inventorySealed = true) ∧
      ∃ atoms dispositions, indexValues (state.indexes .atoms) .atom = some atoms ∧
        indexValues (state.indexes .dispositions) .disposition = some dispositions ∧
        ∀ atom, .atom atom ∈ atoms → atom.atomId ∈ dispositions.filterMap dispositionedAtom := by
  rw [coverageComplete, coverageObligations, List.isEmpty_iff] at complete
  split at complete
  · cases complete
  · rename_i requirements bound
    simp only [List.append_eq_nil_iff] at complete
    obtain ⟨⟨⟨⟨isSealed, atomsProven⟩, dispositionsProven⟩, uncovered⟩, _⟩ := complete
    refine ⟨⟨requirements, bound, by simpa using isSealed⟩, ?_⟩
    cases atomsListed : indexValues (state.indexes .atoms) .atom with
    | none => simp [atomsListed] at atomsProven
    | some atoms =>
      cases dispositionsListed : indexValues (state.indexes .dispositions) .disposition with
      | none => simp [dispositionsListed] at dispositionsProven
      | some dispositions =>
        refine ⟨atoms, dispositions, rfl, rfl, ?_⟩
        intro atom member
        rw [atomsListed, dispositionsListed, uncoveredAtoms, List.filterMap_eq_nil_iff] at uncovered
        by_contra missing
        have reported := uncovered _ member
        rw [undispositioned, if_neg missing] at reported
        cases reported

variable {contents : Contents}

theorem covered_of_complete (reads : Reads state contents)
    (agree : CountersAgree state contents) (stored : AtomsStored contents) (complete : coverageComplete state = true)
    (declared : (state.counters .declaredAtoms).value ≠ 0) : Covered state contents := by
  obtain ⟨isSealed, atoms, dispositions, atomsListed, dispositionsListed, covers⟩ := coverage_complete_lists complete
  refine ⟨isSealed, ?_, ?_⟩
  · rw [agree.tallied] at declared
    by_contra none
    apply declared
    have empty : contents .atoms = fun _ => Option.none := by
      funext key
      cases found : contents .atoms key with
      | none => rfl
      | some value =>
        obtain ⟨atom, rfl, _⟩ := stored.atoms key value found
        exact absurd ⟨key, atom, found⟩ none
    rw [tally, countedIndex, empty, count_where_empty]
  · intro key value found
    obtain ⟨atom, rfl, keyed⟩ := stored.atoms key value found
    have member : .atom atom ∈ atoms := (mem_index_values (reads .atoms).exactly atomsListed).mpr ⟨rfl, key, found⟩
    obtain ⟨entry, listed, same⟩ := List.mem_filterMap.mp (covers atom member)
    obtain ⟨_, key', found'⟩ := (mem_index_values (reads .dispositions).exactly dispositionsListed).mp listed
    obtain ⟨disposition, legalAtom, rfl, keyed', atomFound, legal⟩ := stored.dispositions key' entry found'
    have sameId : disposition.atomId = atom.atomId := Option.some_inj.mp same
    rw [sameId, ← keyed, found] at atomFound
    cases atomFound
    rw [keyed', sameId] at found'
    exact ⟨atom, disposition, rfl, found', sameId, legal⟩

theorem work_accepted_of_listed (reads : Reads state contents)
    (stored : WorkStored contents) (retained : c6AcceptedWorkRetained state = true) (key : Key) (value : IndexValue)
    (found : contents .work key = some value) : ∃ work, value = .work work ∧ work.acceptedOutput.isSome := by
  rw [c6AcceptedWorkRetained, Bool.and_eq_true, Option.any_eq_true] at retained
  obtain ⟨_, values, listed, accepted⟩ := retained
  obtain ⟨work, rfl⟩ := stored key value found
  have member := (mem_index_values (reads .work).exactly listed).mpr ⟨rfl, key, found⟩
  exact ⟨work, rfl, List.all_eq_true.mp accepted _ member⟩

omit [Hashing] in
theorem zero_iff {value : DecimalNatural} : zero value = true ↔ value.value = 0 := by
  rw [zero, decide_eq_true_eq]
  constructor
  · intro same
    rw [decimal_equal same, value_of_nat]
  · intro isZero
    rw [compare_decimal_natural, isZero]
    rfl

omit [Hashing] in
theorem no_blocking_of_zero {state : RunState} (agree : CountersAgree state contents)
    (none : zero (state.counters .openBlockingFindings) = true) : NoBlockingFinding contents := by
  rw [zero_iff, agree.tallied] at none
  intro key entry found isOpen
  have uncounted := count_where_zero _ _ none key _ found
  rcases entry with ⟨correction, finding, resolution, status⟩
  cases isOpen
  cases finding with
  | planningGap gap => rfl
  | advisory advisory => rfl
  | integrity finding => cases uncounted
  | definitionOfDone finding => cases uncounted

section Lookups

variable (collisionFree : CollisionFree IndexValue)
  {contents : Contents} {pages : List IndexPage} {candidate : CurrentCandidateState}

include collisionFree in
theorem integration_output_stored {state : RunState} (reads : Reads state contents) {output : AcceptedOutput} (found : integrationOutput state pages = some output) :
    ∃ plan work, state.currentPlan = some plan ∧ StoredWork contents plan.integrationOwnerWorkItemId work ∧
      work.acceptedOutput = some output := by
  rw [integrationOutput, Option.bind_eq_some_iff] at found
  obtain ⟨plan, current, found⟩ := found
  split at found
  · rename_i work witness proved
    have stored := lookup_reads collisionFree reads proved
    exact ⟨plan, work, current, stored.symm, found⟩
  · cases found

include collisionFree in
theorem integrated_of_checks {state : RunState} (reads : Reads state contents)
    (plans : PlansStored state contents) (candidates : CandidateStored state contents)
    (reviewed : c4ReviewedDiffAndManifest state pages = true) (bound : c5IdentityBindings state = true) :
    ∃ candidate, Integrated state contents candidate := by
  rw [c4ReviewedDiffAndManifest] at reviewed
  split at reviewed
  · rename_i candidate attestations output current _ found
    simp only [Bool.and_eq_true, decide_eq_true_eq, and_assoc] at reviewed
    obtain ⟨_, _, _, outputRoot, _⟩ := reviewed
    obtain ⟨plan, work, currentPlan, stored, accepted⟩ := integration_output_stored collisionFree reads found
    simp only [c5IdentityBindings, currentPlan, current, Bool.and_eq_true, decide_eq_true_eq] at bound
    obtain ⟨entry, planStored, same⟩ := plans.current plan currentPlan
    exact ⟨candidate, current, candidates candidate current,
      plan, entry, currentPlan, planStored, same, bound.1.2, work, output, stored, accepted, outputRoot⟩
  · cases reviewed

omit [Hashing] in
theorem publication_candidate {state : RunState} {publication : CurrentPublicationState}
    (current : state.currentCandidate = some candidate) (published : state.currentPublication = some publication)
    (bound : c5IdentityBindings state = true) : publication.candidateId = candidate.candidateId := by
  rw [c5IdentityBindings] at bound
  split at bound
  · rename_i plan candidate' _ current'
    rw [current] at current'
    cases current'
    simp only [published, Bool.and_eq_true, decide_eq_true_eq, Option.map_some, Option.some_inj] at bound
    exact bound.2
  · cases bound

theorem published_of_checks {state : RunState} (stored : PublicationStored state contents) (current : state.currentCandidate = some candidate)
    (bound : c5IdentityBindings state = true) (contains : publicationContainsCandidate state = true) :
    Published state contents candidate := by
  rw [publicationContainsCandidate] at contains
  split at contains
  · rename_i candidate' publication current' published
    rw [current] at current'
    cases current'
    simp only [Bool.and_eq_true, decide_eq_true_eq, Option.any_eq_true, and_assoc] at contains
    obtain ⟨status, head, _, _, attestation, attested, gitTree, tree⟩ := contains
    obtain ⟨entry, found, copy⟩ := stored publication published
    refine ⟨publication, entry, attestation, published, found, copy.publicationId, ?_, ?_, ?_, ?_, gitTree, tree⟩
    · rw [copy.candidateId, publication_candidate current published bound]
    · rw [copy.status, status]
    · rw [copy.observedHead, copy.desiredHead, head]
    · rw [copy.attestation, attested]
  · cases contains

include collisionFree in
theorem settled_evidence_stored {state : RunState} (reads : Reads state contents)
    {commandId : CommandId} {command : Command} {fields : ExecuteEvidence}
    (found : settledEvidenceCommand state pages commandId = some (command, fields)) :
    ∃ entry, contents .commands (indexKey .commands commandId.text) = some (.command entry) ∧ entry.command = command ∧
      command.body = .executeEvidence fields ∧ entry.status = .settled := by
  rw [settledEvidenceCommand] at found
  split at found
  · rename_i entry witness proved
    have stored := lookup_reads collisionFree reads proved
    split at found
    · rename_i evidence body
      split at found
      · rename_i settled
        cases found
        exact ⟨entry, stored.symm, rfl, body, settled⟩
      · cases found
    · cases found
  · cases found

include collisionFree in
theorem verified_of_green {state : RunState} (reads : Reads state contents) (current : state.currentCandidate = some candidate)
    (green : finalEvidenceGreen state pages = true) : Verified contents candidate := by
  rw [finalEvidenceGreen] at green
  split at green
  · rename_i attestations candidate' _ current'
    rw [current] at current'
    cases current'
    dsimp only at green
    split at green
    · rename_i evidence witness proved
      have stored := lookup_reads collisionFree reads proved
      split at green
      · rename_i command fields found
        obtain ⟨entry, commandStored, rfl, body, settled⟩ := settled_evidence_stored collisionFree reads found
        simp only [evidenceGreen, Bool.and_eq_true, decide_eq_true_eq, and_assoc] at green
        obtain ⟨_, _, action, _, isFinal, _, _, tree, fieldsTree, _, _, _, _, _, _, _, _, exit⟩ := green
        split at exit
        · rename_i code exited
          exact ⟨_, evidence, code, entry, fields, stored.symm, exited, by simpa using exit, isFinal, tree, commandStored, body,
            action.symm, fieldsTree.symm.trans tree, settled⟩
        · cases exit
      · cases green
    · cases green
  · cases green

end Lookups

variable {outcome : TaskComplete} {pages : List IndexPage} {genesis : RunGenesis} {draft : SemanticDraft}
  {log : List JournalRecord}

theorem eligible_t1_checks {state : RunState} {checks : T1Checks}
    (eligible : eligibleOutcomeForState state pages = .eligible (.t1 outcome) checks) : (t1Checks state pages).all = true := by
  rw [eligibleOutcomeForState] at eligible
  split at eligible
  · cases eligible
  · split at eligible
    · split at eligible
      · rename_i allHold
        exact allHold
      · cases eligible
    · cases eligible

-- What the run keeps true about the maps, in every state it reaches.
def Consistent (state : RunState) (contents : Contents) : Prop :=
  CountersAgree state contents ∧ AtomsStored contents ∧ WorkStored contents ∧ PlansStored state contents ∧
    CandidateStored state contents ∧ PublicationStored state contents

theorem consistent_preserved : Preserved Consistent :=
  preserved_and counters_preserved (preserved_and atoms_stored_preserved (preserved_and work_stored_preserved
    (preserved_and plans_stored_preserved (preserved_and candidate_stored_preserved publication_stored_preserved))))

theorem initial_consistent : Consistent (initialState genesis) fun _ _ => none := by
  have noEntries : ∀ allowed, Entries (fun _ => none) allowed := by
    intro allowed key value found
    cases found
  refine ⟨initial_counters_agree, ⟨noEntries _, noEntries _⟩, noEntries _, ⟨noEntries _, ?_⟩, ?_, ?_⟩
  · intro plan current
    cases current
  · intro candidate current
    cases current
  · intro publication current
    cases current

def DeclaredStored (log : List JournalRecord) (contents : Contents) : Prop :=
  ∀ record ∈ log, ∀ fact ∈ recordFacts record, ∀ declared ∈ declaredWork fact.body, DeclaredEntry contents declared

variable {state after : RunState} {contents maps : Contents}

theorem fact_steps_declare {facts : List DomainFact} (steps : FactSteps state contents facts after maps) :
    ∀ fact ∈ facts, ∀ declared ∈ declaredWork fact.body, DeclaredEntry maps declared := by
  induction steps with
  | nil state contents => simp
  | cons fact sameRun step rest ih =>
    intro later member declared isDeclared
    rcases List.mem_cons.mp member with rfl | isLater
    · exact declared_entry_grows (fact_steps_keep grows_preserved rest (fun _ _ => trivial) (grows_refl _)) declared
        (fact_step_declares step declared isDeclared)
    · exact ih later isLater declared isDeclared

theorem semantic_step_declares (step : SemanticStep state contents draft after maps) :
    ∀ fact ∈ draft.facts, ∀ declared ∈ declaredWork fact.body, DeclaredEntry maps declared := by
  cases step with
  | committed _ facts commands absent =>
    intro fact member declared isDeclared
    exact declared_entry_grows (grows_insert absent (issue_steps_keep grows_preserved commands (grows_refl _))) declared
      (fact_steps_declare facts fact member declared isDeclared)

variable {record : JournalRecord}

theorem record_step_declares (step : RecordStep state contents record after maps) :
    ∀ fact ∈ recordFacts record, ∀ declared ∈ declaredWork fact.body, DeclaredEntry maps declared := by
  cases step with
  | semantic family step outcome =>
    have declares := semantic_step_declares step
    cases family <;> exact declares
  | suspended | resumed => simp [recordFacts]

theorem declared_stored_snoc {state after : RunState} {contents maps : Contents} (declared : DeclaredStored log contents) (step : RecordStep state contents record after maps) :
    DeclaredStored (log ++ [record]) maps := by
  intro earlier logged fact member entry isDeclared
  rcases List.mem_append.mp logged with old | new
  · exact declared_entry_grows (record_step_keeps grows_preserved step (grows_refl contents)) entry
      (declared earlier old fact member entry isDeclared)
  · rw [List.mem_singleton.mp new] at member
    exact record_step_declares step fact member entry isDeclared

theorem run_consistent (collisionFree : CollisionFree IndexValue) {records : List JournalRecord}
    {state : RunState} (accepted : foldMany (initialState genesis) records = .ok state) :
    ∃ contents, Reads state contents ∧ Consistent state contents ∧ DeclaredStored records contents := by
  refine foldlM_keeps
    (fun log state => ∃ contents, Reads state contents ∧ Consistent state contents ∧ DeclaredStored log contents) ?_ records []
    (initialState genesis) state ⟨_, initial_reads, initial_consistent, by simp [DeclaredStored]⟩ accepted
  intro log before record after ⟨contents, reads, consistent, declared⟩ folded
  obtain ⟨_, maps, step, readsAfter⟩ := fold_step collisionFree reads folded
  exact ⟨maps, readsAfter, record_step_keeps consistent_preserved step consistent, declared_stored_snoc declared step⟩

structure Accomplished (log : List JournalRecord) (state : RunState) (contents : Contents) : Prop where
  covered : Covered state contents
  work : WorkAccepted log contents
  findings : NoBlockingFinding contents
  delivered : ∃ candidate, Integrated state contents candidate ∧ Published state contents candidate ∧ Verified contents candidate

theorem accomplished_of_checks (collisionFree : CollisionFree IndexValue) {state : RunState}
    {contents : Contents} (reads : Reads state contents) (consistent : Consistent state contents)
    (declared : DeclaredStored log contents) (checks : (t1Checks state pages).all = true) :
    Accomplished log state contents := by
  obtain ⟨counters, atoms, work, plans, candidates, publications⟩ := consistent
  simp only [T1Checks.all, t1Checks, Bool.and_eq_true, and_assoc] at checks
  obtain ⟨_, dispositioned, green, reviewed, bound, retained, _, noBlocking, contains, _⟩ := checks
  simp only [c2AtomsDispositioned, Bool.and_eq_true, Bool.not_eq_true', and_assoc] at dispositioned
  obtain ⟨_, nonzero, _, _, complete⟩ := dispositioned
  have hasAtoms : (state.counters .declaredAtoms).value ≠ 0 := by
    intro isZero
    rw [(zero_iff).mpr isZero] at nonzero
    cases nonzero
  have accepted := work_accepted_of_listed reads work retained
  obtain ⟨candidate, integrated⟩ := integrated_of_checks collisionFree reads plans candidates reviewed bound
  refine ⟨covered_of_complete reads counters atoms complete hasAtoms, ⟨accepted, ?_⟩, no_blocking_of_zero counters noBlocking,
    candidate, integrated, published_of_checks publications integrated.current bound contains,
    verified_of_green collisionFree reads integrated.current green⟩
  intro record logged fact member entry isDeclared
  obtain ⟨found, stored, same⟩ := declared record logged fact member entry isDeclared
  obtain ⟨_, sameWork, hasOutput⟩ := accepted _ _ stored
  cases sameWork
  exact ⟨found, stored, same, hasOutput⟩

theorem outcome_step_checks (outcomesDistinct : Function.Injective terminalOutcomeDigest) {derived after : RunState} {commit : SemanticCommit} (step : OutcomeStep derived record commit after)
    (commits : recordOutcome record = some (.t1 outcome)) : (t1Checks derived commit.pages).all = true := by
  cases step with
  | running noOutcome =>
    rw [noOutcome] at commits
    cases commits
  | terminal committed eligible checks hasOutcome isEligible same =>
    rw [hasOutcome] at commits
    cases commits
    rw [outcomesDistinct same] at isEligible
    exact eligible_t1_checks isEligible

theorem record_step_checks (outcomesDistinct : Function.Injective terminalOutcomeDigest) {state after : RunState}
    {contents maps : Contents} (step : RecordStep state contents record after maps) (commits : recordOutcome record = some (.t1 outcome)) :
    ∃ pages, (t1Checks after pages).all = true := by
  cases step with
  | @semantic _ commit draft derived _ _ family step ended =>
    have checks := outcome_step_checks outcomesDistinct ended commits
    -- The checks read neither the terminal nor the sequence, which are all the record still writes.
    cases ended with
    | running => exact ⟨commit.pages, checks⟩
    | terminal => exact ⟨commit.pages, checks⟩
  | suspended => cases commits
  | resumed => cases commits

theorem semantic_step_terminal (step : SemanticStep state contents draft after maps) : after.terminal = state.terminal := by
  cases step with
  | committed settles folds issues absent =>
    obtain ⟨⟨settledIndex, rfl⟩, _⟩ := settle_step_frame settles
    obtain ⟨⟨issuedIndex, rfl⟩, _⟩ := issue_steps_frame issues
    exact (fact_steps_envelope folds).terminal

theorem record_step_terminal (step : RecordStep state contents record after maps) (live : state.terminal = none) :
    recordOutcome record = after.terminal.map TerminalState.outcome := by
  cases step with
  | semantic family step ended =>
    have running := (semantic_step_terminal step).trans live
    cases ended with
    | running noOutcome => rw [noOutcome, running, Option.map_none]
    | terminal outcome eligible checks hasOutcome => rw [hasOutcome, Option.map_some]
  | suspended record =>
    change none = state.terminal.map _
    rw [live, Option.map_none]
  | resumed record =>
    change none = state.terminal.map _
    rw [live, Option.map_none]

theorem t1_sound (collisionFree : CollisionFree IndexValue) (outcomesDistinct : Function.Injective terminalOutcomeDigest)
    (genesis : RunGenesis) (records : List JournalRecord) (record : JournalRecord) (state : RunState) (outcome : TaskComplete)
    (accepted : foldMany (initialState genesis) (records ++ [record]) = .ok state)
    (commits : recordOutcome record = some (.t1 outcome)) :
    ∃ contents, Reads state contents ∧ Accomplished (records ++ [record]) state contents := by
  obtain ⟨before, reached, folded⟩ := (foldlM_snoc).mp accepted
  obtain ⟨contents, reads, consistent, declared⟩ := run_consistent collisionFree reached
  obtain ⟨_, maps, step, readsAfter⟩ := fold_step collisionFree reads folded
  obtain ⟨pages, checks⟩ := record_step_checks outcomesDistinct step commits
  have consistentAfter := record_step_keeps consistent_preserved step consistent
  exact ⟨maps, readsAfter, accomplished_of_checks collisionFree readsAfter consistentAfter (declared_stored_snoc declared step) checks⟩

end Accomplished

section Sample

attribute [local instance] sampleWorld

theorem succeeded_accomplished : ∃ records record contents, foldMany (initialState sampleGenesis) (records ++ [record]) = .ok succeeded ∧
      recordOutcome record = some (.t1 sampleOutcome) ∧ Reads succeeded contents ∧
      Accomplished (records ++ [record]) succeeded contents := by
  obtain ⟨records, replayed⟩ := reached_records (attested_reached_by fun _ _ _ _ => trivial)
  obtain ⟨commit, _, folds⟩ := succeededStep.commits
  have accepted : foldMany (initialState sampleGenesis) (records ++ [commit.record]) = .ok succeeded :=
    (foldlM_snoc).mpr ⟨attested.run, replayed, folds⟩
  have commits : recordOutcome commit.record = some (.t1 sampleOutcome) := by
    obtain ⟨_, _, step, _⟩ := fold_step sample_collision_free (on_book_reads _ _ (tidy_orderly _ (by decide +kernel))) folds
    exact record_step_terminal step rfl
  obtain ⟨contents, reads, accomplished⟩ := t1_sound sample_collision_free fresh_digest_injective sampleGenesis records
    commit.record succeeded sampleOutcome accepted commits
  exact ⟨records, commit.record, contents, accepted, commits, reads, accomplished⟩

end Sample

end PiAutopilot.Authority
