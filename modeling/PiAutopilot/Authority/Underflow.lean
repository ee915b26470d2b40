import PiAutopilot.Authority.Counters
import PiAutopilot.Authority.FactScript
import PiAutopilot.Authority.SampleRun

set_option autoImplicit false

namespace PiAutopilot.Authority

open Lib Protocol

-- The computation never ends in the rejection of a counter that would go below zero.
def NoUnderflow {α : Type} (attempt : Except Rejection α) : Prop :=
  FailsOnly (fun rejection => rejection.code ≠ underflowCode) attempt

variable {α : Type} {code : String} {diagnostic : JsString} {state : RunState}

@[simp] theorem no_underflow_ok {value : α} : NoUnderflow (.ok value) := fails_only_ok

@[simp] theorem no_underflow_rejected : NoUnderflow (rejected state code diagnostic : Except Rejection α) ↔ code ≠ underflowCode :=
  fails_only_error

def NoUnderflowFailure {α : Type} (attempt : Except TransitionFailure α) : Prop :=
  FailsOnly (fun failed => failed.code ≠ underflowCode) attempt

def NoUnderflowFold {α : Type} (attempt : Except FoldRejection α) : Prop :=
  FailsOnly (fun rejection => rejection.code ≠ underflowCode) attempt

@[simp] theorem no_underflow_fold_ok {value : α} : NoUnderflowFold (.ok value) := fails_only_ok

@[simp] theorem no_underflow_fold_rejected {record : JournalRecord} :
    NoUnderflowFold (foldRejected state record code diagnostic : Except FoldRejection α) ↔ code ≠ underflowCode :=
  fails_only_error

section Underflow

variable [Hashing] {counter : CounterName} {fact : DomainFact} {name : IndexName} {commit : SemanticCommit}

omit [Hashing] in
-- An open finding is counted, so its counter is above zero.
theorem open_finding_counted {state : RunState} {contents : Contents} (agree : CountersAgree state contents) {key : Key}
    {entry : FindingIndexValue} (stored : contents .findings key = some (.finding entry)) (isOpen : entry.status = .open) (counts : findingCounter entry.finding = some counter) : (state.counters counter).value ≠ 0 := by
  have positive : 0 < countWhere (openFindingCounted counter) (contents .findings) := by
    apply count_where_pos stored
    simp [openFindingCounted, isOpen, counts]
  have noted : countedIndex counter = .findings ∧ countedEntry counter = openFindingCounted counter := by
    cases finding : entry.finding with
    | planningGap gap =>
      rw [finding] at counts
      cases counts
    | integrity body | definitionOfDone body | advisory body =>
      rw [finding] at counts
      cases counts
      exact ⟨rfl, rfl⟩
  rw [agree.tallied counter, tally, noted.1, noted.2]
  exact Nat.ne_of_gt positive

variable (state : RunState)

omit [Hashing] in
theorem decrement_counter_some (positive : (state.counters counter).value ≠ 0) : decrementCounter state counter ≠ none := by
  rw [decrementCounter, decrement_value, if_neg positive]
  simp

variable {contents : Contents} {pages : List IndexPage} {draft : SemanticDraft} {record : JournalRecord}

section Cleared

variable {state : RunState} (collisionFree : CollisionFree IndexValue) (reads : Reads state contents) (agree : CountersAgree state contents)

include collisionFree reads agree

theorem finding_cleared_no_underflow {fact : FindingCleared} :
    NoUnderflow (applyFindingCleared state fact ⟨pages, none, [], 0⟩) := by
  apply fails_only_bind fun rejection failed => (mutate_fails rejection failed).2 (clear_finding_counted fact.resolution)
  intro transition moved
  obtain ⟨next, derived, after, _, _⟩ := mutate_ok collisionFree state reads _ rfl _ _ _ _ moved
  split
  · rename_i prior found
    have stored := lookup_value_reads collisionFree reads found
    rw [← stored, clearFinding] at derived
    split at derived
    · cases derived
    · rename_i isOpen
      split
      · exact no_underflow_ok
      · rename_i counter counts
        have positive := open_finding_counted agree stored.symm (not_not.mp isOpen) counts
        have sameCounters : transition.state.counters = state.counters := by
          rw [after]
        rw [← sameCounters] at positive
        split
        · rename_i underflowed
          exact absurd underflowed (decrement_counter_some _ positive)
        · exact no_underflow_ok
  · exact (no_underflow_rejected).mpr (by simp)

theorem semantic_fact_no_underflow : NoUnderflow (applySemanticFact state fact ⟨pages, none, [], 0⟩) := by
  by_cases clears : fact.body.clearsNone
  · obtain ⟨script, _, counted, follows⟩ := semantic_fact_plans state pages
    have run := counted_fails state (counted clears) ⟨pages, none, [], 0⟩
    rwa [← follows] at run
  · rw [applySemanticFact]
    split
    · simp
    · cases body : fact.body with
      | findingCleared cleared => exact finding_cleared_no_underflow collisionFree reads agree
      | _ => simp [body, FactBody.clearsNone] at clears

theorem fold_domain_fact_no_underflow : NoUnderflow (foldDomainFact state fact pages none) := by
  apply fails_only_bind (semantic_fact_no_underflow collisionFree reads agree)
  simp

end Cleared

theorem transition_index_no_underflow {identity : JsString} {next : IndexValue} {expectedPriorKind : Option IndexValueKind} :
    NoUnderflowFailure (transitionIndex state name identity next pages expectedPriorKind) := by
  rw [transitionIndex, NoUnderflowFailure]
  split
  · simp
  · split
    · simp
    · split
      · simp
      · split
        · simp
        · simp

theorem insert_commands_no_underflow {commands : List Command} : NoUnderflowFailure (insertCommands state commands pages) := by
  induction commands generalizing state with
  | nil => exact fails_only_ok
  | cons command rest ih =>
    apply fails_only_bind (transition_index_no_underflow _)
    intro inserted _
    exact fails_only_bind (ih inserted.state) fun _ _ => fails_only_ok

theorem settle_command_no_underflow {actionId : ActionId} {settlement : Settlement} :
    NoUnderflowFailure (settleCommand state actionId pages settlement) := by
  rw [settleCommand, NoUnderflowFailure]
  split
  · simp
  · split
    · simp
    · split
      · simp
      · split
        · simp
        · simp

theorem derive_settlement_no_underflow : NoUnderflowFailure (deriveSettlement state draft) := by
  rw [deriveSettlement, NoUnderflowFailure]
  split
  · simp
  · exact fails_only_bind (settle_command_no_underflow _) fun _ _ => fails_only_ok
  · simp
  · simp

theorem fold_facts_no_underflow (collisionFree : CollisionFree IndexValue) (state : RunState) (contents : Contents)
    (reads : Reads state contents) (agree : CountersAgree state contents) (facts : List DomainFact) (pages : List IndexPage) :
    NoUnderflowFailure (foldFacts state facts pages) := by
  induction facts generalizing state contents with
  | nil => exact fails_only_ok
  | cons fact rest ih =>
    rw [foldFacts]
    split
    · rename_i rejection failed
      have avoided := fold_domain_fact_no_underflow collisionFree reads agree rejection failed
      exact (fails_only_error).mpr avoided
    · rename_i applied succeeded
      obtain ⟨_, maps, step, readsAfter⟩ := fold_domain_fact_step collisionFree reads succeeded
      have agreeAfter := agree_fact_step step agree
      exact fails_only_bind (ih applied.state maps readsAfter agreeAfter) fun _ _ => fails_only_ok

theorem derive_semantic_transition_no_underflow (collisionFree : CollisionFree IndexValue) {state : RunState} (reads : Reads state contents) (agree : CountersAgree state contents) :
    NoUnderflowFailure (deriveSemanticTransition state draft) := by
  apply fails_only_bind (derive_settlement_no_underflow state)
  intro settled derived
  obtain ⟨maps, step, readsSettled⟩ := derive_settlement_step collisionFree reads derived
  have agreeSettled := settle_step_keeps counters_preserved step agree
  apply fails_only_bind (fold_facts_no_underflow collisionFree settled.state maps readsSettled agreeSettled _ _)
  intro folded _
  apply fails_only_bind (insert_commands_no_underflow _)
  intro issued _
  exact fails_only_bind (transition_index_no_underflow _) fun _ _ => fails_only_ok

theorem validate_envelope_no_underflow : NoUnderflowFold (validateEnvelope state record) := by
  rw [validateEnvelope]
  split
  · simp
  · split
    · simp
    · split
      · simp
      · simp
      · split <;> simp

theorem commit_outcome_no_underflow {state current : RunState} : NoUnderflowFold (commitOutcome state current record commit) := by
  rw [commitOutcome]
  split
  · split
    · simp
    · split
      · split <;> simp
      · simp
  · split
    · simp
    · split <;> simp

theorem apply_lifecycle_no_underflow {commit : LifecycleCommit}
    {kind : ActionRecordKind} : NoUnderflowFold (applyLifecycle state record commit kind) := by
  have suspension : NoUnderflowFailure (lifecycleSuspension state record) := by
    rw [lifecycleSuspension.eq_def, NoUnderflowFailure]
    split
    · split <;> simp
    · split
      · simp
      · split <;> simp
    · simp
  rw [applyLifecycle]
  split
  · rename_i failed stopped
    exact (no_underflow_fold_rejected).mpr (suspension failed stopped)
  · split
    · rename_i failed stopped
      exact (no_underflow_fold_rejected).mpr (transition_index_no_underflow _ failed stopped)
    · split
      · simp
      · dsimp only
        split <;> simp

theorem apply_semantic_record_no_underflow (collisionFree : CollisionFree IndexValue) {state : RunState}
    (reads : Reads state contents) (agree : CountersAgree state contents) : NoUnderflowFold (applySemanticRecord state record commit draft) := by
  rw [applySemanticRecord]
  split
  · simp
  · split
    · rename_i failed stopped
      have avoided := derive_semantic_transition_no_underflow collisionFree reads agree failed stopped
      exact (no_underflow_fold_rejected).mpr avoided
    · split
      · simp
      · apply fails_only_bind (commit_outcome_no_underflow)
        intro terminated _
        dsimp only
        split
        · exact (no_underflow_fold_rejected).mpr (by simp)
        · exact no_underflow_fold_ok

theorem fold_no_underflow (collisionFree : CollisionFree IndexValue) {state : RunState}
    (reads : Reads state contents) (agree : CountersAgree state contents) (record : JournalRecord) :
    NoUnderflowFold (fold state record) := by
  apply fails_only_bind (validate_envelope_no_underflow state)
  intro _ _
  cases record with
  | runGenesis body => exact (no_underflow_fold_rejected).mpr (by simp)
  | decisionCommitted body | commandSettled body | outcomeCommitted body =>
    exact apply_semantic_record_no_underflow collisionFree reads agree
  | runSuspended body | runResumed body => exact apply_lifecycle_no_underflow _

section

omit [Hashing]

theorem tally_accepted_work (contents : Contents) : tally contents .acceptedWork =
      Set.ncard { key | ∃ work, contents .work key = some (.work work) ∧ work.acceptedOutput.isSome } := by
  rw [tally, countWhere]
  congr 1
  ext key
  cases stored : contents .work key with
  | none => simp [countedIndex, stored]
  | some value => cases value <;> simp [countedIndex, countedEntry, outputAcceptedIn, stored]

theorem finding_counter_blocking (finding : Finding) :
    findingCounter finding = some .openBlockingFindings ↔ blockingKind finding.kind = true := by
  cases finding <;> simp [findingCounter, blockingKind, Finding.kind]

theorem finding_counter_advisory (finding : Finding) : findingCounter finding = some .openAdvisoryFindings ↔ finding.kind = .advisory := by
  cases finding <;> simp [findingCounter, Finding.kind]

theorem tally_open_findings {contents : Contents} (index : countedIndex counter = .findings)
    (entries : countedEntry counter = openFindingCounted counter) :
    tally contents counter = Set.ncard { key | ∃ entry, contents .findings key = some (.finding entry) ∧ entry.status = .open ∧
        findingCounter entry.finding = some counter } := by
  rw [tally, countWhere, index, entries]
  congr 1
  ext key
  cases stored : contents .findings key with
  | none => simp [stored]
  | some value => cases value <;> simp [openFindingCounted, stored]

end

theorem counter_is_count {state : RunState} {contents : Contents} (reads : Reads state contents) (counts : (state.counters counter).value = mapCount (contents name)) :
    state.counters counter = (state.indexes name).count :=
  decimal_value_injective _ _ (counts.trans (reads name).represents.count.symm)

theorem counters_consistent (collisionFree : CollisionFree IndexValue) (genesis : RunGenesis) (records : List JournalRecord)
    (state : RunState) (accepted : foldMany (initialState genesis) records = .ok state) :
    ∃ contents, Reads state contents ∧ (state.counters .declaredAtoms = (state.indexes .atoms).count ∧
        state.counters .dispositionedAtoms = (state.indexes .dispositions).count ∧
        state.counters .declaredWork = (state.indexes .work).count ∧
        state.counters .observedEvidence = (state.indexes .evidence).count) ∧
      (state.counters .acceptedWork = (state.indexes .submissions).count ∧ (state.counters .acceptedWork).value =
          Set.ncard { key | ∃ work, contents .work key = some (.work work) ∧ work.acceptedOutput.isSome }) ∧
      ((state.counters .openBlockingFindings).value =
          Set.ncard { key | ∃ entry, contents .findings key = some (.finding entry) ∧ entry.status = .open ∧
            blockingKind entry.finding.kind = true } ∧
        (state.counters .openAdvisoryFindings).value =
          Set.ncard { key | ∃ entry, contents .findings key = some (.finding entry) ∧ entry.status = .open ∧
            entry.finding.kind = .advisory }) ∧
      (∀ key entry counter, contents .findings key = some (.finding entry) → entry.status = .open →
        findingCounter entry.finding = some counter → decrementCounter state counter ≠ none) ∧
      ∀ record rejection, fold state record = .error rejection → rejection.code ≠ "finding-counter-underflow" := by
  obtain ⟨contents, reads, agree⟩ := run_keeps counters_preserved collisionFree (initial_counters_agree) accepted
  refine ⟨contents, reads, ⟨?_, ?_, ?_, ?_⟩, ⟨?_, ?_⟩, ⟨?_, ?_⟩, ?_, ?_⟩
  · exact counter_is_count reads (agree.tallied .declaredAtoms)
  · exact counter_is_count reads (agree.tallied .dispositionedAtoms)
  · exact counter_is_count reads (agree.tallied .declaredWork)
  · exact counter_is_count reads (agree.tallied .observedEvidence)
  · exact counter_is_count reads ((agree.tallied .acceptedWork).trans agree.submissions.symm)
  · rw [agree.tallied, tally_accepted_work]
  · rw [agree.tallied, tally_open_findings rfl rfl]
    simp only [finding_counter_blocking]
  · rw [agree.tallied, tally_open_findings rfl rfl]
    simp only [finding_counter_advisory]
  · intro key entry counter stored isOpen counts
    exact decrement_counter_some state (open_finding_counted agree stored isOpen counts)
  · exact fold_no_underflow collisionFree reads agree

end Underflow

section Sample

attribute [local instance] sampleWorld

theorem publication_counters_consistent : ∃ records state, records.length = 4 ∧
    foldMany (initialState sampleGenesis) records = .ok state ∧ state.counters .declaredWork = (state.indexes .work).count := by
  obtain ⟨records, counted, ran⟩ := intended_logged
  obtain ⟨_, _, ⟨_, _, declared, _⟩, _⟩ := counters_consistent sample_collision_free sampleGenesis records _ ran
  exact ⟨records, _, counted, ran, declared⟩

end Sample

end PiAutopilot.Authority
