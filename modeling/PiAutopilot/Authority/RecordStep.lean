import PiAutopilot.Authority.FactRefinement

set_option autoImplicit false

namespace PiAutopilot.Authority

open Lib Protocol

theorem decimal_equal {left right : DecimalNatural} (same : compareDecimalNatural left right = .equal) : left = right := by
  rw [compare_decimal_natural] at same
  split at same
  · cases same
  · split at same
    · rename_i value
      exact decimal_value_injective left right value
    · cases same

section RecordStep

variable [Hashing]

inductive FactSteps : RunState → Contents → List DomainFact → RunState → Contents → Prop where
  | nil (state : RunState) (contents : Contents) : FactSteps state contents [] state contents
  | cons {state middle after : RunState} {contents maps contents' : Contents} {facts : List DomainFact} (fact : DomainFact)
      (sameRun : fact.runId = state.identity.runId) (step : FactStep state contents fact.runId fact.body middle maps)
      (rest : FactSteps middle maps facts after contents') : FactSteps state contents (fact :: facts) after contents'

variable {facts : List DomainFact} {state : RunState}

theorem fact_steps_unwritten {after : RunState} {contents maps : Contents}
    (steps : FactSteps state contents facts after maps) {name : IndexName} (never : ∀ body, name ∉ writtenIndexes body) :
    maps name = contents name := by
  induction steps with
  | nil state contents => rfl
  | cons fact sameRun step _ ih => exact ih.trans (fact_step_unwritten step name (never _))

theorem fact_steps_envelope {after : RunState} {contents maps : Contents}
    (steps : FactSteps state contents facts after maps) : SameEnvelope state after := by
  induction steps with
  | nil state contents => exact ⟨rfl, rfl, rfl, rfl⟩
  | cons fact sameRun step _ ih => exact same_envelope_trans (fact_step_envelope step) ih

inductive IssueSteps : RunState → Contents → List Command → RunState → Contents → Prop where
  | nil (state : RunState) (contents : Contents) : IssueSteps state contents [] state contents
  | cons {state after : RunState} {contents contents' : Contents} {commands : List Command} (command : Command)
      (absent : contents .commands (indexKey .commands command.commandId.text) = none)
      (rest : IssueSteps (insertAt state contents .commands command.commandId.text (issuedValue command))
        (putAt contents .commands command.commandId.text (issuedValue command)) commands after contents') :
      IssueSteps state contents (command :: commands) after contents'

inductive SettleStep (state : RunState) (contents : Contents) (actionId : ActionId) : Option Settlement → RunState → Contents → Prop where
  | unsettling : SettleStep state contents actionId none state contents
  | settling (settlement : Settlement) (entry : CommandIndexValue)
      (stored : contents .commands (indexKey .commands settlement.commandId.text) = some (.command entry))
      (issued : entry.status = .issued) (sameAction : entry.command.actionId = actionId)
      (sameCommand : entry.command.commandId = settlement.commandId) :
      SettleStep state contents actionId (some settlement)
        (insertAt state contents .commands settlement.commandId.text (settledValue entry settlement.observation))
        (putAt contents .commands settlement.commandId.text (settledValue entry settlement.observation))

def issuedBy (draft : SemanticDraft) : List Command :=
  if draft.kind = .outcomeCommitted then [] else draft.commands

def actionValue (actionId : ActionId) (kind : ActionRecordKind) (sequence : DecimalNatural) : IndexValue :=
  .action ⟨actionId, kind, sequence⟩

-- One semantic commit: settle, then facts, then commands, then the action itself.
inductive SemanticStep (state : RunState) (contents : Contents) (draft : SemanticDraft) : RunState → Contents → Prop where
  | committed {settled folded issued : RunState} {settledMaps foldedMaps issuedMaps : Contents}
      (settle : SettleStep state contents draft.actionId draft.settlement settled settledMaps)
      (facts : FactSteps settled settledMaps draft.facts folded foldedMaps)
      (commands : IssueSteps folded foldedMaps (issuedBy draft) issued issuedMaps)
      (absent : issuedMaps .actions (indexKey .actions draft.actionId.text) = none) :
      SemanticStep state contents draft
        (insertAt issued issuedMaps .actions draft.actionId.text
          (actionValue draft.actionId draft.kind.recordKind draft.sequence))
        (putAt issuedMaps .actions draft.actionId.text (actionValue draft.actionId draft.kind.recordKind draft.sequence))

inductive SemanticFamily : JournalRecord → SemanticCommit → SemanticDraft → Prop where
  | decision (record : DecisionCommitted) :
      SemanticFamily (.decisionCommitted record) record.toSemanticCommit (decisionDraft record)
  | settlement (record : CommandSettled) :
      SemanticFamily (.commandSettled record) record.toSemanticCommit (settlementDraft record)
  | outcome (record : OutcomeCommitted) :
      SemanticFamily (.outcomeCommitted record) record.toSemanticCommit (outcomeDraft record)

inductive OutcomeStep (derived : RunState) (record : JournalRecord) (commit : SemanticCommit) : RunState → Prop where
  | running (noOutcome : recordOutcome record = none) (checks : T1Checks)
      (ineligible : eligibleOutcomeForState derived commit.pages = .ineligible checks) : OutcomeStep derived record commit derived
  | terminal (outcome eligible : TerminalOutcome) (checks : T1Checks) (hasOutcome : recordOutcome record = some outcome)
      (isEligible : eligibleOutcomeForState derived commit.pages = .eligible eligible checks)
      (same : terminalOutcomeDigest eligible = terminalOutcomeDigest outcome) :
      OutcomeStep derived record commit { derived with terminal := some ⟨commit.actionId, commit.sequence, outcome⟩ }

structure Envelope (state : RunState) (record : JournalRecord) : Prop where
  live : state.terminal = none
  sameRun : record.runId = state.identity.runId
  successor : record.sequence = incrementDecimalNatural state.lastSequence

inductive RecordStep (state : RunState) (contents : Contents) : JournalRecord → RunState → Contents → Prop where
  | semantic {record : JournalRecord} {commit : SemanticCommit} {draft : SemanticDraft} {derived after : RunState}
      {maps : Contents} (family : SemanticFamily record commit draft) (step : SemanticStep state contents draft derived maps)
      (outcome : OutcomeStep derived record commit after) :
      RecordStep state contents record { after with lastSequence := commit.sequence } maps
  | suspended (record : RunSuspended) (active : state.suspension = .active)
      (absent : contents .actions (indexKey .actions record.actionId.text) = none) :
      RecordStep state contents (.runSuspended record)
        { insertAt state contents .actions record.actionId.text (actionValue record.actionId .runSuspended record.sequence) with
          suspension := .suspended ⟨record.actionId, record.operatorRequestId, record.reason, record.sequence⟩
          lastSequence := record.sequence }
        (putAt contents .actions record.actionId.text (actionValue record.actionId .runSuspended record.sequence))
  | resumed (record : RunResumed) (suspension : Suspended) (suspended : state.suspension = .suspended suspension)
      (sameRequest : record.operatorRequestId = suspension.operatorRequestId)
      (sameSequence : record.resumeFromSequence = suspension.sequence)
      (absent : contents .actions (indexKey .actions record.actionId.text) = none) :
      RecordStep state contents (.runResumed record)
        { insertAt state contents .actions record.actionId.text (actionValue record.actionId .runResumed record.sequence) with
          suspension := .active
          lastSequence := record.sequence }
        (putAt contents .actions record.actionId.text (actionValue record.actionId .runResumed record.sequence))

theorem validate_envelope_ok {record : JournalRecord} (valid : validateEnvelope state record = .ok ()) : Envelope state record := by
  obtain ⟨live, valid⟩ := refused_ok valid
  obtain ⟨sameRun, valid⟩ := refused_ok valid
  split at valid
  · cases valid
  · cases valid
  · rename_i successor
    exact ⟨by simpa using live, not_not.mp sameRun, decimal_equal successor⟩

omit [Hashing] in
theorem exact_issued_some {value : Option IndexValue} {actionId : ActionId} {commandId : CommandId} {entry : CommandIndexValue}
    (found : exactIssued value actionId commandId = some entry) :
    value = some (.command entry) ∧ entry.status = .issued ∧ entry.command.actionId = actionId ∧ entry.command.commandId = commandId := by
  rw [exactIssued.eq_def] at found
  split at found
  · rename_i stored
    split at found
    · rename_i isExact
      obtain rfl := Option.some_inj.mp found
      exact ⟨rfl, isExact⟩
    · cases found
  · cases found

section Refinement

variable (collisionFree : CollisionFree IndexValue)
  {contents : Contents} {moved : IndexTransition} {pages : List IndexPage} {state : RunState}
  {derived : DerivedTransition} {draft : SemanticDraft} {commit : SemanticCommit} {record : JournalRecord}

include collisionFree

theorem transition_insert_ok (reads : Reads state contents) {name : IndexName} {identity : JsString} {next : IndexValue}
    (transitioned : transitionIndex state name identity next pages none = .ok moved) :
    contents name (indexKey name identity) = none ∧ moved.state = insertAt state contents name identity next := by
  rw [transitionIndex] at transitioned
  split at transitioned
  · cases transitioned
  · rename_i value witness proved
    obtain rfl := lookup_reads collisionFree reads proved
    obtain ⟨absent, transitioned⟩ := refused_ok transitioned
    rw [not_not, Option.map_eq_none_iff] at absent
    split at transitioned
    · cases transitioned
    · rename_i mutation prior prepared
      split at transitioned
      · cases transitioned
      · rename_i changed applied
        obtain ⟨rfl, rfl⟩ := prepare_sound collisionFree (reads name).represents.root prepared
        rw [apply_prepared _ _ (reads name).represents, MutationApplication.applied.injEq] at applied
        cases transitioned
        exact ⟨absent, by rw [← applied]; rfl⟩

theorem insert_commands_steps (state : RunState) (contents : Contents) (reads : Reads state contents) (commands : List Command)
    (pages : List IndexPage) (derived : DerivedTransition) (inserted : insertCommands state commands pages = .ok derived) :
    ∃ maps, IssueSteps state contents commands derived.state maps ∧ Reads derived.state maps := by
  induction commands generalizing state contents derived with
  | nil =>
    cases inserted
    exact ⟨contents, .nil state contents, reads⟩
  | cons command rest ih =>
    rw [insertCommands] at inserted
    obtain ⟨moved, transitioned, continued⟩ := bind_ok inserted
    obtain ⟨after, remaining, returned⟩ := bind_ok continued
    cases returned
    obtain ⟨absent, written⟩ := transition_insert_ok collisionFree reads transitioned
    have readsWritten := reads_insert reads .commands command.commandId.text (issuedValue command)
    rw [written] at remaining
    obtain ⟨maps, steps, readsAfter⟩ := ih _ _ readsWritten after remaining
    exact ⟨maps, .cons command absent steps, readsAfter⟩

theorem fold_facts_steps (state : RunState) (contents : Contents) (reads : Reads state contents) {facts : List DomainFact}
    (pages : List IndexPage) (derived : DerivedTransition) (folded : foldFacts state facts pages = .ok derived) :
    ∃ maps, FactSteps state contents facts derived.state maps ∧ Reads derived.state maps := by
  induction facts generalizing state contents derived with
  | nil =>
    cases folded
    exact ⟨contents, .nil state contents, reads⟩
  | cons fact rest ih =>
    rw [foldFacts] at folded
    split at folded
    · cases folded
    · rename_i applied first
      obtain ⟨after, remaining, returned⟩ := bind_ok folded
      cases returned
      obtain ⟨sameRun, middle, step, readsMiddle⟩ := fold_domain_fact_step collisionFree reads first
      obtain ⟨maps, steps, readsAfter⟩ := ih _ _ readsMiddle after remaining
      exact ⟨maps, .cons fact sameRun step steps, readsAfter⟩

variable (reads : Reads state contents)

include reads

theorem settle_command_step {actionId : ActionId} {settlement : Settlement}
    (settled : settleCommand state actionId pages settlement = .ok moved) :
    ∃ maps, SettleStep state contents actionId (some settlement) moved.state maps ∧ Reads moved.state maps := by
  rw [settleCommand] at settled
  split at settled
  · cases settled
  · rename_i value witness proved
    obtain rfl := lookup_reads collisionFree reads proved
    split at settled
    · cases settled
    · rename_i entry found
      obtain ⟨stored, issued, sameAction, sameCommand⟩ := exact_issued_some found
      split at settled
      · cases settled
      · rename_i mutation prior prepared
        split at settled
        · cases settled
        · rename_i changed applied
          obtain ⟨rfl, rfl⟩ := prepare_sound collisionFree (reads .commands).represents.root prepared
          rw [apply_prepared _ _ (reads .commands).represents, MutationApplication.applied.injEq] at applied
          cases settled
          subst applied
          exact ⟨_, .settling settlement entry stored issued sameAction sameCommand, reads_insert reads _ _ _⟩

theorem derive_settlement_step (settled : deriveSettlement state draft = .ok derived) :
    ∃ maps, SettleStep state contents draft.actionId draft.settlement derived.state maps ∧ Reads derived.state maps := by
  rw [deriveSettlement] at settled
  split at settled
  · cases settled
  · rename_i settlement _ hasSettlement
    obtain ⟨moved, step, returned⟩ := bind_ok settled
    cases returned
    rw [hasSettlement]
    exact settle_command_step collisionFree reads step
  · cases settled
  · rename_i noSettlement _
    cases settled
    rw [noSettlement]
    exact ⟨contents, .unsettling, reads⟩

theorem derive_semantic_step (semantic : deriveSemanticTransition state draft = .ok derived) :
    ∃ maps, SemanticStep state contents draft derived.state maps ∧ Reads derived.state maps := by
  rw [deriveSemanticTransition] at semantic
  obtain ⟨settled, settling, afterSettle⟩ := bind_ok semantic
  obtain ⟨folded, folding, afterFold⟩ := bind_ok afterSettle
  obtain ⟨issued, issuing, afterIssue⟩ := bind_ok afterFold
  obtain ⟨action, acting, returned⟩ := bind_ok afterIssue
  cases returned
  obtain ⟨settledMaps, settle, readsSettled⟩ := derive_settlement_step collisionFree reads settling
  obtain ⟨foldedMaps, facts, readsFolded⟩ := fold_facts_steps collisionFree _ _ readsSettled _ folded folding
  obtain ⟨issuedMaps, commands, readsIssued⟩ := insert_commands_steps collisionFree _ _ readsFolded _ _ issued issuing
  obtain ⟨absent, written⟩ := transition_insert_ok collisionFree readsIssued acting
  refine ⟨putAt issuedMaps .actions draft.actionId.text (actionValue draft.actionId draft.kind.recordKind draft.sequence), ?_, ?_⟩
  · rw [written]
    exact .committed settle facts commands absent
  · rw [written]
    exact reads_insert readsIssued _ _ _

omit collisionFree reads

theorem commit_outcome_step {derived after : RunState}
    (committed : commitOutcome state derived record commit = .ok after) : OutcomeStep derived record commit after := by
  rw [commitOutcome] at committed
  split at committed
  · rename_i outcome hasOutcome
    obtain ⟨_, committed⟩ := refused_ok committed
    split at committed
    · rename_i eligible checks isEligible
      obtain ⟨agrees, committed⟩ := refused_ok committed
      simp only [not_or, Bool.not_eq_true', Bool.not_eq_false, not_not] at agrees
      cases committed
      exact .terminal outcome eligible checks hasOutcome isEligible (of_decide_eq_true agrees.1)
    · cases committed
  · rename_i noOutcome
    obtain ⟨_, committed⟩ := refused_ok committed
    split at committed
    · cases committed
    · rename_i checks ineligible
      cases committed
      exact .running noOutcome checks ineligible

include collisionFree reads

theorem apply_semantic_record_step {after : RunState} (family : SemanticFamily record commit draft)
    (applied : applySemanticRecord state record commit draft = .ok after) :
    ∃ maps, RecordStep state contents record after maps ∧ Reads after maps := by
  rw [applySemanticRecord] at applied
  obtain ⟨_, applied⟩ := refused_ok applied
  split at applied
  · cases applied
  · rename_i derived semantic
    obtain ⟨_, applied⟩ := refused_ok applied
    obtain ⟨terminated, committed, checked⟩ := bind_ok applied
    obtain ⟨maps, step, readsDerived⟩ := derive_semantic_step collisionFree reads semantic
    have outcome := commit_outcome_step committed
    simp only at checked
    obtain ⟨_, checked⟩ := refused_ok checked
    cases checked
    refine ⟨maps, .semantic family step outcome, reads_of_indexes derived.state _ readsDerived ?_⟩
    cases outcome <;> rfl

theorem apply_lifecycle_step {after : RunState} {commit : LifecycleCommit} {kind : ActionRecordKind} (applied : applyLifecycle state record commit kind = .ok after) :
    ∃ suspension, lifecycleSuspension state record = .ok suspension ∧ contents .actions (indexKey .actions commit.actionId.text) = none ∧
      after = { insertAt state contents .actions commit.actionId.text (actionValue commit.actionId kind commit.sequence) with
        suspension := suspension
        lastSequence := commit.sequence } := by
  rw [applyLifecycle] at applied
  split at applied
  · cases applied
  · rename_i suspension permitted
    split at applied
    · cases applied
    · rename_i action inserted
      obtain ⟨absent, written⟩ := transition_insert_ok collisionFree reads inserted
      obtain ⟨_, applied⟩ := refused_ok applied
      simp only at applied
      obtain ⟨_, applied⟩ := refused_ok applied
      cases applied
      refine ⟨suspension, permitted, absent, ?_⟩
      rw [written]
      rfl

theorem fold_step {after : RunState} (folded : fold state record = .ok after) :
    Envelope state record ∧ ∃ maps, RecordStep state contents record after maps ∧ Reads after maps := by
  rw [fold.eq_def] at folded
  obtain ⟨_, valid, applied⟩ := bind_ok folded
  refine ⟨validate_envelope_ok valid, ?_⟩
  cases record with
  | runGenesis body => cases applied
  | decisionCommitted body => exact apply_semantic_record_step collisionFree reads (.decision body) applied
  | commandSettled body => exact apply_semantic_record_step collisionFree reads (.settlement body) applied
  | outcomeCommitted body => exact apply_semantic_record_step collisionFree reads (.outcome body) applied
  | runSuspended body =>
    obtain ⟨suspension, permitted, absent, rfl⟩ := apply_lifecycle_step collisionFree reads applied
    have readsAfter := reads_insert reads .actions body.actionId.text (actionValue body.actionId .runSuspended body.sequence)
    rw [lifecycleSuspension] at permitted
    split at permitted
    · rename_i active
      cases permitted
      exact ⟨_, .suspended body active absent, reads_of_indexes _ _ readsAfter rfl⟩
    · cases permitted
  | runResumed body =>
    obtain ⟨suspension, permitted, absent, rfl⟩ := apply_lifecycle_step collisionFree reads applied
    have readsAfter := reads_insert reads .actions body.actionId.text (actionValue body.actionId .runResumed body.sequence)
    rw [lifecycleSuspension] at permitted
    split at permitted
    · cases permitted
    · rename_i prior suspended
      obtain ⟨bindsSuspension, permitted⟩ := refused_ok permitted
      simp only [not_or, not_not] at bindsSuspension
      cases permitted
      exact ⟨_, .resumed body prior suspended bindsSuspension.1 bindsSuspension.2 absent, reads_of_indexes _ _ readsAfter rfl⟩

end Refinement

end RecordStep

end PiAutopilot.Authority
