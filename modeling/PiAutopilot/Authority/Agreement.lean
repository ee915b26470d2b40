import PiAutopilot.Authority.Prepare
import PiAutopilot.Authority.RecordStep

set_option autoImplicit false

namespace PiAutopilot.Authority

open Protocol
open Lib

section Envelope

variable [Hashing]

theorem universal_rejection_passes {state : RunState} {runId : RunId} {actionId : ActionId} {pages : List IndexPage}
    (passed : universalRejection state runId actionId pages = .ok ()) :
    runId = state.identity.runId ∧ state.terminal = none := by
  obtain ⟨run, passed⟩ := refused_ok passed
  obtain ⟨active, passed⟩ := refused_ok passed
  exact ⟨not_not.mp run, Option.not_isSome_iff_eq_none.mp active⟩

-- A record that names the run, the next sequence number and the prior digest passes the envelope of an open run.
theorem envelope_valid (state : RunState) {record : JournalRecord} (active : state.terminal = none)
    (run : record.runId = state.identity.runId) (sequence : record.sequence = incrementDecimalNatural state.lastSequence)
    (prior : record.priorStateDigest = some (stateDigest state)) : validateEnvelope state record = .ok () := by
  simp [validateEnvelope, active, run, sequence, prior, compare_decimal_natural]

theorem mutations_equal_refl (mutations : List IndexMutation) : mutationsEqual mutations mutations = true := by
  simp [mutationsEqual]

theorem same_outcome_refl {outcome : TerminalOutcome} : sameOutcome outcome outcome = true := by
  simp [sameOutcome]

-- What the record says about the outcome is what replay finds eligible after the transition.
structure OutcomeBound (derived : RunState) (record : JournalRecord) (pages : List IndexPage) : Prop where
  outcome : recordOutcome record = determineTerminalOutcome derived pages
  eligibility : recordEligibility record = (recordOutcome record).map fun _ => stateDigest derived
  family : record.kind = .decisionCommitted → recordOutcome record = none

theorem commit_outcome_agrees (state : RunState) {derived : RunState} {record : JournalRecord} {commit : SemanticCommit}
    (bound : OutcomeBound derived record commit.pages) :
    commitOutcome state derived record commit = .ok (withOutcome derived commit.actionId commit.sequence (recordOutcome record)) := by
  have outcome := bound.outcome
  have eligibility := bound.eligibility
  have family := bound.family
  rw [determineTerminalOutcome] at outcome
  rw [commitOutcome]
  cases eligible : eligibleOutcomeForState derived commit.pages with
  | eligible found checks =>
    rw [eligible] at outcome
    rw [outcome] at eligibility family ⊢
    have notDecision : record.kind ≠ .decisionCommitted := fun decision => by simpa using family decision
    simp [notDecision, eligibility, same_outcome_refl, withOutcome]
  | ineligible checks =>
    rw [eligible] at outcome
    rw [outcome] at eligibility ⊢
    simp [eligibility, withOutcome]

-- Replay of a semantic record recomputes the transition from the same draft, so every comparison is with itself.
theorem semantic_record_applies (state : RunState) (record : JournalRecord) (commit : SemanticCommit) (draft : SemanticDraft)
    (derived : DerivedTransition) (roots : recordSemanticRootsMatch record = true)
    (transition : deriveSemanticTransition state draft = .ok derived) (mutations : commit.mutations = derived.mutations)
    (bound : OutcomeBound derived.state record commit.pages)
    (result : commit.resultStateDigest =
      stateDigest (committedState derived.state commit.actionId commit.sequence (recordOutcome record))) :
    applySemanticRecord state record commit draft =
      .ok (committedState derived.state commit.actionId commit.sequence (recordOutcome record)) := by
  have committed := commit_outcome_agrees state bound
  rw [applySemanticRecord, transition]
  simp only [roots, mutations, mutations_equal_refl, committed]
  simp only [committedState] at result ⊢
  simp [bind, Except.bind, result]

theorem lifecycle_applies (state : RunState) (record : JournalRecord) (commit : LifecycleCommit) (kind : ActionRecordKind)
    (suspension : SuspensionState) (action : IndexTransition) (allowed : lifecycleSuspension state record = .ok suspension)
    (inserted : insertAction state commit.actionId kind commit.sequence commit.pages = .ok action)
    (mutations : commit.mutations = [action.mutation])
    (result : commit.resultStateDigest = stateDigest { action.state with suspension := suspension, lastSequence := commit.sequence }) :
    applyLifecycle state record commit kind = .ok { action.state with suspension := suspension, lastSequence := commit.sequence } := by
  rw [applyLifecycle, allowed]
  simp only [inserted, mutations, mutations_equal_refl]
  simp [result]

end Envelope

section Agreement

variable [StimulusHashing] (state : RunState) (stimulus : Stimulus) (facts : List DomainFact)

theorem dispatch_admission_active (admitted : dispatchAdmission state stimulus = .ok facts) : state.terminal = none := by
  cases stimulus with
  | _ request =>
    obtain ⟨_, passed, _⟩ := bind_ok admitted
    exact (universal_rejection_passes passed).2

variable {derived : DerivedTransition} {draft : SemanticDraft} {outcome proposed : Option TerminalOutcome}

-- A record that carries the assembled fields folds, whichever family it belongs to.
theorem semantic_folds {record : JournalRecord}
    (valid : validateEnvelope state record = .ok ()) (roots : recordSemanticRootsMatch record = true)
    (transition : deriveSemanticTransition state draft = .ok derived)
    (bound : OutcomeBound derived.state record stimulus.pages) (carried : recordOutcome record = outcome)
    (body : fold state record = validateEnvelope state record >>= fun _ =>
      applySemanticRecord state record (semanticCommit state stimulus facts derived outcome) draft) :
    fold state record = .ok (committedState derived.state stimulus.actionId (incrementDecimalNatural state.lastSequence) outcome) := by
  subst carried
  have applies := semantic_record_applies state record (semanticCommit state stimulus facts derived (recordOutcome record))
    draft derived roots transition rfl bound rfl
  rw [body, valid]
  exact applies

variable (commit : PreparedCommit)

theorem mint_passes (roots : recordSemanticRootsMatch commit.record = true) : mint commit = .ok commit := by
  rw [mint, roots]
  rfl

variable (commands : List Command)

theorem command_commit_matches : commandRootsMatch (commandCommit commands) = true := by
  simp [commandRootsMatch, commandCommit, canonicalCommandArtifact]

theorem semantic_commit_matches (derived : DerivedTransition)
    (outcome : Option TerminalOutcome) : factRootMatches (semanticCommit state stimulus facts derived outcome) = true := by
  simp [factRootMatches, semanticCommit]

theorem minted_folds {commit : PreparedCommit} (active : state.terminal = none)
    (envelope : commit.record.runId = state.identity.runId ∧ commit.record.sequence = incrementDecimalNatural state.lastSequence ∧
      commit.record.priorStateDigest = some (stateDigest state))
    (roots : recordSemanticRootsMatch commit.record = true)
    (transition : deriveSemanticTransition state draft = .ok derived)
    (bound : OutcomeBound derived.state commit.record stimulus.pages) (carried : recordOutcome commit.record = outcome)
    (result : commit.record.resultStateDigest = some (semanticCommit state stimulus facts derived outcome).resultStateDigest)
    (body : fold state commit.record = validateEnvelope state commit.record >>= fun _ =>
      applySemanticRecord state commit.record (semanticCommit state stimulus facts derived outcome) draft) :
    ∃ minted, mint commit = .ok minted ∧ fold state minted.record = .ok (committedState derived.state stimulus.actionId
        (incrementDecimalNatural state.lastSequence) outcome) ∧
      minted.record.resultStateDigest = some (semanticCommit state stimulus facts derived outcome).resultStateDigest := by
  have valid := envelope_valid state active envelope.1 envelope.2.1 envelope.2.2
  exact ⟨commit, mint_passes commit roots, semantic_folds state stimulus facts valid roots transition bound carried body, result⟩

-- Assembly succeeds when the transition is derivable and both outcomes agree. The three record families: which one
-- is chosen fixes the outcome and the commands.
theorem assemble_semantic_folds (active : state.terminal = none)
    (installed : ((settlementOf stimulus).any fun settlement => !settlementInstalled settlement) = false)
    (transition : deriveSemanticTransition state (semanticDraft state stimulus facts commands proposed) = .ok derived)
    (agree : outcomesAgree proposed (determineTerminalOutcome derived.state stimulus.pages) = true) :
    ∃ commit, assembleSemantic state stimulus facts commands proposed = .ok commit ∧
      fold state commit.record = .ok (committedState derived.state stimulus.actionId
        (incrementDecimalNatural state.lastSequence) (determineTerminalOutcome derived.state stimulus.pages)) ∧
      commit.record.resultStateDigest = some (semanticCommit state stimulus facts derived
        (determineTerminalOutcome derived.state stimulus.pages)).resultStateDigest := by
  rw [assembleSemantic, transition]
  simp only [installed, agree]
  generalize found : determineTerminalOutcome derived.state stimulus.pages = outcome at agree
  rw [semanticDraft] at transition
  have factsMatch := semantic_commit_matches state stimulus facts derived
  have commandsMatch := command_commit_matches (effectiveCommands commands proposed)
  cases settlement : settlementOf stimulus with
  | some observed =>
    have kind : recordKindFor stimulus proposed = .commandSettled := by simp [recordKindFor, settlement]
    rw [kind, settlement] at transition
    rw [settlement] at installed
    have matched : settlementInstalled observed = true := by simpa using installed
    rw [kind]
    refine minted_folds state stimulus facts active ⟨rfl, rfl, rfl⟩ ?_ transition
      ⟨found.symm, rfl, by simp [PreparedCommit.record, JournalRecord.kind]⟩ rfl rfl rfl
    simp only [PreparedCommit.record, recordSemanticRootsMatch, factsMatch, commandsMatch]
    exact matched
  | none =>
    cases proposed with
    | none =>
      have kind : recordKindFor stimulus none = .decisionCommitted := by simp [recordKindFor, settlement]
      rw [kind, settlement] at transition
      rw [kind]
      cases outcome with
      | some found => simp [outcomesAgree] at agree
      | none =>
        refine minted_folds state stimulus facts active ⟨rfl, rfl, rfl⟩ ?_ transition ⟨found.symm, rfl, fun _ => rfl⟩ rfl rfl rfl
        simp only [PreparedCommit.record, recordSemanticRootsMatch, factsMatch, commandsMatch]
        rfl
    | some wanted =>
      have kind : recordKindFor stimulus (some wanted) = .outcomeCommitted := by simp [recordKindFor, settlement]
      rw [kind, settlement] at transition
      rw [kind]
      cases outcome with
      | none => simp [outcomesAgree] at agree
      | some reached =>
        exact minted_folds state stimulus facts active ⟨rfl, rfl, rfl⟩ (factsMatch _)
          transition ⟨found.symm, rfl, by simp [PreparedCommit.record, JournalRecord.kind]⟩ rfl rfl rfl

theorem assemble_semantic_ok {commit : PreparedCommit}
    (assembled : assembleSemantic state stimulus facts commands proposed = .ok commit) :
    ∃ derived, ((settlementOf stimulus).any fun settlement => !settlementInstalled settlement) = false ∧
      deriveSemanticTransition state (semanticDraft state stimulus facts commands proposed) = .ok derived ∧
      outcomesAgree proposed (determineTerminalOutcome derived.state stimulus.pages) = true := by
  rw [assembleSemantic] at assembled
  split at assembled
  · cases assembled
  rename_i installed
  split at assembled
  · cases assembled
  rename_i derived transition
  split at assembled
  · cases assembled
  rename_i agree
  exact ⟨derived, by simpa using installed, transition, by simpa using agree⟩

theorem lifecycle_action_ok (kind : ActionRecordKind) (action : IndexTransition)
    (derived : lifecycleAction state stimulus kind = .ok action) :
    insertAction state stimulus.actionId kind (incrementDecimalNatural state.lastSequence) stimulus.pages = .ok action := by
  rw [lifecycleAction] at derived
  split at derived
  · cases derived
  · rename_i found inserted
    cases derived
    exact inserted

theorem lifecycle_folds (state next : RunState) (stimulus : Stimulus) (record : JournalRecord)
    (operatorRequestId : OperatorRequestId) (kind : ActionRecordKind) (suspension : SuspensionState) (action : IndexTransition)
    (valid : validateEnvelope state record = .ok ()) (allowed : lifecycleSuspension state record = .ok suspension)
    (inserted : lifecycleAction state stimulus kind = .ok action)
    (reached : next = { action.state with suspension := suspension, lastSequence := incrementDecimalNatural state.lastSequence })
    (body : fold state record = validateEnvelope state record >>= fun _ =>
      applyLifecycle state record (lifecycleCommit state next stimulus operatorRequestId action.mutation) kind) :
    fold state record = .ok next := by
  have applies := lifecycle_applies state record (lifecycleCommit state next stimulus operatorRequestId action.mutation) kind
    suspension action allowed (lifecycle_action_ok state stimulus kind action inserted) rfl (congrArg stateDigest reached)
  rw [body, valid, reached]
  rw [reached] at applies
  exact applies

-- A suspension of a running state, and a resumption that names the suspension, are assembled and fold.
theorem suspension_folds (stimulus : OperatorSuspendRequested) (action : IndexTransition)
    (active : state.terminal = none) (running : state.suspension = .active)
    (inserted : lifecycleAction state (.operatorSuspendRequested stimulus) .runSuspended = .ok action) :
    ∃ commit, assembleSuspension state stimulus = .ok commit ∧ fold state commit.record = .ok (suspendedState state action.state stimulus) ∧
      commit.record.resultStateDigest = some (stateDigest (suspendedState state action.state stimulus)) := by
  rw [assembleSuspension, inserted]
  show ∃ commit, mint (.suspension _) = .ok commit ∧ _ ∧ _
  refine ⟨_, mint_passes _ rfl, ?_, rfl⟩
  refine lifecycle_folds state (suspendedState state action.state stimulus) (.operatorSuspendRequested stimulus) _
    stimulus.operatorRequestId .runSuspended (suspendedState state action.state stimulus).suspension action
    (envelope_valid state active rfl rfl rfl) ?_ inserted rfl rfl
  simp only [PreparedCommit.record, lifecycleSuspension, running]
  rfl

theorem resumption_folds (stimulus : OperatorResumeRequested) (action : IndexTransition)
    (suspension : Suspended) (active : state.terminal = none) (stopped : state.suspension = .suspended suspension)
    (request : stimulus.operatorRequestId = suspension.operatorRequestId)
    (sequence : stimulus.resumeFromSequence = suspension.sequence)
    (inserted : lifecycleAction state (.operatorResumeRequested stimulus) .runResumed = .ok action) :
    ∃ commit, assembleResumption state stimulus = .ok commit ∧ fold state commit.record = .ok (resumedState state action.state) ∧
      commit.record.resultStateDigest = some (stateDigest (resumedState state action.state)) := by
  rw [assembleResumption, inserted]
  show ∃ commit, mint (.resumption _) = .ok commit ∧ _ ∧ _
  refine ⟨_, mint_passes _ rfl, ?_, rfl⟩
  refine lifecycle_folds state (resumedState state action.state) (.operatorResumeRequested stimulus) _
    stimulus.operatorRequestId .runResumed .active action (envelope_valid state active rfl rfl rfl) ?_ inserted rfl rfl
  simp [PreparedCommit.record, lifecycleSuspension, stopped, lifecycleCommit, request, sequence]

theorem admit_suspend_running {stimulus : OperatorSuspendRequested} {facts : List DomainFact}
    (admitted : admitOperatorSuspend state stimulus = .ok facts) : facts = [] ∧ state.suspension = .active := by
  obtain ⟨_, _, running⟩ := bind_ok admitted
  split at running
  · rename_i suspension
    exact ⟨(Except.ok.inj running).symm, suspension⟩
  · cases running

theorem admit_resume_binds {stimulus : OperatorResumeRequested} {facts : List DomainFact}
    (admitted : admitOperatorResume state stimulus = .ok facts) :
    facts = [] ∧ ∃ suspension, state.suspension = .suspended suspension ∧
      stimulus.operatorRequestId = suspension.operatorRequestId ∧ stimulus.resumeFromSequence = suspension.sequence := by
  obtain ⟨_, _, suspended⟩ := bind_ok admitted
  split at suspended
  · cases suspended
  rename_i suspension recorded
  obtain ⟨binding, suspended⟩ := required_ok suspended
  exact ⟨(Except.ok.inj suspended).symm, suspension, recorded, binding.1, binding.2⟩

theorem prepare_ok (prepared : prepare state stimulus = .ok commit) : ∃ facts prospective commands,
      dispatchAdmission state stimulus = .ok facts ∧ prospectiveFactsState state facts stimulus.pages = .ok prospective ∧
      reactionCommands state facts stimulus (prospectiveOutcome prospective stimulus) = .ok commands ∧
      assemblePreparedCommit state stimulus facts commands (prospectiveOutcome prospective stimulus) = .ok commit := by
  obtain ⟨facts, admitted, rest⟩ := bind_ok prepared
  obtain ⟨prospective, folded, rest⟩ := bind_ok rest
  obtain ⟨commands, reacted, assembled⟩ := bind_ok rest
  exact ⟨facts, prospective, commands, admitted, folded, reacted, assembled⟩

-- What one accepted stimulus does, with everything prepare computed on the way.
inductive PreparedStep (state : RunState) : Stimulus → RunState → Prop
  | suspended (request : OperatorSuspendRequested) (action : IndexTransition)
      (admitted : admitOperatorSuspend state request = .ok [])
      (inserted : lifecycleAction state (.operatorSuspendRequested request) .runSuspended = .ok action) :
      PreparedStep state (.operatorSuspendRequested request) (suspendedState state action.state request)
  | resumed (request : OperatorResumeRequested) (action : IndexTransition)
      (admitted : admitOperatorResume state request = .ok [])
      (inserted : lifecycleAction state (.operatorResumeRequested request) .runResumed = .ok action) :
      PreparedStep state (.operatorResumeRequested request) (resumedState state action.state)
  | semantic (stimulus : Stimulus) (facts : List DomainFact) (prospective : RunState) (commands : List Command)
      (derived : DerivedTransition) (semantic : isLifecycleRequest stimulus = false)
      (admitted : dispatchAdmission state stimulus = .ok facts)
      (folded : prospectiveFactsState state facts stimulus.pages = .ok prospective)
      (reacted : reactionCommands state facts stimulus (determineTerminalOutcome prospective stimulus.pages) = .ok commands)
      (checked : commonChecks state stimulus facts commands = .ok ())
      (transition : deriveSemanticTransition state
        (semanticDraft state stimulus facts commands (determineTerminalOutcome prospective stimulus.pages)) = .ok derived)
      (agree : outcomesAgree (determineTerminalOutcome prospective stimulus.pages)
        (determineTerminalOutcome derived.state stimulus.pages) = true) :
      PreparedStep state stimulus
        (committedState derived.state stimulus.actionId (incrementDecimalNatural state.lastSequence)
          (determineTerminalOutcome derived.state stimulus.pages))

theorem prepare_step (prepared : prepare state stimulus = .ok commit) :
    ∃ after, PreparedStep state stimulus after ∧ fold state commit.record = .ok after ∧
      commit.record.resultStateDigest = some (stateDigest after) := by
  obtain ⟨facts, prospective, commands, admitted, folded, reacted, assembled⟩ := prepare_ok state stimulus commit prepared
  have active := dispatch_admission_active state stimulus facts admitted
  obtain ⟨_, checked, body⟩ := bind_ok assembled
  cases lifecycle : isLifecycleRequest stimulus with
  | true =>
    cases stimulus with
    | operatorSuspendRequested request =>
      obtain ⟨_, _, suspending⟩ := bind_ok body
      obtain ⟨rfl, running⟩ := admit_suspend_running state admitted
      obtain ⟨action, inserted, _⟩ := bind_ok suspending
      obtain ⟨same, again, folds, result⟩ := suspension_folds state request action active running inserted
      rw [suspending] at again
      cases again
      exact ⟨_, .suspended request action admitted inserted, folds, result⟩
    | operatorResumeRequested request =>
      obtain ⟨_, _, resuming⟩ := bind_ok body
      obtain ⟨rfl, suspension, stopped, operator, sequence⟩ := admit_resume_binds state admitted
      obtain ⟨action, inserted, _⟩ := bind_ok resuming
      obtain ⟨same, again, folds, result⟩ := resumption_folds state request action suspension active stopped operator sequence inserted
      rw [resuming] at again
      cases again
      exact ⟨_, .resumed request action admitted inserted, folds, result⟩
    | _ => cases lifecycle
  | false =>
    have outcome : prospectiveOutcome prospective stimulus = determineTerminalOutcome prospective stimulus.pages := by
      rw [prospectiveOutcome, lifecycle]
      rfl
    rw [outcome] at reacted body
    have semantic : assembleSemantic state stimulus facts commands (determineTerminalOutcome prospective stimulus.pages) = .ok commit := by
      cases stimulus with
      | operatorSuspendRequested request => cases lifecycle
      | operatorResumeRequested request => cases lifecycle
      | _ => exact body
    obtain ⟨derived, installed, transition, agree⟩ := assemble_semantic_ok state stimulus facts commands semantic
    obtain ⟨same, again, folds, result⟩ := assemble_semantic_folds state stimulus facts commands active installed transition agree
    rw [semantic] at again
    cases again
    exact ⟨_, .semantic stimulus facts prospective commands derived lifecycle admitted folded reacted checked transition agree,
      folds, result⟩

theorem prepared_step_sequence {state after : RunState} {stimulus : Stimulus} (step : PreparedStep state stimulus after) :
    after.lastSequence = incrementDecimalNatural state.lastSequence := by
  cases step <;> rfl

end Agreement

end PiAutopilot.Authority
