import PiAutopilot.Authority.Records

set_option autoImplicit false

namespace PiAutopilot.Authority

open Protocol

structure TransitionFailure where
  code : String
  diagnostic : JsString

structure IndexTransition where
  state : RunState
  mutation : IndexMutation

structure DerivedTransition where
  state : RunState
  mutations : List IndexMutation

structure FoldRejection where
  state : RunState
  recordKind : RecordKind
  code : String
  diagnostic : JsString

abbrev FoldResult := Except FoldRejection RunState

def foldRejected {α : Type} (state : RunState) (record : JournalRecord) (code : String) (diagnostic : JsString) : Except FoldRejection α :=
  .error ⟨state, record.kind, code, diagnostic⟩

structure Settlement where
  commandId : CommandId
  observation : ArtifactRef
  observationDigest : Digest

inductive SemanticKind where
  | decisionCommitted
  | commandSettled
  | outcomeCommitted
  deriving DecidableEq

def SemanticKind.recordKind : SemanticKind → ActionRecordKind
  | .decisionCommitted => .decisionCommitted
  | .commandSettled => .commandSettled
  | .outcomeCommitted => .outcomeCommitted

structure ActionDraft where
  kind : ActionRecordKind
  actionId : ActionId
  sequence : DecimalNatural
  pages : List IndexPage

structure SemanticDraft where
  kind : SemanticKind
  actionId : ActionId
  sequence : DecimalNatural
  facts : List DomainFact
  commands : List Command
  pages : List IndexPage
  settlement : Option Settlement

section Fold

variable [Hashing] (state : RunState)

def transitionIndex (name : IndexName) (identity : JsString) (next : IndexValue) (pages : List IndexPage)
    (expectedPriorKind : Option IndexValueKind) : Except TransitionFailure IndexTransition :=
  let index := state.indexes name
  let key := indexKey name identity
  match lookupIndex index key pages with
  | .unproven diagnostic => .error ⟨"page-unproven", diagnostic⟩
  | .proved value _ =>
    if value.map IndexValue.kind ≠ expectedPriorKind then
      .error ⟨"index-prior-mismatch", js name.label ++ js "/" ++ identity ++ js " has an unexpected prior value"⟩
    else
      match prepareIndexMutation index key (some next) pages with
      | .unproven diagnostic => .error ⟨"page-unproven", diagnostic⟩
      | .prepared mutation _ =>
        match applyIndexMutation index mutation value (some next) with
        | .rejected diagnostic => .error ⟨"index-proof-invalid", diagnostic⟩
        | .applied changed =>
          .ok ⟨{ state with indexes := replaceIndex state.indexes name changed }, mutation⟩

def issuedValue (command : Command) : IndexValue := .command ⟨command, command.commandId, none, .issued⟩

def insertCommands (state : RunState) (commands : List Command) (pages : List IndexPage) : Except TransitionFailure DerivedTransition :=
  match commands with
  | [] => .ok ⟨state, []⟩
  | command :: rest => do
    let inserted ← transitionIndex state .commands command.commandId.text (issuedValue command) pages none
    let after ← insertCommands inserted.state rest pages
    pure ⟨after.state, inserted.mutation :: after.mutations⟩

def insertAction (actionId : ActionId) (recordKind : ActionRecordKind) (sequence : DecimalNatural)
    (pages : List IndexPage) : Except TransitionFailure IndexTransition :=
  transitionIndex state .actions actionId.text (.action ⟨actionId, recordKind, sequence⟩) pages none

def mutationsEqual (left right : List IndexMutation) : Bool := left.map indexMutationDigest = right.map indexMutationDigest

def sameOutcome (left right : TerminalOutcome) : Bool := terminalOutcomeDigest left = terminalOutcomeDigest right

variable (record : JournalRecord)

def validateEnvelope : Except FoldRejection Unit :=
  if state.terminal.isSome then
    foldRejected state record "post-terminal" (js "no record is admissible after a committed terminal")
  else if record.runId ≠ state.identity.runId then
    foldRejected state record "run-mismatch" (js "record belongs to another run")
  else
    match compareDecimalNatural record.sequence (incrementDecimalNatural state.lastSequence) with
    | .less => foldRejected state record "stale-sequence" (js "record sequence is stale or duplicate")
    | .greater => foldRejected state record "sequence-gap" (js "record sequence skips the exact successor")
    | .equal =>
      if record.priorStateDigest.any fun digest => digest ≠ stateDigest state then
        foldRejected state record "prior-state-mismatch" (js "record was prepared against a different authoritative state")
      else .ok ()

def deriveActionTransition (draft : ActionDraft) : Except TransitionFailure IndexTransition :=
  insertAction state draft.actionId draft.kind draft.sequence draft.pages

def exactIssued (value : Option IndexValue) (actionId : ActionId) (commandId : CommandId) : Option CommandIndexValue :=
  match value with
  | some (.command entry) =>
    if entry.status = .issued ∧ entry.command.actionId = actionId ∧ entry.command.commandId = commandId then some entry
    else none
  | _ => none

def settledValue (entry : CommandIndexValue) (observation : ArtifactRef) : IndexValue :=
  .command { entry with observation := some observation, status := .settled }

def settleCommand (actionId : ActionId) (pages : List IndexPage) (settlement : Settlement) : Except TransitionFailure IndexTransition :=
  let index := state.indexes .commands
  let key := indexKey .commands settlement.commandId.text
  let notIssued : Except TransitionFailure IndexTransition :=
    .error ⟨"command-not-issued", js "settlement does not bind the exact proved issued command action"⟩
  match lookupIndex index key pages with
  | .unproven _ => notIssued
  | .proved value _ =>
    match exactIssued value actionId settlement.commandId with
    | none => notIssued
    | some entry =>
      match prepareIndexMutation index key (some (settledValue entry settlement.observation)) pages with
      | .unproven diagnostic => .error ⟨"page-unproven", diagnostic⟩
      | .prepared mutation _ =>
        match applyIndexMutation index mutation value (some (settledValue entry settlement.observation)) with
        | .rejected diagnostic => .error ⟨"index-proof-invalid", diagnostic⟩
        | .applied changed =>
          .ok ⟨{ state with indexes := replaceIndex state.indexes .commands changed }, mutation⟩

def deriveSettlement (draft : SemanticDraft) : Except TransitionFailure DerivedTransition :=
  match draft.kind, draft.settlement with
  | .commandSettled, none =>
    .error ⟨"settlement-missing", js "command settlement requires its exact observation"⟩
  | .commandSettled, some settlement => do
    let settled ← settleCommand state draft.actionId draft.pages settlement
    pure ⟨settled.state, [settled.mutation]⟩
  | _, some _ => .error ⟨"unexpected-settlement", js "only command-settled may carry a settlement"⟩
  | _, none => .ok ⟨state, []⟩

def foldFacts (state : RunState) (facts : List DomainFact) (pages : List IndexPage) : Except TransitionFailure DerivedTransition :=
  match facts with
  | [] => .ok ⟨state, []⟩
  | fact :: rest =>
    match foldDomainFact state fact pages none with
    | .error rejection => .error ⟨rejection.code, rejection.diagnostic⟩
    | .ok applied => do
      let after ← foldFacts applied.state rest pages
      pure ⟨after.state, applied.mutations ++ after.mutations⟩

def deriveSemanticTransition (draft : SemanticDraft) : Except TransitionFailure DerivedTransition := do
  let settled ← deriveSettlement state draft
  let folded ← foldFacts settled.state draft.facts draft.pages
  let commands := if draft.kind = .outcomeCommitted then [] else draft.commands
  let issued ← insertCommands folded.state commands draft.pages
  let action ← deriveActionTransition issued.state ⟨draft.kind.recordKind, draft.actionId, draft.sequence, draft.pages⟩
  pure ⟨action.state, settled.mutations ++ folded.mutations ++ issued.mutations ++ [action.mutation]⟩

def decisionDraft (record : DecisionCommitted) : SemanticDraft where
  kind := .decisionCommitted
  actionId := record.actionId
  sequence := record.sequence
  facts := record.facts
  commands := record.commands
  pages := record.pages
  settlement := none

def settlementDraft (record : CommandSettled) : SemanticDraft where
  kind := .commandSettled
  actionId := record.actionId
  sequence := record.sequence
  facts := record.facts
  commands := record.commands
  pages := record.pages
  settlement := some ⟨record.commandId, record.observation, record.observationDigest⟩

def outcomeDraft (record : OutcomeCommitted) : SemanticDraft where
  kind := .outcomeCommitted
  actionId := record.actionId
  sequence := record.sequence
  facts := record.facts
  commands := []
  pages := record.pages
  settlement := none

-- The eligibility digest a record carries; a decision record has no such field.
def recordEligibility : JournalRecord → Option Digest
  | .outcomeCommitted record => some record.eligibilityStateDigest
  | .commandSettled record => record.eligibilityStateDigest
  | _ => none

def commitOutcome (state current : RunState) (record : JournalRecord) (commit : SemanticCommit) : FoldResult :=
  match recordOutcome record with
  | some outcome =>
    if record.kind = .decisionCommitted then
      foldRejected state record "outcome-record-family-invalid" (js "decision records cannot smuggle a terminal outcome")
    else
      match eligibleOutcomeForState current commit.pages with
      | .eligible eligible _ =>
        if !sameOutcome eligible outcome ∨ recordEligibility record ≠ some (stateDigest current) then
          foldRejected state record "outcome-ineligible" (js "replay recomputation rejects stale or forged outcome eligibility")
        else .ok { current with terminal := some ⟨commit.actionId, commit.sequence, outcome⟩ }
      | .ineligible _ =>
        foldRejected state record "outcome-ineligible" (js "replay recomputation rejects stale or forged outcome eligibility")
  | none =>
    if record.kind = .commandSettled ∧ (recordEligibility record).isSome then
      foldRejected state record "outcome-binding-without-outcome"
        (js "eligibility digest cannot appear without an atomic outcome")
    else
      match eligibleOutcomeForState current commit.pages with
      | .eligible _ _ =>
        foldRejected state record "eligible-outcome-omitted"
          (js "an eligible T1/T2 must commit atomically with its enabling consequences")
      | .ineligible _ => .ok current

def applySemanticRecord (commit : SemanticCommit) (draft : SemanticDraft) : FoldResult :=
  if !recordSemanticRootsMatch record then
    foldRejected state record "semantic-root-mismatch" (js "facts, commands, and canonical artifact bindings do not match")
  else
    match deriveSemanticTransition state draft with
    | .error failed => foldRejected state record failed.code failed.diagnostic
    | .ok derived =>
      if !mutationsEqual derived.mutations commit.mutations then
        foldRejected state record "index-mutation-mismatch"
          (js "committed index mutations do not equal the exact prospective transition")
      else do
        let terminated ← commitOutcome state derived.state record commit
        let current := { terminated with lastSequence := commit.sequence }
        if stateDigest current ≠ commit.resultStateDigest then
          foldRejected state record "result-state-mismatch" (js "committed result state digest does not match replay")
        else .ok current

-- What a lifecycle record does to the suspension, or the code and text of its rejection.
def lifecycleSuspension : JournalRecord → Except TransitionFailure SuspensionState
  | .runSuspended record =>
    match state.suspension with
    | .active => .ok (.suspended ⟨record.actionId, record.operatorRequestId, record.reason, record.sequence⟩)
    | .suspended _ => .error ⟨"already-suspended", js "run is already suspended"⟩
  | .runResumed record =>
    match state.suspension with
    | .active => .error ⟨"not-suspended", js "active run cannot be resumed"⟩
    | .suspended suspension =>
      if record.operatorRequestId ≠ suspension.operatorRequestId ∨ record.resumeFromSequence ≠ suspension.sequence then
        .error ⟨"resume-binding-mismatch", js "resume must bind the exact suspension request and sequence"⟩
      else .ok .active
  | _ => .ok state.suspension

def applyLifecycle (commit : LifecycleCommit) (kind : ActionRecordKind) : FoldResult :=
  match lifecycleSuspension state record with
  | .error failed => foldRejected state record failed.code failed.diagnostic
  | .ok suspension =>
    match insertAction state commit.actionId kind commit.sequence commit.pages with
    | .error failed => foldRejected state record failed.code failed.diagnostic
    | .ok action =>
      if !mutationsEqual [action.mutation] commit.mutations then
        foldRejected state record "index-mutation-mismatch" (js "lifecycle action mutation is not exact")
      else
        let current := { action.state with suspension := suspension, lastSequence := commit.sequence }
        if stateDigest current ≠ commit.resultStateDigest then
          foldRejected state record "result-state-mismatch" (js "lifecycle result digest does not match replay")
        else .ok current

def fold : FoldResult := do
  validateEnvelope state record
  match record with
  | .runGenesis _ => foldRejected state record "unexpected-genesis" (js "genesis is accepted only by initial()")
  | .decisionCommitted body => applySemanticRecord state record body.toSemanticCommit (decisionDraft body)
  | .commandSettled body => applySemanticRecord state record body.toSemanticCommit (settlementDraft body)
  | .outcomeCommitted body => applySemanticRecord state record body.toSemanticCommit (outcomeDraft body)
  | .runSuspended body => applyLifecycle state record body.toLifecycleCommit .runSuspended
  | .runResumed body => applyLifecycle state record body.toLifecycleCommit .runResumed

def foldMany (records : List JournalRecord) : FoldResult := records.foldlM fold state

end Fold

end PiAutopilot.Authority
