import PiAutopilot.Authority.Reaction

set_option autoImplicit false

namespace PiAutopilot.Authority

open Protocol

inductive PreparedCommit where
  | genesis (record : RunGenesis)
  | decision (record : DecisionCommitted)
  | commandSettlement (record : CommandSettled)
  | suspension (record : RunSuspended)
  | resumption (record : RunResumed)
  | outcome (record : OutcomeCommitted)

def PreparedCommit.record : PreparedCommit → JournalRecord
  | .genesis record => .runGenesis record
  | .decision record => .decisionCommitted record
  | .commandSettlement record => .commandSettled record
  | .suspension record => .runSuspended record
  | .resumption record => .runResumed record
  | .outcome record => .outcomeCommitted record

abbrev PrepareResult := Except Feedback PreparedCommit

def maxFactsPerCommit : Nat := 32

def maxCommandsPerCommit : Nat := 32

def maxProofPagesPerCommit : Nat := 32

def assemblyFeedback {α : Type} (path : String) (diagnostic : JsString) : Except Feedback α :=
  semanticFeedback .invalidAcceptedCommit path diagnostic

def isLifecycleRequest : Stimulus → Bool
  | .operatorSuspendRequested _ | .operatorResumeRequested _ => true
  | _ => false

def settlementOf : Stimulus → Option Settlement
  | .commandObservationReceived stimulus => some ⟨stimulus.commandId, stimulus.observation, stimulus.observationDigest⟩
  | _ => none

def commonChecks (state : RunState) (stimulus : Stimulus) (facts : List DomainFact) (commands : List Command) : Except Feedback Unit :=
  if stimulus.runId ≠ state.identity.runId then assemblyFeedback "$.runId" (js "stimulus belongs to another run")
  else if facts.length > maxFactsPerCommit ∨ commands.length > maxCommandsPerCommit ∨
      stimulus.pages.length > maxProofPagesPerCommit then
    assemblyFeedback "$" (js "prepared commit exceeds the closed bounded fact, command, or proof-page envelope")
  else
    match facts.find? fun fact => fact.runId ≠ state.identity.runId with
    | some foreign => assemblyFeedback "$.facts" (foreign.body.label ++ js " belongs to another run")
    | none =>
      match commands.find? fun command => command.runId ≠ state.identity.runId with
      | some foreign => assemblyFeedback "$.commands" (foreign.body.kind.label ++ js " belongs to another run")
      | none => .ok ()

section Prepare

variable [StimulusHashing]

-- The mint encodes and decodes the record, which returns it unchanged, and then checks its semantic roots.
def mint (commit : PreparedCommit) : PrepareResult :=
  if !recordSemanticRootsMatch commit.record then
    assemblyFeedback "$.record" (js "facts, commands, artifact reference, and canonical digests must match")
  else .ok commit

def lifecycleCommit (state nextState : RunState) (stimulus : Stimulus) (operatorRequestId : OperatorRequestId)
    (mutation : IndexMutation) : LifecycleCommit where
  actionId := stimulus.actionId
  mutations := [mutation]
  operatorRequestId := operatorRequestId
  pages := stimulus.pages
  priorStateDigest := stateDigest state
  resultStateDigest := stateDigest nextState
  runId := state.identity.runId
  sequence := incrementDecimalNatural state.lastSequence
  stimulusDigest := stimulusDigest stimulus

def suspendedState (state acted : RunState) (stimulus : OperatorSuspendRequested) : RunState :=
  { acted with
    lastSequence := incrementDecimalNatural state.lastSequence
    suspension := .suspended ⟨stimulus.actionId, stimulus.operatorRequestId, stimulus.reason,
      incrementDecimalNatural state.lastSequence⟩ }

def resumedState (state acted : RunState) : RunState :=
  { acted with lastSequence := incrementDecimalNatural state.lastSequence, suspension := .active }

variable (state : RunState) (stimulus : Stimulus)

def lifecycleAction (kind : ActionRecordKind) : Except Feedback IndexTransition :=
  match deriveActionTransition state ⟨kind, stimulus.actionId, incrementDecimalNatural state.lastSequence, stimulus.pages⟩ with
  | .error failed => assemblyFeedback "$.pages" failed.diagnostic
  | .ok action => .ok action

def assembleSuspension (stimulus : OperatorSuspendRequested) : PrepareResult := do
  let action ← lifecycleAction state (.operatorSuspendRequested stimulus) .runSuspended
  mint (.suspension
    { toLifecycleCommit := lifecycleCommit state (suspendedState state action.state stimulus) (.operatorSuspendRequested stimulus)
        stimulus.operatorRequestId action.mutation
      reason := stimulus.reason })

def assembleResumption (stimulus : OperatorResumeRequested) : PrepareResult := do
  let action ← lifecycleAction state (.operatorResumeRequested stimulus) .runResumed
  mint (.resumption
    { toLifecycleCommit := lifecycleCommit state (resumedState state action.state) (.operatorResumeRequested stimulus)
        stimulus.operatorRequestId action.mutation
      resumeFromSequence := stimulus.resumeFromSequence })

def settlementInstalled (settlement : Settlement) : Bool :=
  settlement.observationDigest = settlement.observation.digest && settlement.observation.blob = settlement.observationDigest

def recordKindFor (proposed : Option TerminalOutcome) : SemanticKind :=
  if (settlementOf stimulus).isSome then .commandSettled
  else if proposed.isNone then .decisionCommitted else .outcomeCommitted

def effectiveCommands (commands : List Command) (proposed : Option TerminalOutcome) : List Command :=
  if proposed.isNone then commands else []

variable (facts : List DomainFact) (commands : List Command)

def semanticDraft (proposed : Option TerminalOutcome) : SemanticDraft where
  kind := recordKindFor stimulus proposed
  actionId := stimulus.actionId
  sequence := incrementDecimalNatural state.lastSequence
  facts := facts
  commands := effectiveCommands commands proposed
  pages := stimulus.pages
  settlement := settlementOf stimulus

def outcomesAgree (proposed outcome : Option TerminalOutcome) : Bool :=
  match proposed, outcome with
  | none, none => true
  | some proposed, some outcome => sameOutcome proposed outcome
  | _, _ => false

def withOutcome (derived : RunState) (actionId : ActionId) (sequence : DecimalNatural) : Option TerminalOutcome → RunState
  | some outcome => { derived with terminal := some ⟨actionId, sequence, outcome⟩ }
  | none => derived

def committedState (derived : RunState) (actionId : ActionId) (sequence : DecimalNatural) (outcome : Option TerminalOutcome) : RunState :=
  { withOutcome derived actionId sequence outcome with lastSequence := sequence }

def semanticCommit (derived : DerivedTransition) (outcome : Option TerminalOutcome) : SemanticCommit where
  actionId := stimulus.actionId
  factDigest := canonicalDecisionFactsDigest facts
  facts := facts
  mutations := derived.mutations
  pages := stimulus.pages
  priorStateDigest := stateDigest state
  resultStateDigest := stateDigest
    (committedState derived.state stimulus.actionId (incrementDecimalNatural state.lastSequence) outcome)
  runId := state.identity.runId
  sequence := incrementDecimalNatural state.lastSequence
  stimulusDigest := stimulusDigest stimulus

-- The artifact of the commands is always representable: its fields are a digest, a length and constants.
def commandCommit : CommandCommit where
  commandArtifact := canonicalCommandArtifact commands
  commandDigest := canonicalCommandsDigest commands
  commands := commands

def eligibilityDigest (derived : RunState) (outcome : Option TerminalOutcome) : Option Digest :=
  outcome.map fun _ => stateDigest derived

def semanticRecord (common : SemanticCommit) (commands : List Command) (kind : SemanticKind) (settlement : Option Settlement)
    (derived : RunState) (outcome : Option TerminalOutcome) : PrepareResult :=
  match kind, settlement, outcome with
  | .outcomeCommitted, _, some outcome =>
    mint (.outcome { toSemanticCommit := common, eligibilityStateDigest := stateDigest derived, outcome := outcome })
  | .commandSettled, some settlement, outcome =>
    mint (.commandSettlement
      { toSemanticCommit := common
        toCommandCommit := commandCommit commands
        commandId := settlement.commandId
        eligibilityStateDigest := eligibilityDigest derived outcome
        observation := settlement.observation
        observationDigest := settlement.observationDigest
        outcome := outcome })
  | _, _, some _ => assemblyFeedback "$.outcome" (js "eligible outcome was not bound to an atomic terminal record")
  | _, _, none => mint (.decision { toSemanticCommit := common, toCommandCommit := commandCommit commands })

def assembleSemantic (proposed : Option TerminalOutcome) : PrepareResult :=
  if (settlementOf stimulus).any fun settlement => !settlementInstalled settlement then
    assemblyFeedback "$.observationDigest" (js "settlement observation must bind installed canonical CAS bytes")
  else
    match deriveSemanticTransition state (semanticDraft state stimulus facts commands proposed) with
    | .error failed => assemblyFeedback "$.facts" (js failed.code ++ js ": " ++ failed.diagnostic)
    | .ok derived =>
      if !outcomesAgree proposed (determineTerminalOutcome derived.state stimulus.pages) then
        assemblyFeedback "$.outcome" (js "outcome seam disagrees with replayable exact T1/T2 eligibility")
      else
        semanticRecord
          (semanticCommit state stimulus facts derived (determineTerminalOutcome derived.state stimulus.pages))
          (effectiveCommands commands proposed) (recordKindFor stimulus proposed) (settlementOf stimulus) derived.state
          (determineTerminalOutcome derived.state stimulus.pages)

def lifecycleChecks (outcome : Option TerminalOutcome) : Except Feedback Unit :=
  if facts.length ≠ 0 ∨ commands.length ≠ 0 ∨ outcome.isSome then
    assemblyFeedback "$" (js "operator lifecycle commits cannot carry semantic consequences or a terminal")
  else .ok ()

def assemblePreparedCommit (outcome : Option TerminalOutcome) : PrepareResult := do
  commonChecks state stimulus facts commands
  match stimulus with
  | .operatorSuspendRequested request => do
    lifecycleChecks facts commands outcome
    assembleSuspension state request
  | .operatorResumeRequested request => do
    lifecycleChecks facts commands outcome
    assembleResumption state request
  | _ => assembleSemantic state stimulus facts commands outcome

def prospectiveFactsState (pages : List IndexPage) : Except Feedback RunState :=
  match foldFacts state facts pages with
  | .error failed =>
    semanticFeedback .invalidDomainTransition "$.facts" (js failed.code ++ js ": " ++ failed.diagnostic)
  | .ok derived => .ok derived.state

def prospectiveOutcome (prospective : RunState) (stimulus : Stimulus) : Option TerminalOutcome :=
  if isLifecycleRequest stimulus then none else determineTerminalOutcome prospective stimulus.pages

def reactionCommands (stimulus : Stimulus) (outcome : Option TerminalOutcome) : Except Feedback (List Command) :=
  if outcome.isNone ∧ !isLifecycleRequest stimulus then deriveReaction state facts stimulus.pages else .ok []

def prepare : PrepareResult := do
  let facts ← dispatchAdmission state stimulus
  let prospective ← prospectiveFactsState state facts stimulus.pages
  let commands ← reactionCommands state facts stimulus (prospectiveOutcome prospective stimulus)
  assemblePreparedCommit state stimulus facts commands (prospectiveOutcome prospective stimulus)

end Prepare

end PiAutopilot.Authority
