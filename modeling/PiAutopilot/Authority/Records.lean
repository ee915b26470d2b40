import PiAutopilot.Authority.Eligibility

set_option autoImplicit false

namespace PiAutopilot.Authority

open Protocol

structure SemanticCommit where
  actionId : ActionId
  factDigest : Digest
  facts : List DomainFact
  mutations : List IndexMutation
  pages : List IndexPage
  priorStateDigest : Digest
  resultStateDigest : Digest
  runId : RunId
  sequence : DecimalNatural
  stimulusDigest : Digest

structure CommandCommit where
  commandArtifact : ArtifactRef
  commandDigest : Digest
  commands : List Command

structure DecisionCommitted extends SemanticCommit, CommandCommit

structure CommandSettled extends SemanticCommit, CommandCommit where
  commandId : CommandId
  eligibilityStateDigest : Option Digest
  observation : ArtifactRef
  observationDigest : Digest
  outcome : Option TerminalOutcome

structure OutcomeCommitted extends SemanticCommit where
  eligibilityStateDigest : Digest
  outcome : TerminalOutcome

structure LifecycleCommit where
  actionId : ActionId
  mutations : List IndexMutation
  operatorRequestId : OperatorRequestId
  pages : List IndexPage
  priorStateDigest : Digest
  resultStateDigest : Digest
  runId : RunId
  sequence : DecimalNatural
  stimulusDigest : Digest

structure RunSuspended extends LifecycleCommit where
  reason : ArtifactRef

structure RunResumed extends LifecycleCommit where
  resumeFromSequence : DecimalNatural

inductive JournalRecord where
  | runGenesis (record : RunGenesis)
  | decisionCommitted (record : DecisionCommitted)
  | commandSettled (record : CommandSettled)
  | outcomeCommitted (record : OutcomeCommitted)
  | runSuspended (record : RunSuspended)
  | runResumed (record : RunResumed)

inductive RecordKind where
  | runGenesis
  | decisionCommitted
  | commandSettled
  | outcomeCommitted
  | runSuspended
  | runResumed
  deriving DecidableEq

def JournalRecord.kind : JournalRecord → RecordKind
  | .runGenesis _ => .runGenesis
  | .decisionCommitted _ => .decisionCommitted
  | .commandSettled _ => .commandSettled
  | .outcomeCommitted _ => .outcomeCommitted
  | .runSuspended _ => .runSuspended
  | .runResumed _ => .runResumed

def JournalRecord.runId : JournalRecord → RunId
  | .runGenesis record => record.runId
  | .decisionCommitted record => record.runId
  | .commandSettled record => record.runId
  | .outcomeCommitted record => record.runId
  | .runSuspended record => record.runId
  | .runResumed record => record.runId

def JournalRecord.sequence : JournalRecord → DecimalNatural
  | .runGenesis record => record.sequence
  | .decisionCommitted record => record.sequence
  | .commandSettled record => record.sequence
  | .outcomeCommitted record => record.sequence
  | .runSuspended record => record.sequence
  | .runResumed record => record.sequence

-- A genesis record is prepared against no state and carries no action.
def JournalRecord.priorStateDigest : JournalRecord → Option Digest
  | .runGenesis _ => none
  | .decisionCommitted record => some record.priorStateDigest
  | .commandSettled record => some record.priorStateDigest
  | .outcomeCommitted record => some record.priorStateDigest
  | .runSuspended record => some record.priorStateDigest
  | .runResumed record => some record.priorStateDigest

def JournalRecord.resultStateDigest : JournalRecord → Option Digest
  | .runGenesis _ => none
  | .decisionCommitted record => some record.resultStateDigest
  | .commandSettled record => some record.resultStateDigest
  | .outcomeCommitted record => some record.resultStateDigest
  | .runSuspended record => some record.resultStateDigest
  | .runResumed record => some record.resultStateDigest

def JournalRecord.actionId : JournalRecord → Option ActionId
  | .runGenesis _ => none
  | .decisionCommitted record => some record.actionId
  | .commandSettled record => some record.actionId
  | .outcomeCommitted record => some record.actionId
  | .runSuspended record => some record.actionId
  | .runResumed record => some record.actionId

def recordFacts : JournalRecord → List DomainFact
  | .decisionCommitted record => record.facts
  | .commandSettled record => record.facts
  | .outcomeCommitted record => record.facts
  | _ => []

def recordOutcome : JournalRecord → Option TerminalOutcome
  | .outcomeCommitted record => some record.outcome
  | .commandSettled record => record.outcome
  | _ => none

def commandsCodec : KindId := identifierOf (js "codec:pi-autopilot-commands") (by decide) rfl

def commandsCodecVersion : KindId := identifierOf (js "version:2") (by decide) rfl

def commandsPath : ArtifactPath := ⟨js "semantic/commands.canonical.json", by decide +kernel, by decide +kernel⟩

section Roots

variable [Hashing]

def canonicalCommandArtifact (commands : List Command) : ArtifactRef :=
  let digest := canonicalCommandsDigest commands
  { blob := digest
    byteLength := canonicalCommandsByteLength commands
    codec := commandsCodec
    codecVersion := commandsCodecVersion
    digest := digest
    path := commandsPath
    range := none
    root := digest }

def factRootMatches (record : SemanticCommit) : Bool := record.factDigest = canonicalDecisionFactsDigest record.facts

def commandRootsMatch (record : CommandCommit) : Bool :=
  record.commandDigest = canonicalCommandsDigest record.commands &&
    artifactRefDigest record.commandArtifact = artifactRefDigest (canonicalCommandArtifact record.commands) &&
    record.commandArtifact.byteLength = canonicalCommandsByteLength record.commands

def settlementMatches (record : CommandSettled) : Bool :=
  record.observationDigest = record.observation.digest && record.observation.blob = record.observationDigest

def recordSemanticRootsMatch : JournalRecord → Bool
  | .decisionCommitted record => factRootMatches record.toSemanticCommit && commandRootsMatch record.toCommandCommit
  | .commandSettled record =>
    factRootMatches record.toSemanticCommit && commandRootsMatch record.toCommandCommit && settlementMatches record
  | .outcomeCommitted record => factRootMatches record.toSemanticCommit
  | _ => true

end Roots

end PiAutopilot.Authority
