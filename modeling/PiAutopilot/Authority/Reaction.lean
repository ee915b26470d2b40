import PiAutopilot.Authority.Admission

set_option autoImplicit false

namespace PiAutopilot.Authority

open Protocol

def leaseFor (workItemId : WorkItemId) : LeaseId := labelled "lease:" workItemId.text (by simp [js]) rfl (identifier_units)

def attemptFor (workItemId : WorkItemId) : AttemptId := labelled "attempt:" workItemId.text (by simp [js]) rfl (identifier_units)

def publicationLeaseFor (publicationId : PublicationId) : LeaseId :=
  labelled "lease:publication:" publicationId.text (by simp [js]) rfl (identifier_units)

def evidenceDirectory : WorkspaceRelativePath := ⟨js "evidence", by decide +kernel, by decide +kernel⟩

def finalVerificationKind : KindId := identifierOf (js "evidence:final-verification") (by simp [js]) rfl

def finalVerificationRule : RuleId := identifierOf (js "rule:final-verification") (by simp [js]) rfl

-- Work that still waits for an output.
def readyWork : IndexValue → Option WorkIndexValue
  | .work work => if work.acceptedOutput.isSome then none else some work
  | _ => none

section Reaction

variable [Hashing]

def commandActionId (runId : RunId) (intent : PortIntent) : ActionId := ⟨Hashing.commandActionDigest runId intent⟩

variable (state : RunState)

def stateAfterFacts (facts : List DomainFact) (pages : List IndexPage) : Except Feedback RunState :=
  match foldFacts state facts pages with
  | .error failed => semanticFeedback .invalidDomainTransition "$.facts" failed.diagnostic
  | .ok derived => .ok derived.state

def commandKnown (command : Command) (pages : List IndexPage) : Except Feedback Bool :=
  match lookupIndex (state.indexes .commands) (indexKey .commands command.commandId.text) pages with
  | .unproven diagnostic => semanticFeedback .pageUnproven "$.pages" diagnostic
  | .proved value _ => .ok value.isSome

def reserveCommand (work : WorkIndexValue) : Command :=
  let item := work.workItem
  let leaseId := leaseFor item.workItemId
  let actionId := commandActionId item.runId (.allocateAttemptDirectory item.workspaceCapability item.workspaceId leaseId)
  { actionId := actionId
    commandId := commandIdentity .prepareWorkspace actionId
    runId := item.runId
    body := .prepareWorkspace ⟨leaseId, item.planRootId, item.workspaceCapability, item.workspaceId, item.workItemId⟩ }

def evidenceInputs (item : WorkItem) (candidateRoot : ArtifactRoot) (validationPlan : ArtifactRef) : ExecuteEvidence where
  attemptId := attemptFor item.workItemId
  candidateTree := candidateRoot
  commandSpec := validationPlan
  cwd := evidenceDirectory
  deadlineTick := .ofNat 0
  environment := item.ruleInputs
  evidenceClass := .finalVerification
  kindId := finalVerificationKind
  ruleId := finalVerificationRule
  workItemId := item.workItemId
  workspaceCapability := item.workspaceCapability
  workspaceId := item.workspaceId

def evidenceCommand (work : WorkIndexValue) (state : RunState) : Option Command :=
  let item := work.workItem
  match item.kind with
  | .verifyCandidate candidateRoot validationPlan =>
    if state.currentCandidate.map CurrentCandidateState.tree ≠ some candidateRoot then none
    else
      let inputs := evidenceInputs item candidateRoot validationPlan
      let actionId := commandActionId item.runId (.executeEvidenceCommand inputs)
      some ⟨actionId, commandIdentity .executeEvidence actionId, item.runId, .executeEvidence inputs⟩
  | _ => none

def publishFields (publication : CurrentPublicationState) (candidate : CurrentCandidateState) : PublishCompareAndSwap where
  candidateId := candidate.candidateId
  candidateTree := candidate.gitTree
  desiredHead := publication.desiredHead
  expected := publication.expected
  publicationId := publication.publicationId
  publicationLease := publicationLeaseFor publication.publicationId
  publicationRef := publication.publicationRef
  repository := publication.repository
  verifiedAttestation := candidate.gitTreeCasAttestation

def publishIntent (fields : PublishCompareAndSwap) : PortIntent :=
  .publishIfExpectedHead fields.desiredHead fields.expected fields.publicationId fields.publicationRef fields.repository
    fields.candidateTree fields.publicationLease fields.verifiedAttestation

def publicationCommand : Option Command :=
  match state.currentPublication, state.currentCandidate with
  | some publication, some candidate =>
    if publication.status ≠ .intended then none
    else
      let fields := publishFields publication candidate
      let actionId := commandActionId state.identity.runId (publishIntent fields)
      some ⟨actionId, commandIdentity .publishCompareAndSwap actionId, state.identity.runId, .publishCompareAndSwap fields⟩
  | _, _ => none

variable (pages : List IndexPage) (commands : List Command)

def noteCommand (command : Command) : Except Feedback (List Command) := do
  let known ← commandKnown state command pages
  if !known && !(commands.any fun existing => existing.commandId = command.commandId) then pure (commands ++ [command])
  else pure commands

def noteOptional : Option Command → Except Feedback (List Command)
  | none => pure commands
  | some command => noteCommand state pages commands command

def workCommands (work : WorkIndexValue) : Except Feedback (List Command) := do
  let reserved ← noteCommand state pages commands (reserveCommand work)
  noteOptional state pages reserved (evidenceCommand work state)

def isSuspended : SuspensionState → Bool
  | .suspended _ => true
  | .active => false

def deriveReaction (facts : List DomainFact) (pages : List IndexPage) : Except Feedback (List Command) := do
  let prospective ← stateAfterFacts state facts pages
  if isSuspended prospective.suspension || prospective.terminal.isSome then pure []
  else if !(prospective.indexes .work).hotComplete then
    semanticFeedback .pageUnproven "$.pages"
      (js "ready-work page is required when the authenticated work index exceeds the bounded hot page")
  else do
    let ready := (prospective.indexes .work).hot.filterMap fun entry => readyWork entry.2
    let commands ← ready.foldlM (workCommands prospective pages) []
    noteOptional prospective pages commands (publicationCommand prospective)

end Reaction

end PiAutopilot.Authority
