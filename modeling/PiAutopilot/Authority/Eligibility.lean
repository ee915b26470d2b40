import PiAutopilot.Authority.FactFold

set_option autoImplicit false

namespace PiAutopilot.Authority

open Protocol

inductive CoverageObligation where
  | requirementsUnbound (diagnostic : JsString)
  | inventoryUnsealed (diagnostic : JsString)
  | atomIndexUnproven (diagnostic : JsString)
  | dispositionIndexUnproven (diagnostic : JsString)
  | atomUndispositioned (atomId : AtomId) (sourceAnchor : SourceAnchor) (requirementId : RequirementId) (diagnostic : JsString)
  | dispositionCountMismatch (diagnostic : JsString)

def dispositionedAtom : IndexValue → Option AtomId
  | .disposition disposition => some disposition.atomId
  | _ => none

def undispositioned (dispositionIds : List AtomId) : IndexValue → Option CoverageObligation
  | .atom atom =>
    if atom.atomId ∈ dispositionIds then none
    else
      some (.atomUndispositioned atom.atomId atom.sourceAnchor atom.requirementId
        (js "atom " ++ atom.atomId.text ++ js " has no proved legal disposition"))
  | _ => none

def uncoveredAtoms (atoms dispositions : Option (List IndexValue)) : List CoverageObligation :=
  match atoms, dispositions with
  | some atoms, some dispositions => atoms.filterMap (undispositioned (dispositions.filterMap dispositionedAtom))
  | _, _ => []

def coverageObligations (state : RunState) : List CoverageObligation :=
  match state.requirements with
  | none => [.requirementsUnbound (js "requirements are not bound")]
  | some requirements =>
    let atoms := indexValues (state.indexes .atoms) .atom
    let dispositions := indexValues (state.indexes .dispositions) .disposition
    (if requirements.inventorySealed then [] else [.inventoryUnsealed (js "atom inventory is not sealed")]) ++
      (if atoms.isNone then [.atomIndexUnproven (js "complete atom page is unavailable")] else []) ++
      (if dispositions.isNone then [.dispositionIndexUnproven (js "complete disposition page is unavailable")] else []) ++
      uncoveredAtoms atoms dispositions ++
      if compareDecimalNatural (state.counters .declaredAtoms) (state.counters .dispositionedAtoms) = .equal then []
      else [.dispositionCountMismatch (js "declared and dispositioned atom counts differ")]

def coverageComplete (state : RunState) : Bool := (coverageObligations state).isEmpty

structure T1Checks where
  c1RequirementsBound : Bool
  c2AtomsDispositioned : Bool
  c3FinalEvidenceGreen : Bool
  c4ReviewedDiffAndManifest : Bool
  c5IdentityBindings : Bool
  c6AcceptedWorkRetained : Bool
  c7NoProductGap : Bool
  noBlockingFindings : Bool
  publicationContainsCandidate : Bool
  finalAttestationsBound : Bool

def zero (value : DecimalNatural) : Bool := compareDecimalNatural value (.ofNat 0) = .equal

def equal (left right : DecimalNatural) : Bool := compareDecimalNatural left right = .equal

theorem command_identity_units {kind : CommandKind} {digest : Digest} :
    IdentifierUnits (js "command:" ++ kind.label ++ js ":sha256:" ++ digest.hex.map fun digit => hexUnit digit.val) := by
  refine identifier_units_append ?_ (hex_text_units)
  cases kind <;> rfl

-- The decoder always accepts this text: it is made of identifier units.
def commandIdentity [Hashing] (kind : CommandKind) (actionId : ActionId) : CommandId :=
  let digest := Hashing.commandIdentityDigest kind actionId
  identifierOf (js "command:" ++ kind.label ++ js ":sha256:" ++ digest.hex.map fun digit => hexUnit digit.val)
    (by simp [js]) (command_identity_units)

section Eligibility

variable [Hashing] (state : RunState) (pages : List IndexPage)

-- The settled execute-evidence command with this identity, if a page proves it.
def settledEvidenceCommand (commandId : CommandId) : Option (Command × ExecuteEvidence) :=
  match lookupIndex (state.indexes .commands) (indexKey .commands commandId.text) pages with
  | .proved (some (.command entry)) _ =>
    match entry.command.body with
    | .executeEvidence fields => if entry.status = .settled then some (entry.command, fields) else none
    | _ => none
  | _ => none

def evidenceGreen (candidate : CurrentCandidateState) (evidenceId : EvidenceId) (evidence : EvidenceFact)
    (command : Command) (fields : ExecuteEvidence) : Bool :=
  let envelope := evidence.envelope
  evidence.envelopeDigest = evidenceEnvelopeDigest envelope &&
    envelope.evidenceId = evidenceId &&
    envelope.actionId = command.actionId &&
    envelope.attemptId = fields.attemptId &&
    envelope.evidenceClass = .finalVerification &&
    envelope.evidenceClass = fields.evidenceClass &&
    envelope.runId = state.identity.runId &&
    envelope.tree = candidate.tree &&
    envelope.tree = fields.candidateTree &&
    envelope.acceptedOutput = candidate.tree &&
    artifactRefsEqual envelope.command fields.commandSpec &&
    envelope.cwd = fields.cwd &&
    artifactRefsEqual envelope.environment fields.environment &&
    envelope.kindId = fields.kindId &&
    envelope.obligationId.text = js "evidence-obligation:" ++ command.commandId.text &&
    envelope.ruleId = fields.ruleId &&
    envelope.workItemId = fields.workItemId &&
    match envelope.exit with
    | .exited code => code.text = js "0"
    | .signalled _ => false

def finalEvidenceGreen : Bool :=
  match state.finalAttestations, state.currentCandidate with
  | some attestations, some candidate =>
    let evidenceId := attestations.finalVerificationEvidence
    match lookupIndex (state.indexes .evidence) (indexKey .evidence evidenceId.text) pages with
    | .proved (some (.evidence evidence)) _ =>
      match settledEvidenceCommand state pages (commandIdentity .executeEvidence evidence.envelope.actionId) with
      | some (command, fields) => evidenceGreen state candidate evidenceId evidence command fields
      | none => false
    | _ => false
  | _, _ => false

def integrationOutput : Option AcceptedOutput :=
  state.currentPlan.bind fun plan =>
    match lookupIndex (state.indexes .work) (indexKey .work plan.integrationOwnerWorkItemId.text) pages with
    | .proved (some (.work work)) _ => work.acceptedOutput
    | _ => none

def outputAccepted : IndexValue → Bool
  | .work work => work.acceptedOutput.isSome
  | _ => true

def c1RequirementsBound : Bool :=
  state.requirements.any fun requirements =>
    requirements.taskRoot = state.identity.taskSnapshot && requirements.inventorySealed &&
      requirements.atomIndexRoot = (state.indexes .atoms).root

def c2AtomsDispositioned : Bool :=
  c1RequirementsBound state && !zero (state.counters .declaredAtoms) &&
    equal (state.counters .declaredAtoms) (state.counters .dispositionedAtoms) &&
    (state.requirements.any fun requirements => requirements.declaredAtomCount = state.counters .declaredAtoms) &&
    coverageComplete state

def c4ReviewedDiffAndManifest : Bool :=
  match state.currentCandidate, state.finalAttestations, integrationOutput state pages with
  | some candidate, some attestations, some output =>
    artifactRefsEqual attestations.finalManifest candidate.manifest &&
      candidate.gitTreeCasAttestation.gitTree = candidate.gitTree &&
      candidate.gitTreeCasAttestation.artifactRoot = candidate.tree &&
      output.outputRoot = candidate.tree &&
      artifactRefsEqual output.accountedDiff candidate.reviewedDiff
  | _, _, _ => false

def c5IdentityBindings : Bool :=
  match state.currentPlan, state.currentCandidate with
  | some plan, some candidate =>
    state.phase = .execution && candidate.planRootId = plan.planRootId &&
      state.currentPublication.map CurrentPublicationState.candidateId = some candidate.candidateId
  | _, _ => false

def c6AcceptedWorkRetained : Bool :=
  !zero (state.counters .declaredWork) && equal (state.counters .declaredWork) (state.counters .acceptedWork) &&
    (indexValues (state.indexes .work) .work).any fun values => values.all outputAccepted

def publicationContainsCandidate : Bool :=
  match state.currentCandidate, state.currentPublication with
  | some candidate, some publication =>
    publication.status = .desiredHead && publication.observedHead = some publication.desiredHead &&
      publication.tree = some candidate.tree && publication.gitTree = some candidate.gitTree &&
      publication.publicationTreeAttestation.any fun attestation =>
        attestation.gitTree = candidate.gitTree && attestation.artifactRoot = candidate.tree
  | _, _ => false

def finalAttestationsBound : Bool :=
  match state.finalAttestations, state.currentCandidate, state.currentPublication with
  | some attestations, some candidate, some publication =>
    attestations.candidateId = candidate.candidateId && attestations.publicationId = publication.publicationId &&
      attestations.evidenceIndexRoot = (state.indexes .evidence).root
  | _, _, _ => false

def t1Checks : T1Checks where
  c1RequirementsBound := c1RequirementsBound state
  c2AtomsDispositioned := c2AtomsDispositioned state
  c3FinalEvidenceGreen := finalEvidenceGreen state pages
  c4ReviewedDiffAndManifest := c4ReviewedDiffAndManifest state pages
  c5IdentityBindings := c5IdentityBindings state
  c6AcceptedWorkRetained := c6AcceptedWorkRetained state
  c7NoProductGap := state.planningGap.isNone
  noBlockingFindings := zero (state.counters .openBlockingFindings)
  publicationContainsCandidate := publicationContainsCandidate state
  finalAttestationsBound := finalAttestationsBound state

def T1Checks.all (checks : T1Checks) : Bool :=
  checks.c1RequirementsBound && checks.c2AtomsDispositioned && checks.c3FinalEvidenceGreen &&
    checks.c4ReviewedDiffAndManifest && checks.c5IdentityBindings && checks.c6AcceptedWorkRetained &&
    checks.c7NoProductGap && checks.noBlockingFindings && checks.publicationContainsCandidate && checks.finalAttestationsBound

inductive EligibilityResult where
  | ineligible (checks : T1Checks)
  | eligible (outcome : TerminalOutcome) (checks : T1Checks)

def settledCommand : IndexValue → Bool
  | .command entry => entry.status = .settled
  | _ => true

def planningStopEligible : Option PlanningGapFinding :=
  let commands := state.indexes .commands
  if state.phase = .planning ∧ commands.hotComplete ∧ commands.hot.all fun entry => settledCommand entry.2 then
    state.planningGap
  else none

def taskComplete : Option TaskComplete := do
  let plan ← state.currentPlan
  let candidate ← state.currentCandidate
  let publication ← state.currentPublication
  let attestations ← state.finalAttestations
  let observedHead ← publication.observedHead
  let treeAttestation ← publication.publicationTreeAttestation
  pure
    { advisoryDisclosures := attestations.advisoryDisclosures
      c1ToC7Proof := attestations.c1ToC7Proof
      candidateId := candidate.candidateId
      coverageRoot := plan.coverageRoot
      evidenceIndexRoot := attestations.evidenceIndexRoot
      finalManifest := attestations.finalManifest
      finalTree := candidate.tree
      gitTree := candidate.gitTree
      gitTreeCasAttestation := candidate.gitTreeCasAttestation.attestation
      publicationId := publication.publicationId
      publicationTreeAttestation := treeAttestation.attestation
      publishedRevision := observedHead
      reviewedDiff := candidate.reviewedDiff }

def eligibleOutcomeForState : EligibilityResult :=
  let checks := t1Checks state pages
  match planningStopEligible state with
  | some gap => .eligible (.t2 ⟨gap.explanation, gap.reason, gap.sourceAnchors, gap.sourceEvidence⟩) checks
  | none =>
    match taskComplete state with
    | some outcome => if checks.all then .eligible (.t1 outcome) checks else .ineligible checks
    | none => .ineligible checks

def determineTerminalOutcome (prospectiveState : RunState) (pages : List IndexPage) : Option TerminalOutcome :=
  match eligibleOutcomeForState prospectiveState pages with
  | .eligible outcome _ => some outcome
  | .ineligible _ => none

end Eligibility

end PiAutopilot.Authority
