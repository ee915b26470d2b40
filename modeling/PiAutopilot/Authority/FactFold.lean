import PiAutopilot.Authority.State

set_option autoImplicit false

namespace PiAutopilot.Authority

open Protocol

structure TransitionContext where
  pages : List IndexPage
  supplied : Option (List IndexMutation)
  produced : List IndexMutation
  cursor : Nat

structure Rejection where
  state : RunState
  code : String
  diagnostic : JsString

structure Progress where
  state : RunState
  context : TransitionContext

abbrev Transition := Except Rejection Progress

inductive NextValue where
  | next (value : Option IndexValue)
  | rejected (code : String) (diagnostic : JsString)

def rejected {α : Type} (state : RunState) (code : String) (diagnostic : JsString) : Except Rejection α :=
  .error ⟨state, code, diagnostic⟩

section FactFold

variable [Hashing]

def sameMutation (left right : IndexMutation) : Bool := indexMutationDigest left = indexMutationDigest right

def mismatchText (cursor : Nat) (name : IndexName) (identity : JsString) : JsString :=
  js "mutation " ++ naturalText cursor ++ js " does not match " ++ js name.label ++ js "/" ++ identity

variable (state : RunState)

def mutate (context : TransitionContext) (name : IndexName) (identity : JsString)
    (deriveNext : Option IndexValue → NextValue) : Transition :=
  let index := state.indexes name
  let key := indexKey name identity
  match lookupIndex index key context.pages with
  | .unproven diagnostic => rejected state "page-unproven" diagnostic
  | .proved value _ =>
    match deriveNext value with
    | .rejected code diagnostic => rejected state code diagnostic
    | .next next =>
      match prepareIndexMutation index key next context.pages with
      | .unproven diagnostic => rejected state "page-unproven" diagnostic
      | .prepared prepared _ =>
        let supplied := context.supplied.bind fun mutations => mutations[context.cursor]?
        if context.supplied.isSome && !(supplied.any fun mutation => sameMutation mutation prepared) then
          rejected state "index-mutation-mismatch" (mismatchText context.cursor name identity)
        else
          let mutation := supplied.getD prepared
          match applyIndexMutation index mutation value next with
          | .rejected diagnostic => rejected state "index-proof-invalid" diagnostic
          | .applied changed =>
            .ok ⟨{ state with indexes := replaceIndex state.indexes name changed },
              { context with produced := context.produced ++ [mutation], cursor := context.cursor + 1 }⟩

-- The outer option is the proof: none when no page proves the key.
def lookupValue (pages : List IndexPage) (name : IndexName) (identity : JsString) : Option (Option IndexValue) :=
  match lookupIndex (state.indexes name) (indexKey name identity) pages with
  | .proved value _ => some value
  | .unproven _ => none

def insertOnly (value : IndexValue) (code : String) (diagnostic : JsString) : Option IndexValue → NextValue
  | none => .next (some value)
  | some _ => .rejected code diagnostic

def onState (change : RunState → RunState) (progress : Progress) : Progress := { progress with state := change progress.state }

def counted (name : CounterName) : Progress → Progress := onState fun state => incrementCounter state name

def boundRequirements (fact : RequirementsBound) : RequirementsState where
  sourceRoot := fact.sourceRoot
  requirementsRoot := fact.requirementsRoot
  taskRoot := fact.taskRoot
  atomIndexRoot := (state.indexes .atoms).root
  declaredAtomCount := fact.declaredAtomCount
  inventorySealed := false
  inventoryEvidence := none

def applyRequirementsBound (fact : RequirementsBound) (context : TransitionContext) : Transition :=
  if state.requirements.isSome ∨ fact.taskRoot ≠ state.identity.taskSnapshot then
    rejected state "requirements-binding-invalid" (js "requirements may bind once and must name immutable task authority")
  else
    .ok ⟨{ state with requirements := some (boundRequirements state fact) }, context⟩

def applyAtomDeclared (atom : Atom) (context : TransitionContext) : Transition :=
  if (state.requirements.all fun requirements => requirements.inventorySealed) ∨ atom.runId ≠ state.identity.runId then
    rejected state "atom-inventory-closed" (js "atoms require an open task-bound inventory")
  else
    (mutate state context .atoms atom.atomId.text
      (insertOnly (.atom atom) "duplicate-atom" (js "atom " ++ atom.atomId.text ++ js " already exists"))).map
      (counted .declaredAtoms)

def sealedRequirements (requirements : RequirementsState) (fact : AtomInventorySealed) : RequirementsState :=
  { requirements with
    atomIndexRoot := fact.atomIndexRoot, inventorySealed := true, inventoryEvidence := some fact.inventoryEvidence }

def applyAtomInventorySealed (fact : AtomInventorySealed) (context : TransitionContext) : Transition :=
  let unproven : Transition := rejected state "atom-inventory-unproven"
    (js "sealed atom root and count must equal the task-bound authenticated inventory")
  match state.requirements with
  | none => unproven
  | some requirements =>
    if requirements.inventorySealed ∨ fact.atomIndexRoot ≠ (state.indexes .atoms).root ∨
        fact.atomCount ≠ (state.indexes .atoms).count ∨ fact.atomCount ≠ requirements.declaredAtomCount then unproven
    else .ok ⟨{ state with requirements := some (sealedRequirements requirements fact) }, context⟩

def currentPlanWork (state : RunState) (pages : List IndexPage) (planRootId : PlanRootId) : List WorkItemId → Except Rejection Unit
  | [] => .ok ()
  | workItemId :: rest =>
    match lookupValue state pages .work workItemId.text with
    | none => rejected state "page-unproven" (js "disposition work membership page is missing")
    | some (some (.work work)) =>
      if work.workItem.planRootId = planRootId then currentPlanWork state pages planRootId rest
      else rejected state "illegal-disposition" (js "implemented-by disposition must name current-plan work")
    | some _ => rejected state "illegal-disposition" (js "implemented-by disposition must name current-plan work")

def implementingWork : DispositionKind → List WorkItemId
  | .implementedBy _ workItems => workItems.toList
  | _ => []

def applyAtomDispositioned (disposition : AtomDisposition) (context : TransitionContext) : Transition :=
  if !(state.requirements.any fun requirements => requirements.inventorySealed) then
    rejected state "atom-inventory-unsealed" (js "dispositions require the immutable sealed atom inventory")
  else
    match lookupValue state context.pages .atoms disposition.atomId.text with
    | none => rejected state "page-unproven" (js "atom membership page is missing")
    | some (some (.atom atom)) =>
      if !dispositionIsLegal atom disposition then
        rejected state "illegal-disposition" (js "disposition is not legal for the authoritative atom kind")
      else
        match state.currentPlan with
        | none => rejected state "noncurrent-plan-consequence" (js "atom disposition must bind the current accepted plan")
        | some plan =>
          if disposition.meaning.planRootId ≠ plan.planRootId then
            rejected state "noncurrent-plan-consequence" (js "atom disposition must bind the current accepted plan")
          else do
            currentPlanWork state context.pages plan.planRootId (implementingWork disposition.meaning.kind)
            (mutate state context .dispositions disposition.atomId.text
              (insertOnly (.disposition disposition) "duplicate-disposition"
                (js "atom already has a disposition"))).map (counted .dispositionedAtoms)
    | some _ => rejected state "illegal-disposition" (js "disposition is not legal for the authoritative atom kind")

def applyWorkDeclared (workItem : WorkItem) (context : TransitionContext) : Transition :=
  if workItem.runId ≠ state.identity.runId ∨ workItem.taskRoot ≠ state.identity.taskSnapshot then
    rejected state "work-authority-mismatch" (js "work must bind the current run and immutable task root")
  else if state.phase = .execution ∧ state.currentPlan.map CurrentPlanState.planRootId ≠ some workItem.planRootId then
    rejected state "noncurrent-plan-consequence" (js "execution work must bind the current plan")
  else
    (mutate state context .work workItem.workItemId.text
      (insertOnly (.work ⟨none, workItem⟩) "duplicate-work-item" (js "work item already exists"))).map
      (counted .declaredWork)

-- The identity of a dependency edge: two work item ids joined by U+0000.
def edgeIdentity (first second : WorkItemId) : JsString := first.text ++ [0] ++ second.text

def applyDependencyDeclared (runId : RunId) (fact : DependencyDeclared) (context : TransitionContext) : Transition :=
  let invalid : Transition :=
    rejected state "dependency-endpoint-invalid" (js "dependency endpoints must be current-plan work")
  if fact.dependency = fact.dependent then
    rejected state "dependency-cycle" (js "a work item cannot depend on itself")
  else
    match lookupValue state context.pages .work fact.dependent.text, lookupValue state context.pages .work fact.dependency.text with
    | some (some (.work dependent)), some (some (.work dependency)) =>
      if dependent.workItem.planRootId ≠ fact.planRootId ∨ dependency.workItem.planRootId ≠ fact.planRootId then invalid
      else if compareDecimalNatural dependency.workItem.topologicalRank dependent.workItem.topologicalRank ≠ .less then
        rejected state "dependency-cycle"
          (js "dependency rank must be strictly lower than dependent rank, proving transitive acyclicity")
      else
        match lookupValue state context.pages .dependencies (edgeIdentity fact.dependent fact.dependency) with
        | none => rejected state "page-unproven" (js "dependency-cycle proof page is missing")
        | some (some _) => rejected state "dependency-cycle" (js "dependency would close a cycle")
        | some none =>
          mutate state context .dependencies (edgeIdentity fact.dependency fact.dependent)
            (insertOnly (.dependency ⟨fact.dependency, fact.dependent, fact.planRootId, runId⟩) "duplicate-dependency"
              (js "dependency edge already exists"))
    | some _, some _ => invalid
    | _, _ => rejected state "page-unproven" (js "dependency endpoint page is missing")

def acceptOutput (inputRoot : ArtifactRoot) (acceptedOutput : AcceptedOutput) : Option IndexValue → NextValue
  | some (.work prior) =>
    if prior.workItem.inputRoot ≠ inputRoot then
      .rejected "stale-work-input" (js "work input is absent or stale")
    else if prior.acceptedOutput.isSome then
      .rejected "work-output-already-accepted" (js "work already has an accepted output")
    else .next (some (.work { prior with acceptedOutput := some acceptedOutput }))
  | _ => .rejected "stale-work-input" (js "work input is absent or stale")

def WorkOutputAccepted.acceptedOutput (fact : WorkOutputAccepted) : AcceptedOutput :=
  ⟨fact.accountedDiff, fact.evidence, fact.outputRoot, fact.submissionId⟩

def applyWorkOutputAccepted (runId : RunId) (fact : WorkOutputAccepted) (context : TransitionContext) : Transition :=
  if state.currentPlan.map CurrentPlanState.planRootId ≠ some fact.planRootId then
    rejected state "noncurrent-plan-consequence" (js "accepted output must bind the current plan")
  else do
    let work ← mutate state context .work fact.workItemId.text (acceptOutput fact.inputRoot fact.acceptedOutput)
    (mutate work.state work.context .submissions fact.submissionId.text
      (insertOnly (.submission ⟨fact.acceptedOutput, fact.planRootId, runId, fact.workItemId⟩) "duplicate-submission"
        (js "submission already exists"))).map (counted .acceptedWork)

def PlanRootAccepted.planValue (fact : PlanRootAccepted) (runId : RunId) : PlanIndexValue where
  coverageRoot := fact.coverageRoot
  integrationOwnerWorkItemId := fact.integrationOwnerWorkItemId
  planAuthorWorkItemId := fact.planAuthorWorkItemId
  planRoot := fact.planRoot
  planRootId := fact.planRootId
  reviewedPlan := fact.reviewedPlan
  runId := runId
  supersededBy := none

def PlanIndexValue.planState (plan : PlanIndexValue) : CurrentPlanState :=
  ⟨plan.planRootId, plan.planRoot, plan.coverageRoot, plan.reviewedPlan, plan.planAuthorWorkItemId,
    plan.integrationOwnerWorkItemId⟩

def enterExecution (plan : CurrentPlanState) (state : RunState) : RunState :=
  { state with phase := .execution, currentPlan := some plan }

def applyPlanRootAccepted (runId : RunId) (fact : PlanRootAccepted) (context : TransitionContext) : Transition :=
  if state.phase ≠ .planning ∨ state.currentPlan.isSome then
    rejected state "plan-phase-invalid" (js "an initial plan can be accepted only once during planning")
  else
    match lookupValue state context.pages .work fact.planAuthorWorkItemId.text,
      lookupValue state context.pages .work fact.integrationOwnerWorkItemId.text with
    | some (some (.work _)), some (some (.work _)) =>
      (mutate state context .plans fact.planRootId.text
        (insertOnly (.plan (fact.planValue runId)) "duplicate-plan-root" (js "plan root already exists"))).map
        (onState (enterExecution (fact.planValue runId).planState))
    | some _, some _ =>
      rejected state "plan-owner-unavailable" (js "plan author and integration owner must be declared work")
    | _, _ => rejected state "page-unproven" (js "plan owner page is missing")

def supersede (newPlanRootId : PlanRootId) : Option IndexValue → NextValue
  | some (.plan prior) =>
    if prior.supersededBy.isSome then .rejected "supersession-cycle" (js "prior plan is absent or superseded")
    else .next (some (.plan { prior with supersededBy := some newPlanRootId }))
  | _ => .rejected "supersession-cycle" (js "prior plan is absent or superseded")

def switchPlan (target : PlanIndexValue) (state : RunState) : RunState :=
  { state with
    currentPlan := some target.planState
    currentCandidate := none
    currentPublication := none
    finalAttestations := none }

def applyPlanRootSuperseded (fact : PlanRootSuperseded) (context : TransitionContext) : Transition :=
  if state.currentPlan.map CurrentPlanState.planRootId ≠ some fact.priorPlanRootId ∨
      fact.newPlanRootId = fact.priorPlanRootId then
    rejected state "noncurrent-plan-consequence" (js "only the current plan can be superseded by a distinct plan")
  else
    match lookupValue state context.pages .plans fact.newPlanRootId.text with
    | none => rejected state "page-unproven" (js "new-plan page is missing")
    | some (some (.plan target)) =>
      if target.supersededBy.isSome then
        rejected state "supersession-cycle" (js "supersession target is absent or already superseded")
      else
        (mutate state context .plans fact.priorPlanRootId.text (supersede fact.newPlanRootId)).map (onState (switchPlan target))
    | some _ => rejected state "supersession-cycle" (js "supersession target is absent or already superseded")

def distinctCount {α : Type} [DecidableEq α] (values : List α) : Nat := values.eraseDups.length

def issuedCommand (value : IndexValue) : Bool :=
  match value with
  | .command command => command.status = .issued
  | _ => false

def planningGapAtoms (state : RunState) (pages : List IndexPage) :
    List AtomId → List SourceAnchor → List ArtifactRef → Except Rejection Unit
  | [], _, _ => .ok ()
  | atomId :: atomIds, anchor :: anchors, evidence :: evidences =>
    let unequal : Except Rejection Unit := rejected state "planning-gap-invalid"
      (js "planning-gap anchors and evidence must equal the sealed atom inventory")
    match lookupValue state pages .atoms atomId.text with
    | none => rejected state "page-unproven" (js "planning-gap atom page is missing")
    | some (some (.atom atom)) =>
      if atom.sourceAnchor ≠ anchor ∨ !artifactRefsEqual atom.sourceEvidence evidence then unequal
      else planningGapAtoms state pages atomIds anchors evidences
    | some _ => unequal
  | _ :: _, _, _ => rejected state "planning-gap-invalid" (js "planning gap relation is incomplete")

def checkPlanningGap (pages : List IndexPage) (finding : PlanningGapFinding) : Except Rejection Unit :=
  let commands := state.indexes .commands
  let atomIds := finding.atomIds.toList
  let anchors := finding.sourceAnchors.toList
  let evidences := finding.sourceEvidence.toList
  if state.phase ≠ .planning ∨ state.currentPlan.isSome ∨
      !(state.requirements.any fun requirements => requirements.inventorySealed) then
    rejected state "planning-gap-invalid" (js "planning gap requires the sealed planning phase before plan acceptance")
  else if !commands.hotComplete ∨ commands.hot.any fun entry => issuedCommand entry.2 then
    rejected state "planning-gap-invalid"
      (js "planning stop requires every issued preparation command to be durably settled")
  else if atomIds.length ≠ anchors.length ∨ atomIds.length ≠ evidences.length ∨ distinctCount atomIds ≠ atomIds.length then
    rejected state "planning-gap-invalid"
      (js "planning gap atoms, anchors, and evidence must form one exact nonduplicated relation")
  else do
    planningGapAtoms state pages atomIds anchors evidences
    if finding.reason = .contradiction ∧ (atomIds.length < 2 ∨ distinctCount anchors < 2) then
      rejected state "planning-gap-invalid" (js "contradiction requires at least two distinct sealed source anchors")
    else if evidences.any fun reference => artifactRefsEqual reference finding.independentReview then
      rejected state "planning-gap-invalid" (js "independent review must be distinct from cited source evidence")
    else .ok ()

def expectedOwner (plan : CurrentPlanState) : Finding → WorkItemId
  | .integrity finding | .definitionOfDone finding =>
    finding.subjectWorkItemId.getD
      (if finding.subjectRoot = plan.planRoot then plan.planAuthorWorkItemId else plan.integrationOwnerWorkItemId)
  | _ => plan.planAuthorWorkItemId

def declareCorrection (correction : CorrectionAssignment) (finding : Finding) (context : TransitionContext) : Transition :=
  match state.currentPlan with
  | none => rejected state "corrector-unavailable" (js "correction work must bind the current plan")
  | some plan =>
    if correction.work.planRootId ≠ plan.planRootId then
      rejected state "corrector-unavailable" (js "correction work must bind the current plan")
    else if correction.originalOwnerWorkItemId ≠ expectedOwner plan finding then
      rejected state "corrector-unavailable"
        (js "correction owner is not authority-derived from the current finding subject")
    else
      match lookupValue state context.pages .work (expectedOwner plan finding).text with
      | none => rejected state "page-unproven" (js "corrector page is missing")
      | some (some (.work _)) =>
        (mutate state context .work correction.correctorWorkItemId.text
          (insertOnly (.work ⟨none, correction.work.workItem⟩) "duplicate-work-item"
            (js "correction work already exists"))).map (counted .declaredWork)
      | some _ => rejected state "corrector-unavailable" (js "current correction owner is not declared work")

def noteFinding (finding : Finding) (state : RunState) : RunState :=
  match finding with
  | .integrity _ | .definitionOfDone _ => incrementCounter state .openBlockingFindings
  | .advisory _ => incrementCounter state .openAdvisoryFindings
  | .planningGap gap => { state with planningGap := some gap }

def recordFinding (finding : Finding) (correctionWorkItemId : Option WorkItemId) (progress : Progress) : Transition :=
  (mutate progress.state progress.context .findings finding.findingId.text
    (insertOnly (.finding ⟨correctionWorkItemId, finding, none, .open⟩) "duplicate-finding"
      (js "finding already exists"))).map (onState (noteFinding finding))

def checkFinding (pages : List IndexPage) : Finding → Except Rejection Unit
  | .planningGap gap => checkPlanningGap state pages gap
  | _ => .ok ()

def applyFindingAccepted (acceptance : AcceptedFinding) (context : TransitionContext) : Transition :=
  if acceptance.finding.runId ≠ state.identity.runId then
    rejected state "finding-run-mismatch" (js "finding belongs to another run")
  else do
    checkFinding state context.pages acceptance.finding
    let unmatched : Transition := rejected state "correction-atomicity"
      (js "blocking findings require one atomic correction assignment and work item")
    match acceptance with
    | .blockingWithCorrection correction finding =>
      if blockingKind finding.kind then do
        let corrected ← declareCorrection state correction finding context
        recordFinding finding (some correction.correctorWorkItemId) corrected
      else unmatched
    | .nonblocking finding =>
      if blockingKind finding.kind then unmatched else recordFinding finding none ⟨state, context⟩

def clearFinding (resolution : ArtifactRef) : Option IndexValue → NextValue
  | some (.finding prior) =>
    if prior.status ≠ .open then .rejected "finding-not-open" (js "finding is absent or already cleared")
    else .next (some (.finding { prior with status := .cleared, resolution := some resolution }))
  | _ => .rejected "finding-not-open" (js "finding is absent or already cleared")

def findingCounter : Finding → Option CounterName
  | .integrity _ | .definitionOfDone _ => some .openBlockingFindings
  | .advisory _ => some .openAdvisoryFindings
  | .planningGap _ => none

def applyFindingCleared (fact : FindingCleared) (context : TransitionContext) : Transition := do
  let transition ← mutate state context .findings fact.findingId.text (clearFinding fact.resolution)
  match lookupValue state context.pages .findings fact.findingId.text with
  | some (some (.finding prior)) =>
    match findingCounter prior.finding with
    | none => .ok transition
    | some counter =>
      match decrementCounter transition.state counter with
      | none => rejected state "finding-counter-underflow" (js "finding counter cannot underflow")
      | some decremented => .ok { transition with state := decremented }
  | _ => rejected state "page-unproven" (js "cleared finding page is missing")

def applyEvidenceObserved (evidence : EvidenceFact) (context : TransitionContext) : Transition :=
  if evidence.envelope.runId ≠ state.identity.runId then
    rejected state "evidence-run-mismatch" (js "evidence belongs to another run")
  else if evidence.envelopeDigest ≠ evidenceEnvelopeDigest evidence.envelope then
    rejected state "evidence-digest-mismatch" (js "evidence envelope digest must bind the exact closed envelope")
  else
    (mutate state context .evidence evidence.envelope.evidenceId.text
      (insertOnly (.evidence evidence) "duplicate-evidence" (js "evidence already exists"))).map (counted .observedEvidence)

-- The route's channel is "subscription" by its type, so only the identifiers are compared.
def applyRouteVerificationObserved (fact : RouteVerificationObserved) (context : TransitionContext) : Transition :=
  if fact.observationId = fact.observation.observationId then .ok ⟨state, context⟩
  else rejected state "route-attestation-mismatch" (js "route observation ID and subscription route must match")

def CandidateAccepted.candidateValue (fact : CandidateAccepted) (runId : RunId) : CandidateIndexValue where
  candidateId := fact.candidateId
  gitRevision := fact.gitRevision
  gitTree := fact.gitTree
  gitTreeCasAttestation := fact.gitTreeCasAttestation
  manifest := fact.manifest
  planRootId := fact.planRootId
  reviewedDiff := fact.reviewedDiff
  runId := runId
  tree := fact.tree

def CandidateIndexValue.candidateState (candidate : CandidateIndexValue) : CurrentCandidateState :=
  ⟨candidate.candidateId, candidate.planRootId, candidate.tree, candidate.gitRevision, candidate.gitTree, candidate.manifest,
    candidate.reviewedDiff, candidate.gitTreeCasAttestation⟩

def selectCandidate (candidate : CurrentCandidateState) (state : RunState) : RunState :=
  { state with currentCandidate := some candidate, finalAttestations := none }

def applyCandidateAccepted (runId : RunId) (fact : CandidateAccepted) (context : TransitionContext) : Transition :=
  if state.currentPlan.map CurrentPlanState.planRootId ≠ some fact.planRootId then
    rejected state "noncurrent-plan-consequence" (js "candidate must bind the current plan")
  else
    (mutate state context .candidates fact.candidateId.text
      (insertOnly (.candidate (fact.candidateValue runId)) "duplicate-candidate" (js "candidate already exists"))).map
      (onState (selectCandidate (fact.candidateValue runId).candidateState))

def PublicationIntended.publicationValue (fact : PublicationIntended) (runId : RunId) : PublicationIndexValue where
  candidateId := fact.candidateId
  desiredHead := fact.desiredHead
  expected := fact.expected
  observedHead := none
  publicationId := fact.publicationId
  publicationTreeAttestation := none
  runId := runId
  status := .intended

def PublicationIntended.publicationState (fact : PublicationIntended) : CurrentPublicationState where
  publicationId := fact.publicationId
  candidateId := fact.candidateId
  repository := fact.repository
  publicationRef := fact.publicationRef
  expected := fact.expected
  desiredHead := fact.desiredHead
  status := .intended
  observedHead := none
  tree := none
  gitTree := none
  publicationTreeAttestation := none

variable (publication : CurrentPublicationState)

def selectPublication (state : RunState) : RunState := { state with currentPublication := some publication }

def applyPublicationIntended (runId : RunId) (fact : PublicationIntended) (context : TransitionContext) : Transition :=
  if state.currentCandidate.map CurrentCandidateState.candidateId ≠ some fact.candidateId ∨
      fact.repository ≠ state.identity.repository ∨ fact.publicationRef ≠ state.identity.publicationRef then
    rejected state "publication-candidate-mismatch"
      (js "publication must bind the current candidate and genesis repository/ref")
  else
    (mutate state context .publications fact.publicationId.text
      (insertOnly (.publication (fact.publicationValue runId)) "duplicate-publication"
        (js "publication already exists"))).map (onState (selectPublication fact.publicationState))

def observedValue (prior : PublicationIndexValue) (fact : PublicationObserved) : PublicationIndexValue :=
  { prior with
    observedHead := fact.observedHead
    publicationTreeAttestation := some fact.publicationTreeAttestation
    status := fact.status.publicationStatus }

variable (fact : PublicationObserved)

def observePublication : Option IndexValue → NextValue
  | some (.publication prior) =>
    if prior.status ≠ .intended then
      .rejected "publication-not-current" (js "publication is absent or already observed")
    else .next (some (.publication (observedValue prior fact)))
  | _ => .rejected "publication-not-current" (js "publication is absent or already observed")

def observedState : CurrentPublicationState :=
  { publication with
    observedHead := fact.observedHead
    status := fact.status.publicationStatus
    tree := some fact.tree
    gitTree := some fact.gitTree
    publicationTreeAttestation := some fact.publicationTreeAttestation }

def noteObservation (state : RunState) : RunState :=
  { state with
    currentPublication := some (observedState publication fact)
    finalAttestations := if fact.status = .headMoved then none else state.finalAttestations }

def applyPublicationObserved (context : TransitionContext) : Transition :=
  match state.currentPublication, state.currentCandidate with
  | some publication, some candidate =>
    if publication.publicationId ≠ fact.publicationId then
      rejected state "publication-not-current" (js "publication observation is stale")
    else if fact.tree ≠ candidate.tree ∨ fact.gitTree ≠ candidate.gitTree then
      rejected state "publication-tree-mismatch" (js "publication tree must equal the exact current Git/CAS candidate")
    else if (fact.status = .desiredHead ∧ fact.observedHead ≠ some publication.desiredHead) ∨
        (fact.status = .headMoved ∧ fact.observedHead = some publication.desiredHead) then
      rejected state "publication-status-mismatch" (js "publication status and observed head disagree")
    else
      (mutate state context .publications fact.publicationId.text (observePublication fact)).map
        (onState (noteObservation publication fact))
  | _, _ => rejected state "publication-not-current" (js "publication observation is stale")

def pendingBesides (publicationId : PublicationId) (value : IndexValue) : Bool :=
  match value with
  | .command entry =>
    entry.status = .issued &&
      match entry.command.body with
      | .publishCompareAndSwap publish => publish.publicationId ≠ publicationId
      | _ => true
  | _ => false

def FinalAttestationsRecorded.attestationState (fact : FinalAttestationsRecorded) : FinalAttestationState where
  candidateId := fact.candidateId
  publicationId := fact.publicationId
  c1ToC7Proof := fact.c1ToC7Proof
  finalManifest := fact.finalManifest
  evidenceIndexRoot := fact.evidenceIndexRoot
  finalVerificationEvidence := fact.finalVerificationEvidence
  advisoryDisclosures := fact.advisoryDisclosures

def applyFinalAttestationsRecorded (fact : FinalAttestationsRecorded) (context : TransitionContext) : Transition :=
  let commands := state.indexes .commands
  if state.currentCandidate.map CurrentCandidateState.candidateId ≠ some fact.candidateId ∨
      state.currentPublication.map CurrentPublicationState.publicationId ≠ some fact.publicationId ∨
      fact.evidenceIndexRoot ≠ (state.indexes .evidence).root then
    rejected state "final-attestation-stale"
      (js "final attestations must bind current candidate, publication, and evidence index")
  else if !commands.hotComplete ∨ commands.hot.any fun entry => pendingBesides fact.publicationId entry.2 then
    rejected state "final-attestation-stale"
      (js "final attestations require every non-publication command to be durably settled")
  else
    .ok ⟨{ state with finalAttestations := some fact.attestationState }, context⟩

def applySemanticFact (fact : DomainFact) (context : TransitionContext) : Transition :=
  if fact.runId ≠ state.identity.runId then
    rejected state "fact-run-mismatch" (fact.body.label ++ js " belongs to another run")
  else
    match fact.body with
    | .requirementsBound body => applyRequirementsBound state body context
    | .atomDeclared atom => applyAtomDeclared state atom context
    | .atomInventorySealed body => applyAtomInventorySealed state body context
    | .atomDispositioned disposition => applyAtomDispositioned state disposition context
    | .workDeclared workItem => applyWorkDeclared state workItem context
    | .dependencyDeclared body => applyDependencyDeclared state fact.runId body context
    | .workOutputAccepted body => applyWorkOutputAccepted state fact.runId body context
    | .planRootAccepted body => applyPlanRootAccepted state fact.runId body context
    | .planRootSuperseded body => applyPlanRootSuperseded state body context
    | .findingAccepted acceptance => applyFindingAccepted state acceptance context
    | .findingCleared body => applyFindingCleared state body context
    | .evidenceObserved evidence => applyEvidenceObserved state evidence context
    | .routeVerificationObserved body => applyRouteVerificationObserved state body context
    | .candidateAccepted body => applyCandidateAccepted state fact.runId body context
    | .publicationIntended body => applyPublicationIntended state fact.runId body context
    | .publicationObserved body => applyPublicationObserved state body context
    | .finalAttestationsRecorded body => applyFinalAttestationsRecorded state body context

structure FactFoldApplied where
  state : RunState
  mutations : List IndexMutation

abbrev DomainFactFoldResult := Except Rejection FactFoldApplied

def foldDomainFact (fact : DomainFact) (pages : List IndexPage) (supplied : Option (List IndexMutation)) : DomainFactFoldResult := do
  let result ← applySemanticFact state fact ⟨pages, supplied, [], 0⟩
  if supplied.any fun mutations => result.context.cursor ≠ mutations.length then
    rejected state "unexpected-index-mutation" (js "record carries mutations not consumed by the fact transition")
  else .ok ⟨result.state, result.context.produced⟩

end FactFold

end PiAutopilot.Authority
