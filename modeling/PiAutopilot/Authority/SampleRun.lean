import PiAutopilot.Authority.BookStimulus
import PiAutopilot.Authority.SampleHashing

set_option autoImplicit false

namespace PiAutopilot.Authority

open Protocol

variable (digits : List (Fin 16))

-- Values for runs that are carried out on concrete inputs: identifiers and actions are told apart by hex digits.
def sampleId : Identifier := labelled "id:" (digits.map fun digit => hexUnit digit.val) (by simp [js]) rfl (hex_text_units)

def sampleAction : ActionId := ⟨⟨2 :: digits⟩⟩

def samplePath : ArtifactPath := ⟨js "out/file", by decide +kernel, by decide +kernel⟩

def sampleCommit : GitCommitId := ⟨js "1111111111111111111111111111111111111111", by decide +kernel, by decide +kernel⟩

def sampleGitTree : GitTreeId := ⟨js "2222222222222222222222222222222222222222", by decide +kernel, by decide +kernel⟩

def sampleGitRef : GitRef := ⟨js "refs/heads/main", by decide +kernel, by decide +kernel⟩

def sampleRef : ArtifactRef where
  blob := ⟨[10]⟩
  byteLength := .ofNat 1
  codec := sampleId [1, 0]
  codecVersion := sampleId [1, 1]
  digest := ⟨[10]⟩
  path := samplePath
  range := none
  root := ⟨[10]⟩

def sampleRoute : SubscriptionRoute where
  catalogDigest := ⟨[11]⟩
  model := sampleId [1, 2]
  piVersion := sampleId [1, 3]
  policyDigest := ⟨[11]⟩
  provider := sampleId [1, 4]
  routeCapability := sampleId [1, 5]
  thinking := .off
  toolBundleAttestation := none

def sampleGenesis : RunGenesis where
  expectedPublication := .unborn
  policyRoot := ⟨[12]⟩
  publicationRef := sampleGitRef
  repository := sampleId [1, 6]
  repositoryBase := sampleCommit
  repositoryTree := sampleGitTree
  route := sampleRoute
  runId := sampleId [1, 7]
  runtimeRoot := ⟨[12]⟩
  sequence := .ofNat 0
  taskSnapshot := ⟨[13]⟩

def suspendRequest : OperatorSuspendRequested where
  actionId := sampleAction digits
  operatorRequestId := sampleId [1, 8]
  pages := []
  reason := sampleRef
  runId := sampleGenesis.runId

def resumeRequest (sequence : DecimalNatural) : OperatorResumeRequested where
  actionId := sampleAction digits
  operatorRequestId := sampleId [1, 8]
  pages := []
  resumeFromSequence := sequence
  runId := sampleGenesis.runId

def samplePlanRoot : PlanRootId := sampleId [3, 0]

variable (digit : Fin 16)

-- The tree of a candidate, and the candidate with that tree.
def candidateRoot : ArtifactRoot := ⟨[15, digit]⟩

def sampleAttestation : GitTreeCasAttestation := ⟨candidateRoot digit, sampleRef, sampleGitTree⟩

def sampleCandidate : CandidatePayload where
  candidateId := sampleId [5, digit]
  gitRevision := sampleCommit
  gitTree := sampleGitTree
  gitTreeCasAttestation := sampleAttestation digit
  manifest := sampleRef
  reviewedDiff := sampleRef
  tree := candidateRoot digit

def sampleWork (kind : WorkKind) : WorkItem where
  dependencyCount := .ofNat 0
  dependencyRoot := ⟨[12]⟩
  inputRoot := ⟨[14]⟩
  planRootId := samplePlanRoot
  prompt := sampleRef
  roleId := sampleId [3, 1]
  ruleInputs := sampleRef
  runId := sampleGenesis.runId
  taskRoot := sampleGenesis.taskSnapshot
  topologicalRank := .ofNat 0
  workItemId := sampleId (2 :: digits)
  workspaceCapability := sampleId [3, 2]
  workspaceId := sampleId (4 :: digits)
  kind := kind

def verifyingWork : WorkItem := sampleWork digits (.verifyCandidate (candidateRoot 0) sampleRef)

def producingWork : WorkItem := sampleWork digits (.produceArtifact (sampleId [3, 3]) samplePath ⟨[14]⟩)

def reserveIntent (item : WorkItem) : PortIntent :=
  .allocateAttemptDirectory item.workspaceCapability item.workspaceId (leaseFor item.workItemId)

def verifyIntent (item : WorkItem) : PortIntent := .executeEvidenceCommand (evidenceInputs item (candidateRoot 0) sampleRef)

def samplePublication : PublicationIntended where
  candidateId := sampleId [5, 0]
  desiredHead := sampleCommit
  expected := .unborn
  publicationId := sampleId [6, 0]
  publicationRef := sampleGitRef
  repository := sampleGenesis.repository

def publishIntentFor : PortIntent :=
  .publishIfExpectedHead samplePublication.desiredHead samplePublication.expected samplePublication.publicationId
    samplePublication.publicationRef samplePublication.repository sampleGitTree
    (publicationLeaseFor samplePublication.publicationId) (sampleAttestation digit)

def sampleIntents : List (RunId × PortIntent) :=
  [reserveIntent (verifyingWork [0, 0]), verifyIntent (verifyingWork [0, 0]), publishIntentFor 0, publishIntentFor 1,
    reserveIntent (producingWork [0, 1])].map fun intent => (sampleGenesis.runId, intent)

@[reducible] noncomputable def sampleWorld : StimulusHashing := sampleHashing [sampleRef] sampleIntents

def boundaryRequest (action : List (Fin 16)) (payload : RequestPayload) : BoundaryRequestReceived where
  actionId := sampleAction action
  pages := []
  request := sampleRef
  requestDigest := ⟨[10]⟩
  requestPayload := payload
  runId := sampleGenesis.runId

def submission (action : List (Fin 16)) (workItem : WorkItem) (outputRoot : ArtifactRoot) (payload : SubmissionPayload) :
    SubmissionReady where
  actionId := sampleAction action
  attemptId := sampleId [3, 4]
  inputRoot := workItem.inputRoot
  outputRoot := outputRoot
  pages := []
  planRootId := workItem.planRootId
  runId := sampleGenesis.runId
  submissionPayload := payload
  workItemId := workItem.workItemId

section Sample

attribute [local instance] sampleWorld

-- A point of a run: the state with its pages listed.
structure Stage where
  state : RunState
  book : Book

noncomputable def Stage.run (stage : Stage) : RunState := onBook stage.state stage.book

structure Step (before after : RunState) where
  stimulus : Stimulus
  commits : Commits before stimulus after

def Stage.reached (state : RunState) (sequence : Nat) (book : Book) : Stage :=
  ⟨{ state with lastSequence := .ofNat sequence }, book⟩

noncomputable def workEntry (value : WorkIndexValue) : Key × IndexValue :=
  (indexKey .work value.workItem.workItemId.text, .work value)

noncomputable def issuedEntry (command : Command) : Key × IndexValue :=
  (indexKey .commands command.commandId.text, issuedValue command)

noncomputable def settledEntry (command : Command) : Key × IndexValue :=
  (indexKey .commands command.commandId.text, settledValue ⟨command, command.commandId, none, .issued⟩ sampleRef)

noncomputable def actedEntry (digits : List (Fin 16)) (kind : ActionRecordKind) (sequence : Nat) : Key × IndexValue :=
  (indexKey .actions (sampleAction digits).text, .action ⟨sampleAction digits, kind, .ofNat sequence⟩)

theorem sample_collision_free : CollisionFree IndexValue := fresh_collision_free

noncomputable def opened : Stage := ⟨initialState sampleGenesis, emptyBook⟩

theorem opened_run : opened.run = initialState sampleGenesis := (initial_on_book).symm

def authorWork : WorkItem := verifyingWork [0, 0]

-- The action of the command whose intent stands at this position among the sample intents.
def intentAction (position : Nat) : ActionId := ⟨⟨1 :: List.replicate position 0⟩⟩

noncomputable def sampleCommand (position : Nat) (body : CommandBody) : Command :=
  ⟨intentAction position, commandIdentity body.kind (intentAction position), sampleGenesis.runId, body⟩

noncomputable def reserveSample (position : Nat) (item : WorkItem) : Command :=
  sampleCommand position (.prepareWorkspace
    ⟨leaseFor item.workItemId, item.planRootId, item.workspaceCapability, item.workspaceId, item.workItemId⟩)

noncomputable def verifySample (position : Nat) (item : WorkItem) : Command :=
  sampleCommand position (.executeEvidence (evidenceInputs item (candidateRoot 0) sampleRef))

noncomputable def declaring : BoundaryRequestReceived := boundaryRequest [1, 0] (.declareWork authorWork)

noncomputable def declaredBook : Book
  | .actions => [actedEntry [1, 0] .decisionCommitted 1]
  | .commands => [issuedEntry (reserveSample 0 authorWork)]
  | .work => [workEntry ⟨none, authorWork⟩]
  | _ => []

noncomputable def declared : Stage := .reached (incrementCounter opened.state .declaredWork) 1 declaredBook

noncomputable def declaredStep : Step opened.run declared.run where
  stimulus := .boundaryRequestReceived declaring
  commits :=
    boundary_request_commits rfl (by funext name; cases name <;> rfl)
      (work_declared_leads opened.state opened.book empty_book_orderly [] authorWork rfl rfl (by decide) rfl (by decide))
      (fun _ => no_outcome_unattested _ _ rfl rfl)
      (committable_of_check (by decide +kernel))

def planPayload : AcceptPlan where
  coverageRoot := ⟨[14]⟩
  integrationOwnerWorkItemId := authorWork.workItemId
  planAuthorWorkItemId := authorWork.workItemId
  planRoot := ⟨[14, 1]⟩
  reviewedPlan := sampleRef

def planFact : PlanRootAccepted where
  coverageRoot := planPayload.coverageRoot
  integrationOwnerWorkItemId := planPayload.integrationOwnerWorkItemId
  planAuthorWorkItemId := planPayload.planAuthorWorkItemId
  planRoot := planPayload.planRoot
  planRootId := samplePlanRoot
  reviewedPlan := planPayload.reviewedPlan

def planning : SubmissionReady := submission [1, 1] authorWork ⟨[14]⟩ (.acceptPlan planPayload)

noncomputable def plannedBook : Book
  | .actions => [actedEntry [1, 0] .decisionCommitted 1, actedEntry [1, 1] .decisionCommitted 2]
  | .plans => [(indexKey .plans samplePlanRoot.text, .plan (planFact.planValue sampleGenesis.runId))]
  | name => declaredBook name

noncomputable def planned : Stage :=
  .reached (enterExecution (planFact.planValue sampleGenesis.runId).planState declared.state) 2 plannedBook

noncomputable def plannedStep : Step declared.run planned.run where
  stimulus := .submissionReady planning
  commits :=
    submission_commits rfl
      (by funext name; cases name <;> rfl) rfl rfl rfl rfl rfl
      (plan_root_accepted_leads declared.state declaredBook (tidy_orderly _ (by decide +kernel)) [] planFact ⟨none, authorWork⟩ rfl rfl rfl rfl rfl (by decide +kernel))
      (fun _ => no_outcome_unattested _ _ rfl rfl)
      (committable_of_check (by decide +kernel))

-- The candidate with the given digit is submitted and becomes the current one.
def offering (action : List (Fin 16)) (digit : Fin 16) : SubmissionReady :=
  submission action authorWork (candidateRoot digit) (.acceptCandidate (sampleCandidate digit))

def candidateFact (digit : Fin 16) : CandidateAccepted := (sampleCandidate digit).accepted samplePlanRoot

def candidateEntry (digit : Fin 16) : CandidateIndexValue := (candidateFact digit).candidateValue sampleGenesis.runId

noncomputable def offeredBook : Book
  | .actions => [actedEntry [1, 0] .decisionCommitted 1, actedEntry [1, 1] .decisionCommitted 2,
      actedEntry [1, 2] .decisionCommitted 3]
  | .candidates => [(indexKey .candidates (candidateFact 0).candidateId.text, .candidate (candidateEntry 0))]
  | .commands => [issuedEntry (verifySample 1 authorWork), issuedEntry (reserveSample 0 authorWork)]
  | name => plannedBook name

noncomputable def offered : Stage := .reached (selectCandidate (candidateEntry 0).candidateState planned.state) 3 offeredBook

noncomputable def offeredStep : Step planned.run offered.run where
  stimulus := .submissionReady (offering [1, 2] 0)
  commits :=
    submission_commits rfl (by funext name; cases name <;> rfl) rfl rfl rfl rfl rfl
      (candidate_accepted_leads planned.state plannedBook (tidy_orderly _ (by decide +kernel)) [] (candidateFact 0) rfl rfl
        (by decide +kernel))
      (fun _ => no_outcome_unattested _ _ rfl rfl)
      (committable_of_check (by decide +kernel))

def intending : BoundaryRequestReceived :=
  boundaryRequest [1, 3] (.intendPublication samplePublication.candidateId samplePublication.desiredHead
    samplePublication.expected samplePublication.publicationId (publicationLeaseFor samplePublication.publicationId)
    samplePublication.publicationRef samplePublication.repository)

-- The publish command that names the candidate with the given digit.
noncomputable def publishSample (position : Nat) (digit : Fin 16) : Command :=
  sampleCommand position
    (.publishCompareAndSwap (publishFields samplePublication.publicationState (candidateEntry digit).candidateState))

noncomputable def intendedBook : Book
  | .actions => [actedEntry [1, 0] .decisionCommitted 1, actedEntry [1, 1] .decisionCommitted 2,
      actedEntry [1, 2] .decisionCommitted 3, actedEntry [1, 3] .decisionCommitted 4]
  | .commands => [issuedEntry (publishSample 2 0), issuedEntry (verifySample 1 authorWork),
      issuedEntry (reserveSample 0 authorWork)]
  | .publications => [(indexKey .publications samplePublication.publicationId.text,
      .publication (samplePublication.publicationValue sampleGenesis.runId))]
  | name => offeredBook name

noncomputable def intended : Stage := .reached (selectPublication samplePublication.publicationState offered.state) 4 intendedBook

noncomputable def intendedStep : Step offered.run intended.run where
  stimulus := .boundaryRequestReceived intending
  commits :=
    boundary_request_commits rfl (by funext name; cases name <;> rfl)
      (publication_intended_leads offered.state offeredBook (tidy_orderly _ (by decide +kernel)) [] samplePublication rfl rfl rfl
        rfl (by decide +kernel))
      (fun _ => no_outcome_unattested _ _ rfl rfl)
      (committable_of_check (by decide +kernel))

theorem planned_reached : Reached sampleGenesis planned.run := by
  have openedReached : Reached sampleGenesis opened.run := opened_run ▸ .start
  exact .commit _ _ _ (.commit _ _ _ openedReached trivial declaredStep.commits) trivial plannedStep.commits

theorem intended_reached : Reached sampleGenesis intended.run :=
  .commit _ _ _ (.commit _ _ _ planned_reached trivial offeredStep.commits) trivial intendedStep.commits

theorem planned_logged : Logged sampleGenesis 2 planned.run := by
  have declaredLogged : Logged sampleGenesis 1 declared.run :=
    logged_commits ⟨[], rfl, congrArg Except.ok opened_run.symm⟩ declaredStep.commits
  exact logged_commits declaredLogged plannedStep.commits

theorem intended_logged : Logged sampleGenesis 4 intended.run := by
  have offeredLogged := logged_commits planned_logged offeredStep.commits
  exact logged_commits offeredLogged intendedStep.commits

end Sample

end PiAutopilot.Authority
