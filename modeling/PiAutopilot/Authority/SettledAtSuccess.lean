import PiAutopilot.Authority.Attended
import PiAutopilot.Authority.StoredEntries
import PiAutopilot.Authority.T1Sound

set_option autoImplicit false

namespace PiAutopilot.Authority

open Lib Protocol

-- A stimulus that declares work, directly or as the corrector of a blocking finding.
def declaresWork : Stimulus → Bool
  | .boundaryRequestReceived stimulus =>
    match stimulus.requestPayload with
    | .declareWork _ => true
    | _ => false
  | .submissionReady stimulus =>
    match stimulus.submissionPayload with
    | .acceptFinding finding => blockingKind finding.kind
    | _ => false
  | .commandObservationReceived stimulus =>
    match stimulus.observationPayload with
    | .validationFinding finding => blockingKind finding.kind
    | .integrationConflict _ _ _ _ => true
    | .publicationObserved observed => decide (observed.status = .headMoved)
    | _ => false
  | _ => false

-- No work is declared once the final attestations are recorded, and nothing grows while the run is suspended.
def NoLateWork (state : RunState) (stimulus : Stimulus) : Prop :=
  QuietWhileSuspended state stimulus ∧ (state.finalAttestations.isSome = true → declaresWork stimulus = false)

def selectsAnew : FactBody → Bool
  | .candidateAccepted _ | .publicationIntended _ => true
  | _ => false

def recordsAttestations : FactBody → Bool
  | .finalAttestationsRecorded _ => true
  | _ => false

variable {body : FactBody}

theorem finding_selects {finding : Finding} (becomes : FindingFact finding body)
    (nonblocking : blockingKind finding.kind = false) (grows : growsWanted body = true) : selectsAnew body = true := by
  rw [finding_still becomes nonblocking] at grows
  cases grows

variable {stimulus : Stimulus} {state : RunState}

-- Apart from work, only a new candidate or a new publication makes the state want more.
theorem brings_selects (brings : Brings stimulus body)
    (grows : growsWanted body = true) (noWork : declaresWork stimulus = false) : selectsAnew body = true := by
  cases brings with
  | request stimulus =>
    rw [declaresWork] at noWork
    cases payload : stimulus.requestPayload with
    | declareWork workItem =>
      rw [payload] at noWork
      cases noWork
    | intendPublication => rfl
    | _ =>
      rw [payload] at grows
      cases grows
  | submission stimulus body submitted =>
    cases submitted with
    | finding finding body isFinding becomes =>
      rw [declaresWork, isFinding] at noWork
      exact finding_selects becomes noWork grows
    | candidate => rfl
    | plan | disposition | output | clearing | attestations => cases grows
  | observation stimulus body observed =>
    cases observed with
    | finding finding body isFinding becomes =>
      rw [declaresWork, isFinding] at noWork
      exact finding_selects becomes noWork grows
    | candidate => rfl
    | conflict artifact owner planRootId subject body isConflict becomes =>
      rw [declaresWork, isConflict] at noWork
      cases noWork
    | movedHead payload plan candidate body isObserved moved becomes =>
      rw [declaresWork, isObserved] at noWork
      exact absurd moved (of_decide_eq_false noWork)
    | route | evidence | publication => cases grows

theorem brings_attestations (brings : Brings stimulus body)
    (records : recordsAttestations body = true) : growsReaction stimulus = false := by
  cases brings with
  | request stimulus =>
    cases payload : stimulus.requestPayload <;> rw [payload] at records <;> cases records
  | submission stimulus body submitted =>
    cases submitted with
    | attestations payload isPayload => rw [growsReaction, isPayload]
    | finding finding body isFinding becomes => cases becomes <;> cases records
    | plan | disposition | output | clearing | candidate => cases records
  | observation stimulus body observed =>
    cases observed with
    | finding _ body _ becomes | conflict _ _ _ _ body _ becomes | movedHead _ _ _ body _ _ becomes =>
      cases becomes <;> cases records
    | route | evidence | candidate | publication => cases records

def publishesFor (publicationId : PublicationId) (command : Command) : Prop :=
  ∃ fields, command.body = .publishCompareAndSwap fields ∧ fields.publicationId = publicationId

-- Every command is settled, apart from the publish commands of this publication.
def SettledBut (contents : Contents) (publicationId : PublicationId) : Prop :=
  ∀ key entry, contents .commands key = some (.command entry) →
    entry.status = .settled ∨ publishesFor publicationId entry.command

theorem not_pending_settled {publicationId : PublicationId} {entry : CommandIndexValue}
    (quiet : pendingBesides publicationId (.command entry) = false) :
    entry.status = .settled ∨ publishesFor publicationId entry.command := by
  rw [pendingBesides, Bool.and_eq_false_iff] at quiet
  rcases quiet with notIssued | publishing
  · left
    cases status : entry.status with
    | issued => exact absurd status (of_decide_eq_false notIssued)
    | settled => rfl
  · right
    split at publishing
    · rename_i publish isPublish
      exact ⟨publish, isPublish, not_not.mp (of_decide_eq_false publishing)⟩
    · cases publishing

def currentPublicationId (state : RunState) : Option PublicationId :=
  state.currentPublication.map CurrentPublicationState.publicationId

theorem bound_attestations (bound : finalAttestationsBound state = true) :
    ∃ attestations, state.finalAttestations = some attestations ∧ currentPublicationId state = some attestations.publicationId := by
  rw [finalAttestationsBound] at bound
  split at bound
  · rename_i attestations candidate publication attested _ isCurrent
    rw [Bool.and_eq_true, Bool.and_eq_true] at bound
    have same : attestations.publicationId = publication.publicationId := of_decide_eq_true bound.1.2
    refine ⟨attestations, attested, ?_⟩
    rw [currentPublicationId, isCurrent, same]
    rfl
  · cases bound

theorem task_complete_publication {outcome : TaskComplete} (completes : taskComplete state = some outcome) :
    currentPublicationId state = some outcome.publicationId := by
  obtain ⟨plan, _, completes⟩ := Option.bind_eq_some_iff.mp completes
  obtain ⟨candidate, _, completes⟩ := Option.bind_eq_some_iff.mp completes
  obtain ⟨publication, isCurrent, completes⟩ := Option.bind_eq_some_iff.mp completes
  obtain ⟨attestations, _, completes⟩ := Option.bind_eq_some_iff.mp completes
  obtain ⟨observedHead, _, completes⟩ := Option.bind_eq_some_iff.mp completes
  obtain ⟨treeAttestation, _, completes⟩ := Option.bind_eq_some_iff.mp completes
  cases completes
  rw [currentPublicationId, isCurrent]
  rfl

section Attested

variable [Hashing]

-- There are no attestations, or they are those of a publication that is no longer the current one.
def Lapsed (state : RunState) : Prop :=
  ∀ attestations, state.finalAttestations = some attestations → currentPublicationId state ≠ some attestations.publicationId

-- The attestations in force were recorded when nothing but their own publication was outstanding.
def AttestedQuiet (state : RunState) (contents : Contents) : Prop :=
  ∀ attestations, state.finalAttestations = some attestations →
    currentPublicationId state = some attestations.publicationId → SettledBut contents attestations.publicationId

def AttestedStored (state : RunState) (contents : Contents) : Prop :=
  ∀ attestations, state.finalAttestations = some attestations →
    (contents .publications (indexKey .publications attestations.publicationId.text)).isSome

variable {state after : RunState} {contents maps : Contents} {runId : RunId} {body : FactBody}

-- A fact keeps the attestations, drops them, or records them for the current publication.
theorem fact_step_attestations (step : FactStep state contents runId body after maps) {attestations : FinalAttestationState}
    (attested : after.finalAttestations = some attestations) :
    state.finalAttestations = some attestations ∨
      (recordsAttestations body = true ∧ currentPublicationId state = some attestations.publicationId) := by
  cases changes : changesSelection body with
  | false =>
    rw [(fact_step_selection step changes).attestations] at attested
    exact Or.inl attested
  | true =>
    cases step with
    | planRootAccepted | publicationIntended => exact Or.inl attested
    | planRootSuperseded | candidateAccepted => cases attested
    | publicationObserved fact =>
      change (if fact.status = .headMoved then none else state.finalAttestations) = _ at attested
      split at attested
      · cases attested
      · exact Or.inl attested
    | finalAttestationsRecorded fact forCandidate forPublication =>
      cases attested
      exact Or.inr ⟨rfl, forPublication⟩
    | _ => cases changes

theorem attested_stored_step (step : FactStep state contents runId body after maps) (publication : PublicationStored state contents)
    (stored : AttestedStored state contents) : AttestedStored after maps := by
  intro attestations attested
  refine grows_known (fact_step_grows step (grows_refl contents)) ?_
  rcases fact_step_attestations step attested with before | ⟨_, isCurrent⟩
  · exact stored attestations before
  · obtain ⟨current, hasCurrent, same⟩ := Option.map_eq_some_iff.mp isCurrent
    obtain ⟨entry, found, _⟩ := publication current hasCurrent
    rw [← same, found]
    rfl

def PublicationsStored (state : RunState) (contents : Contents) : Prop :=
  PublicationStored state contents ∧ AttestedStored state contents

theorem publications_stored_preserved : Preserved PublicationsStored :=
  preserved_aside (fun step stored => ⟨publication_stored_fact_step step stored.1, attested_stored_step step stored.1 stored.2⟩)
    fun stored same => ⟨publication_stored_frame stored.1 (same .publications (by decide)) rfl, by
      rw [AttestedStored, same .publications (by decide)]
      exact stored.2⟩

theorem current_publication_id_step (step : FactStep state contents runId body after maps) (selected : selectsAnew body = false) :
    currentPublicationId after = currentPublicationId state ∨ after.finalAttestations = none := by
  cases changes : changesSelection body with
  | false =>
    left
    rw [currentPublicationId, currentPublicationId, (fact_step_selection step changes).publication]
  | true =>
    cases step with
    | planRootAccepted | finalAttestationsRecorded => exact Or.inl rfl
    | planRootSuperseded => exact Or.inr rfl
    | publicationObserved fact publication candidate isCurrent =>
      left
      rw [currentPublicationId, currentPublicationId, isCurrent]
      rfl
    | candidateAccepted | publicationIntended => cases selected
    | _ => cases changes

-- A publication is intended once, so a new one is never that of the attestations.
theorem selecting_lapses (step : FactStep state contents runId body after maps) (stored : AttestedStored state contents)
    (selected : selectsAnew body = true) : Lapsed after := by
  intro attestations attested isCurrent
  cases step with
  | candidateAccepted => cases attested
  | publicationIntended fact _ _ _ absent =>
    have known := stored attestations attested
    rw [← Option.some_inj.mp isCurrent, show fact.publicationState.publicationId = fact.publicationId from rfl, absent] at known
    cases known
  | _ => cases selected

theorem lapsed_step (step : FactStep state contents runId body after maps) (stored : AttestedStored state contents)
    (unrecorded : recordsAttestations body = false) (lapsed : Lapsed state) : Lapsed after := by
  cases selected : selectsAnew body with
  | true => exact selecting_lapses step stored selected
  | false =>
    intro attestations attested isCurrent
    rcases fact_step_attestations step attested with before | ⟨records, _⟩
    · rcases current_publication_id_step step selected with same | dropped
      · exact lapsed attestations before (same ▸ isCurrent)
      · rw [dropped] at attested
        cases attested
    · rw [records] at unrecorded
      cases unrecorded

theorem lapsed_steps {facts : List DomainFact}
    (steps : FactSteps state contents facts after maps) (stored : PublicationsStored state contents)
    (unrecorded : ∀ fact ∈ facts, recordsAttestations fact.body = false)
    (lapses : Lapsed state ∨ ∃ fact ∈ facts, selectsAnew fact.body = true) : Lapsed after := by
  induction steps with
  | nil state contents =>
    rcases lapses with lapsed | ⟨fact, member, _⟩
    · exact lapsed
    · cases member
  | cons fact sameRun step _ ih =>
    have first := unrecorded fact List.mem_cons_self
    refine ih (publications_stored_preserved.fact _ _ _ _ _ trivial stored (sameRun ▸ step))
      (fun later member => unrecorded later (List.mem_cons_of_mem _ member)) ?_
    rcases lapses with lapsed | ⟨selecting, member, selects⟩
    · exact Or.inl (lapsed_step step stored.2 first lapsed)
    · rcases List.mem_cons.mp member with rfl | later
      · exact Or.inl (selecting_lapses step stored.2 selects)
      · exact Or.inr ⟨selecting, later, selects⟩

theorem recording_quiet (step : FactStep state contents runId body after maps) (reads : Reads state contents)
    (records : recordsAttestations body = true) : AttestedQuiet after maps := by
  cases step with
  | finalAttestationsRecorded fact forCandidate forPublication sameEvidence complete quiet =>
    intro attestations attested _ key entry stored
    cases attested
    exact not_pending_settled (quiet _ (((reads .commands).exactly.listed complete key _).mpr stored))
  | _ => cases records

theorem attested_quiet_step (step : FactStep state contents runId body after maps) (reads : Reads state contents)
    (stored : AttestedStored state contents) (quiet : AttestedQuiet state contents) : AttestedQuiet after maps := by
  cases records : recordsAttestations body with
  | true => exact recording_quiet step reads records
  | false =>
    intro attestations attested isCurrent
    cases selected : selectsAnew body with
    | true => exact absurd isCurrent (selecting_lapses step stored selected attestations attested)
    | false =>
      rw [SettledBut, fact_step_unwritten step .commands (log_indexes_unwritten).1]
      rcases fact_step_attestations step attested with before | ⟨recorded, _⟩
      · rcases current_publication_id_step step selected with same | dropped
        · exact quiet attestations before (same ▸ isCurrent)
        · rw [dropped] at attested
          cases attested
      · rw [records] at recorded
        cases recorded

theorem attested_quiet_steps {facts : List DomainFact} (steps : FactSteps state contents facts after maps) (reads : Reads state contents)
    (stored : PublicationsStored state contents) (quiet : AttestedQuiet state contents) : AttestedQuiet after maps := by
  induction steps with
  | nil state contents => exact quiet
  | cons fact sameRun step _ ih =>
    exact ih (fact_step_reads step reads) (publications_stored_preserved.fact _ _ _ _ _ trivial stored (sameRun ▸ step))
      (attested_quiet_step step reads stored.2 quiet)

end Attested

section Success

variable [StimulusHashing] {state after : RunState} {contents maps : Contents} {stimulus : Stimulus}

-- Once the attestations stand, a commit that declares no work has nothing left to ask for.
theorem attested_asks_nothing {foreseen : RunState} {facts : List DomainFact}
    {issued : List Command} (reads : Reads state contents) (attended : Attended state contents)
    (stored : PublicationsStored state contents) (noLateWork : NoLateWork state stimulus)
    (admitted : dispatchAdmission state stimulus = .ok facts) (foresees : FactSteps state contents facts foreseen maps)
    (answers : Answers maps (wantedCommands foreseen) issued) {command : Command} (member : command ∈ issued) :
    Lapsed foreseen := by
  have brings := admission_brings facts admitted
  by_cases still : ∀ fact ∈ facts, growsWanted fact.body = false
  · obtain ⟨complete, known⟩ := attended (dispatch_admission_active state stimulus facts admitted)
    obtain ⟨_, narrowed⟩ := fact_steps_narrow foresees still reads complete
    obtain ⟨wanted, unknown⟩ := answers.asked command member
    have found := known command (narrowed command wanted)
    rw [← fact_steps_commands foresees, unknown] at found
    cases found
  · push Not at still
    obtain ⟨growing, isFact, grows⟩ := still
    rw [ne_eq, Bool.not_eq_false] at grows
    have unrecorded : ∀ fact ∈ facts, recordsAttestations fact.body = false := by
      intro fact listed
      rw [← Bool.not_eq_true]
      intro records
      rw [brings_still (brings growing isFact) (brings_attestations (brings fact listed) records)] at grows
      cases grows
    refine lapsed_steps foresees stored unrecorded ?_
    cases attested : state.finalAttestations with
    | none =>
      left
      intro attestations isSome
      rw [attested] at isSome
      cases isSome
    | some attestations =>
      have noWork := noLateWork.2 (by rw [attested]; rfl)
      exact Or.inr ⟨growing, isFact, brings_selects (brings growing isFact) grows noWork⟩

def SettledAtSuccess (state : RunState) (contents : Contents) : Prop :=
  ∀ terminal outcome, state.terminal = some terminal → terminal.outcome = .t1 outcome →
    SettledBut contents outcome.publicationId

structure SuccessInvariant (state : RunState) (contents : Contents) : Prop where
  attended : Attended state contents
  stored : PublicationsStored state contents
  quiet : AttestedQuiet state contents
  settled : SettledAtSuccess state contents

theorem committed_quiet (reads : Reads state contents)
    (invariant : SuccessInvariant state contents) (noLateWork : NoLateWork state stimulus)
    (committed : Committed state contents stimulus after maps) : AttestedQuiet after maps := by
  cases committed with
  | lifecycle =>
    intro attestations attested isCurrent
    exact invariant.quiet attestations attested isCurrent
  | @semantic kind facts issued outcome foreseen settled folded issuing acted foreseenMaps settledMaps foldedMaps issuingMaps
      semantic admitted foresees reacts sameRun settles folds issues absent acts determined =>
      intro attestations attested isCurrent key entry stored
      obtain ⟨⟨index, isIssuing⟩, _⟩ := committed_foreseen foresees settles folds issues
      replace attested : foreseen.finalAttestations = some attestations := by
        rw [acts, isIssuing] at attested
        cases outcome <;> exact attested
      replace isCurrent : currentPublicationId foreseen = some attestations.publicationId := by
        rw [acts, isIssuing] at isCurrent
        cases outcome <;> exact isCurrent
      rcases issuing_command settles folds issues stored with before | ⟨_, _, _, isSettled⟩ | ⟨member, _⟩
      · rw [← fact_steps_commands foresees] at before
        exact attested_quiet_steps foresees reads invariant.stored invariant.quiet attestations attested isCurrent key entry before
      · exact Or.inl isSettled
      · cases reacts with
        | ended => cases member
        | suspended => cases member
        | running _ active complete answers =>
          exact absurd isCurrent (attested_asks_nothing reads invariant.attended invariant.stored noLateWork admitted
            foresees answers member attestations attested)

variable {outcome : TaskComplete} {pages : List IndexPage}

theorem determined_t1 (determined : determineTerminalOutcome state pages = some (.t1 outcome)) :
    taskComplete state = some outcome ∧ (t1Checks state pages).all = true := by
  rw [determineTerminalOutcome] at determined
  split at determined
  · rename_i found checks eligible
    cases determined
    refine ⟨?_, eligible_t1_checks eligible⟩
    rw [eligibleOutcomeForState] at eligible
    split at eligible
    · cases eligible
    · split at eligible
      · rename_i completes
        split at eligible
        · cases eligible
          exact completes
        · cases eligible
      · cases eligible
  · cases determined

theorem determined_t1_publication (determined : determineTerminalOutcome state pages = some (.t1 outcome)) :
    ∃ attestations, state.finalAttestations = some attestations ∧
      currentPublicationId state = some attestations.publicationId ∧ outcome.publicationId = attestations.publicationId := by
  obtain ⟨completes, checks⟩ := determined_t1 determined
  rw [T1Checks.all, Bool.and_eq_true] at checks
  obtain ⟨attestations, attested, isCurrent⟩ := bound_attestations checks.2
  have published := task_complete_publication completes
  rw [isCurrent] at published
  exact ⟨attestations, attested, isCurrent, (Option.some_inj.mp published).symm⟩

theorem committed_settled (settled : SettledAtSuccess state contents) (quiet : AttestedQuiet after maps)
    (committed : Committed state contents stimulus after maps) : SettledAtSuccess after maps := by
  cases committed with
  | lifecycle =>
    intro terminal outcome isTerminal isSuccess
    exact settled terminal outcome isTerminal isSuccess
  | @semantic kind facts issued ended foreseen settled folded issuing acted foreseenMaps settledMaps foldedMaps issuingMaps
      semantic admitted foresees reacts sameRun settles folds issues absent acts determined =>
      intro terminal outcome isTerminal isSuccess
      cases ended with
      | none =>
        have live : acted.terminal = none := by
          obtain ⟨⟨index, isIssuing⟩, _⟩ := committed_foreseen foresees settles folds issues
          rw [acts, isIssuing]
          exact (fact_steps_envelope foresees).terminal.trans (dispatch_admission_active state stimulus facts admitted)
        have ended : acted.terminal = some terminal := isTerminal
        rw [live] at ended
        cases ended
      | some reached =>
        cases isTerminal
        replace isSuccess : reached = .t1 outcome := isSuccess
        rw [isSuccess] at determined
        obtain ⟨attestations, attested, isCurrent, same⟩ := determined_t1_publication determined
        rw [same]
        exact quiet attestations attested isCurrent

theorem initial_success_invariant {genesis : RunGenesis} : SuccessInvariant (initialState genesis) fun _ _ => none where
  attended _ := ⟨rfl, fun command wanted => by cases wanted⟩
  stored := by
    constructor
    · intro publication isCurrent
      cases isCurrent
    · intro attestations attested
      cases attested
  quiet attestations attested := by cases attested
  settled terminal outcome isTerminal := by cases isTerminal

theorem success_invariant_keeps
    (reads : Reads state contents) (invariant : SuccessInvariant state contents) (noLateWork : NoLateWork state stimulus)
    (committed : Committed state contents stimulus after maps) : SuccessInvariant after maps := by
  have quiet := committed_quiet reads invariant noLateWork committed
  exact ⟨attended_keeps reads invariant.attended noLateWork.1 committed,
    committed_keeps publications_stored_preserved committed invariant.stored, quiet,
    committed_settled invariant.settled quiet committed⟩

theorem success_leaves_settled (collisionFree : CollisionFree IndexValue) (genesis : RunGenesis) (state : RunState)
    (contents : Contents) (reached : ReachedBy NoLateWork genesis state) (reads : Reads state contents) :
    SettledAtSuccess state contents := by
  obtain ⟨found, readsFound, invariant⟩ := reached_maps_keep collisionFree
    (initial_success_invariant) (fun state contents stimulus after maps reads invariant noLateWork committed =>
      success_invariant_keeps reads invariant noLateWork committed) reached
  rw [reads_unique collisionFree reads readsFound]
  exact invariant.settled

end Success

section Sample

attribute [local instance] sampleWorld

theorem unattested_permitted (state : RunState) (stimulus : Stimulus) (active : state.suspension = .active)
    (unattested : state.finalAttestations = none) : NoLateWork state stimulus := by
  constructor
  · intro stopped
    rw [active] at stopped
    cases stopped
  · intro attested
    rw [unattested] at attested
    cases attested

theorem succeeded_settled : SettledAtSuccess succeeded (entryOf finished.book) := by
  have reached : ReachedBy NoLateWork sampleGenesis succeeded := by
    refine .commit _ _ _ (attested_reached_by unattested_permitted) ⟨?_, fun _ => rfl⟩ succeededStep.commits
    intro stopped
    cases stopped
  exact success_leaves_settled sample_collision_free sampleGenesis succeeded _ reached
    (reads_of_indexes finished.run succeeded (on_book_reads _ _ (tidy_orderly _ (by decide +kernel))) rfl)

-- Work declared after the attestations, whose output is accepted before its workspace has been reserved.
def lateWork : WorkItem := producingWork [0, 1]

def lateRequest : BoundaryRequestReceived := boundaryRequest [2, 0] (.declareWork lateWork)

noncomputable def lateWorkBook : Book := enter attested.book .work (workEntry ⟨none, lateWork⟩).1 (.work ⟨none, lateWork⟩)

noncomputable def late : Stage :=
  .reached (incrementCounter attested.state .declaredWork) 13
    (committedBook attested.state lateWorkBook (.boundaryRequestReceived lateRequest) [reserveSample 4 lateWork] none)

theorem late_commits : Commits attested.run (.boundaryRequestReceived lateRequest) late.run := boundary_request_commits rfl rfl
    (work_declared_leads attested.state attested.book (tidy_orderly _ (by decide +kernel)) [] lateWork rfl rfl (fun _ => rfl) rfl
      (by decide +kernel))
    (fun _ => no_outcome_unaccepted _ _ rfl rfl) (committable_of_check (by decide +kernel))

noncomputable def lateStep : Step attested.run late.run where
  stimulus := .boundaryRequestReceived lateRequest
  commits := late_commits

noncomputable def lateOutput : SubmissionReady := outputSubmission [2, 1] lateWork (sampleId [9, 1])

noncomputable def lateOutputBook : Book := withOutput late.book lateWork (sampleId [9, 1])

noncomputable def produced : Stage :=
  .reached (incrementCounter late.state .acceptedWork) 14
    (committedBook late.state lateOutputBook (.submissionReady lateOutput) [] none)

noncomputable def producedStep : Step late.run produced.run where
  stimulus := .submissionReady lateOutput
  commits :=
    submission_commits (by decide +kernel)
      rfl rfl rfl rfl rfl rfl
      (work_output_accepted_leads late.state late.book (tidy_orderly _ (by decide +kernel)) (outputFact lateWork (sampleId [9, 1]))
        ⟨none, lateWork⟩ rfl rfl rfl rfl rfl (by decide +kernel) (by decide +kernel))
      (fun _ => no_outcome_unaccepted _ _ rfl rfl) (committable_of_check (by decide +kernel))

noncomputable def endingOutput : SubmissionReady := outputSubmission [2, 2] authorWork (sampleId [9, 0])

noncomputable def endingBook : Book := withOutput produced.book authorWork (sampleId [9, 0])

noncomputable def endingState : RunState := incrementCounter produced.state .acceptedWork

theorem ending_keeps {name : IndexName} (notActions : name ≠ .actions) (notCommands : name ≠ .commands)
    (notSubmissions : name ≠ .submissions) (notWork : name ≠ .work) : endingBook name = attested.book name := by
  simp only [endingBook, produced, lateOutputBook, late, lateWorkBook, withOutput, Stage.reached, committedBook, issueAll, enter,
    Function.update_of_ne notActions, Function.update_of_ne notCommands, Function.update_of_ne notSubmissions,
    Function.update_of_ne notWork]

theorem ending_completes : determineTerminalOutcome (onBook endingState endingBook) [] = some (.t1 sampleOutcome) := by
  refine attested_completes endingState.counters endingState.lastSequence endingBook
    (tidy_orderly _ (by decide +kernel)) (ending_keeps (by decide) (by decide) (by decide) (by decide))
    (ending_keeps (by decide) (by decide) (by decide) (by decide))
    (ending_keeps (by decide) (by decide) (by decide) (by decide)) rfl rfl (fun name notDeclared notAccepted => ?_)
    (by decide +kernel)
  refine (Function.update_of_ne notAccepted ..).trans ((Function.update_of_ne notAccepted ..).trans ?_)
  exact Function.update_of_ne notDeclared ..

noncomputable def ended : Stage :=
  ⟨endingState, committedBook produced.state endingBook (.submissionReady endingOutput) [] (some (.t1 sampleOutcome))⟩

noncomputable def outstanding : RunState := committedState ended.run (sampleAction [2, 2]) (.ofNat 15) (some (.t1 sampleOutcome))

theorem ended_completes : determineTerminalOutcome ended.run [] = some (.t1 sampleOutcome) :=
  (outcome_ignores_actions (onBook endingState endingBook) _ (fun name other => congrArg (pageOf name)
    (Function.update_of_ne other ..)) []).trans ending_completes

noncomputable def outstandingStep : Step produced.run outstanding where
  stimulus := .submissionReady endingOutput
  commits :=
    submission_terminates rfl rfl rfl rfl rfl
      rfl
      (work_output_accepted_leads produced.state produced.book (tidy_orderly _ (by decide +kernel))
        (outputFact authorWork (sampleId [9, 0])) ⟨none, authorWork⟩ rfl rfl rfl rfl rfl (by decide +kernel) (by decide +kernel))
      ending_completes ended_completes (committable_of_check (by decide +kernel))

theorem success_leaves_reservation : ∃ state contents terminal outcome key entry, Reached sampleGenesis state ∧ Reads state contents ∧
      state.terminal = some terminal ∧ terminal.outcome = .t1 outcome ∧ contents .commands key = some (.command entry) ∧
      entry.status = .issued ∧ entry.command.body.kind = .prepareWorkspace := by
  have reached : Reached sampleGenesis outstanding :=
    .commit _ _ _ (.commit _ _ _ (.commit _ _ _ (attested_reached_by fun _ _ _ _ => trivial) trivial lateStep.commits) trivial
      producedStep.commits) trivial outstandingStep.commits
  exact ⟨outstanding, entryOf ended.book, _, sampleOutcome, commandKey (reserveSample 4 lateWork),
    ⟨reserveSample 4 lateWork, (reserveSample 4 lateWork).commandId, none, .issued⟩, reached,
    reads_of_indexes ended.run outstanding (on_book_reads _ _ (tidy_orderly _ (by decide +kernel))) rfl, rfl, rfl, rfl, rfl,
    rfl⟩

end Sample

end PiAutopilot.Authority
