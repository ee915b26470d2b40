import PiAutopilot.Authority.Brings
import PiAutopilot.Authority.Committed

set_option autoImplicit false

namespace PiAutopilot.Authority

open Lib Protocol

-- The facts after which a state may want a command that it did not want before.
def growsWanted : FactBody → Bool
  | .workDeclared _ | .findingAccepted (.blockingWithCorrection _ _) | .candidateAccepted _ | .publicationIntended _ => true
  | _ => false

section Narrowing

variable [Hashing] {work : WorkIndexValue} {body : FactBody} {runId : RunId}

theorem mem_ready_works {state : RunState} {contents : Contents} (reads : Reads state contents)
    (complete : (state.indexes .work).hotComplete = true) :
    work ∈ readyWorks state ↔ ∃ key, contents .work key = some (.work work) ∧ work.acceptedOutput = none := by
  rw [readyWorks, List.mem_filterMap]
  constructor
  · rintro ⟨⟨key, value⟩, listed, ready⟩
    have stored := ((reads .work).exactly.listed complete key value).mp listed
    cases value with
    | work found =>
      rw [readyWork] at ready
      split at ready
      · cases ready
      · rename_i pending
        cases ready
        exact ⟨key, stored, Option.not_isSome_iff_eq_none.mp pending⟩
    | _ => cases ready
  · rintro ⟨key, stored, pending⟩
    refine ⟨(key, .work work), ((reads .work).exactly.listed complete key _).mpr stored, ?_⟩
    rw [readyWork, pending]
    rfl

-- What the commands of a state depend on besides its work.
structure Narrows (before after : RunState) : Prop where
  evidence : ∀ work command, evidenceCommand work after = some command → evidenceCommand work before = some command
  publication : ∀ command, publicationCommand after = some command → publicationCommand before = some command

theorem evidence_command_congr {before after : RunState}
    (candidate : after.currentCandidate = before.currentCandidate) : evidenceCommand work after = evidenceCommand work before := by
  simp only [evidenceCommand, candidate]

variable (before after : RunState)

theorem publication_command_congr (identity : after.identity = before.identity)
    (candidate : after.currentCandidate = before.currentCandidate)
    (publication : after.currentPublication = before.currentPublication) :
    publicationCommand after = publicationCommand before := by
  simp only [publicationCommand, identity, candidate, publication]

theorem narrows_same (identity : after.identity = before.identity) (candidate : after.currentCandidate = before.currentCandidate)
    (publication : after.currentPublication = before.currentPublication) : Narrows before after where
  evidence work command wanted := by rwa [evidence_command_congr candidate] at wanted
  publication command wanted := by rwa [publication_command_congr before after identity candidate publication] at wanted

theorem narrows_observed (candidate : after.currentCandidate = before.currentCandidate)
    (settled : ∀ publication, after.currentPublication = some publication → publication.status ≠ .intended) :
    Narrows before after where
  evidence work command wanted := by rwa [evidence_command_congr candidate] at wanted
  publication command wanted := by
    rw [publicationCommand] at wanted
    split at wanted
    · rename_i publication _ isCurrent _
      rw [if_pos (settled publication isCurrent)] at wanted
      cases wanted
    · cases wanted

theorem narrows_dropped (noCandidate : after.currentCandidate = none) : Narrows before after where
  evidence work command wanted := by
    rw [evidenceCommand, noCandidate] at wanted
    split at wanted
    · rw [if_pos (by simp)] at wanted
      cases wanted
    · cases wanted
  publication command wanted := by
    rw [publicationCommand, noCandidate] at wanted
    split at wanted
    · rename_i some
      cases some
    · cases wanted

variable {state : RunState} {contents maps : Contents}

theorem fact_step_narrows {after : RunState}
    (step : FactStep state contents runId body after maps) (still : growsWanted body = false) : Narrows state after := by
  have identity := (fact_step_envelope step).identity
  cases changes : changesSelection body with
  | false =>
    have same := fact_step_selection step changes
    exact narrows_same state after identity same.candidate same.publication
  | true =>
    cases step with
    | planRootAccepted | finalAttestationsRecorded => exact narrows_same _ _ rfl rfl rfl
    | planRootSuperseded => exact narrows_dropped _ _ rfl
    | publicationObserved fact publication candidate =>
      refine narrows_observed _ _ rfl fun observed isCurrent => ?_
      cases isCurrent
      change fact.status.publicationStatus ≠ _
      cases fact.status <;> simp [ObservedStatus.publicationStatus]
    | candidateAccepted | publicationIntended => cases still
    | _ => cases changes

-- Of the facts that do not grow what is wanted, only an accepted output writes to the work index.
theorem fact_step_works {after : RunState}
    (step : FactStep state contents runId body after maps) (still : growsWanted body = false) :
    mapCount (maps .work) = mapCount (contents .work) ∧
      ∀ key work, maps .work key = some (.work work) → work.acceptedOutput = none → contents .work key = some (.work work) := by
  by_cases writes : .work ∈ writtenIndexes body
  · cases step with
    | workOutputAccepted fact inPlan prior stored =>
      have unchanged : putAt (putAt contents .work fact.workItemId.text (acceptedWorkValue prior fact)) .submissions
          fact.submissionId.text (submissionValue runId fact) .work =
          Function.update (contents .work) (indexKey .work fact.workItemId.text) (some (acceptedWorkValue prior fact)) := by
        rw [putAt, putAt, put_other (by decide), put_same]
      rw [unchanged]
      refine ⟨?_, fun key work updated pending => ?_⟩
      · have counted := map_count_update (contents .work) (indexKey .work fact.workItemId.text) (some (acceptedWorkValue prior fact))
        rw [show contents .work (indexKey .work fact.workItemId.text) = _ from stored] at counted
        simpa using counted
      · by_cases same : key = indexKey .work fact.workItemId.text
        · rw [same, Function.update_self] at updated
          cases updated
          cases pending
        · rwa [Function.update_of_ne same] at updated
    | workDeclared | blockingFindingAccepted => cases still
    | _ => simp [writtenIndexes] at writes
  · rw [fact_step_unwritten step .work writes]
    exact ⟨rfl, fun _ _ stored _ => stored⟩

theorem wanted_narrows (reads : Reads before contents)
    (readsAfter : Reads after maps) (complete : (before.indexes .work).hotComplete = true) (narrows : Narrows before after)
    (counted : mapCount (maps .work) = mapCount (contents .work))
    (kept : ∀ key work, maps .work key = some (.work work) → work.acceptedOutput = none → contents .work key = some (.work work)) :
    (after.indexes .work).hotComplete = true ∧ ∀ command ∈ wantedCommands after, command ∈ wantedCommands before := by
  have completeAfter : (after.indexes .work).hotComplete = true := by
    rw [(readsAfter .work).exactly.complete, counted, ← (reads .work).exactly.complete, complete]
  refine ⟨completeAfter, fun command wanted => ?_⟩
  rw [wantedCommands, List.mem_append, List.mem_flatMap] at wanted ⊢
  rcases wanted with ⟨work, ready, asked⟩ | publishing
  · left
    obtain ⟨key, stored, pending⟩ := (mem_ready_works readsAfter completeAfter).mp ready
    refine ⟨work, (mem_ready_works reads complete).mpr ⟨key, kept key work stored pending, pending⟩, ?_⟩
    rw [wantedFor, List.mem_cons, Option.mem_toList] at asked ⊢
    rcases asked with reserve | evidence
    · exact Or.inl reserve
    · exact Or.inr (narrows.evidence work command evidence)
  · right
    rw [Option.mem_toList] at publishing ⊢
    exact narrows.publication command publishing

theorem fact_steps_narrow {after : RunState} {facts : List DomainFact}
    (steps : FactSteps state contents facts after maps) (still : ∀ fact ∈ facts, growsWanted fact.body = false)
    (reads : Reads state contents) (complete : (state.indexes .work).hotComplete = true) :
    (after.indexes .work).hotComplete = true ∧ ∀ command ∈ wantedCommands after, command ∈ wantedCommands state := by
  induction steps with
  | nil state contents => exact ⟨complete, fun _ wanted => wanted⟩
  | cons fact sameRun step _ ih =>
    have first := still fact List.mem_cons_self
    obtain ⟨counted, kept⟩ := fact_step_works step first
    obtain ⟨completeMiddle, narrowed⟩ := wanted_narrows _ _ reads (fact_step_reads step reads) complete
      (fact_step_narrows step first) counted kept
    obtain ⟨completeAfter, rest⟩ := ih (fun later member => still later (List.mem_cons_of_mem _ member))
      (fact_step_reads step reads) completeMiddle
    exact ⟨completeAfter, fun command wanted => narrowed command (rest command wanted)⟩

end Narrowing

-- A stimulus whose facts can make the state want more.
def growsReaction : Stimulus → Bool
  | .boundaryRequestReceived stimulus => growsWanted (requestFact stimulus.requestPayload)
  | .submissionReady stimulus =>
    match stimulus.submissionPayload with
    | .acceptCandidate _ => true
    | .acceptFinding finding => blockingKind finding.kind
    | _ => false
  | .commandObservationReceived stimulus =>
    match stimulus.observationPayload with
    | .validationFinding finding => blockingKind finding.kind
    | .candidateIntegrated _ _ | .integrationConflict _ _ _ _ => true
    | .publicationObserved observed => decide (observed.status = .headMoved)
    | _ => false
  | _ => false

theorem finding_still {finding : Finding} {body : FactBody} (becomes : FindingFact finding body)
    (nonblocking : blockingKind finding.kind = false) : growsWanted body = false := by
  cases becomes with
  | nonblocking => rfl
  | blocking correction isBlocking =>
    rw [isBlocking] at nonblocking
    cases nonblocking

theorem brings_still {stimulus : Stimulus} {body : FactBody} (brings : Brings stimulus body)
    (still : growsReaction stimulus = false) : growsWanted body = false := by
  cases brings with
  | request stimulus => exact still
  | submission stimulus body submitted =>
    cases submitted with
    | finding finding body isFinding becomes =>
      rw [growsReaction, isFinding] at still
      exact finding_still becomes still
    | candidate payload isCandidate =>
      rw [growsReaction, isCandidate] at still
      cases still
    | plan | disposition | output | clearing | attestations => rfl
  | observation stimulus body observed =>
    cases observed with
    | finding finding body isFinding becomes =>
      rw [growsReaction, isFinding] at still
      exact finding_still becomes still
    | candidate payload planRootId isCandidate =>
      rw [growsReaction, isCandidate] at still
      cases still
    | conflict artifact owner planRootId subject body isConflict becomes =>
      rw [growsReaction, isConflict] at still
      cases still
    | movedHead payload plan candidate body isObserved moved becomes =>
      rw [growsReaction, isObserved] at still
      exact absurd moved (of_decide_eq_false still)
    | route | evidence | publication => rfl

section Attended

variable [StimulusHashing]

-- While the run is suspended, no commit declares work, accepts a candidate or intends a publication.
def QuietWhileSuspended (state : RunState) (stimulus : Stimulus) : Prop :=
  isSuspended state.suspension = true → growsReaction stimulus = false

-- Every command a live state wants has been issued, and its work page shows all the work there is.
def Attended (state : RunState) (contents : Contents) : Prop :=
  state.terminal = none → (state.indexes .work).hotComplete = true ∧
    ∀ command ∈ wantedCommands state, (contents .commands (commandKey command)).isSome

variable {after state : RunState} {contents maps : Contents}

theorem wanted_commands_congr {before : RunState} (identity : after.identity = before.identity)
    (candidate : after.currentCandidate = before.currentCandidate)
    (publication : after.currentPublication = before.currentPublication)
    (work : after.indexes .work = before.indexes .work) : wantedCommands after = wantedCommands before := by
  have each : wantedFor after = wantedFor before := by
    funext item
    rw [wantedFor, wantedFor, evidence_command_congr candidate]
  rw [wantedCommands, wantedCommands, readyWorks, readyWorks, work, each,
    publication_command_congr before after identity candidate publication]

theorem attended_keeps {stimulus : Stimulus}
    (reads : Reads state contents) (attended : Attended state contents) (quiet : QuietWhileSuspended state stimulus)
    (committed : Committed state contents stimulus after maps) : Attended after maps := by
  cases committed with
  | lifecycle kind suspension lifecycle absent =>
    intro live
    exact attended live
  | @semantic kind facts issued outcome foreseen settled folded issuing acted foreseenMaps settledMaps foldedMaps issuingMaps
      semantic admitted foresees reacts sameRun settles folds issues absent acts determined =>
      cases outcome with
      | some outcome =>
        intro live
        cases live
      | none =>
        intro _
        obtain ⟨⟨index, isIssuing⟩, _⟩ := committed_foreseen foresees settles folds issues
        have sameWork : (committedState acted stimulus.actionId (incrementDecimalNatural state.lastSequence) none).indexes .work =
            foreseen.indexes .work := by
          rw [acts, isIssuing]
          rfl
        have sameWanted : wantedCommands (committedState acted stimulus.actionId
            (incrementDecimalNatural state.lastSequence) none) = wantedCommands foreseen := by
          refine wanted_commands_congr ?_ ?_ ?_ sameWork <;> rw [acts, isIssuing] <;> rfl
        have keeps : ∀ key, (contents .commands key).isSome → (issuingMaps .commands key).isSome := by
          have settledGrown := settle_step_keeps grows_preserved settles (grows_refl contents)
          have foldedGrown := fact_steps_keep grows_preserved folds (fun _ _ => trivial) settledGrown
          exact fun key known => grows_known (issue_steps_keep grows_preserved issues foldedGrown) known
        rw [sameWork, sameWanted, putAt]
        cases reacts with
        | suspended stopped =>
          rw [(fact_steps_envelope foresees).suspension] at stopped
          obtain ⟨complete, known⟩ := attended (dispatch_admission_active state stimulus facts admitted)
          have still : ∀ fact ∈ facts, growsWanted fact.body = false := fun fact member =>
            brings_still (admission_brings facts admitted fact member) (quiet stopped)
          obtain ⟨completeAfter, narrowed⟩ := fact_steps_narrow foresees still reads complete
          exact ⟨completeAfter, fun command wanted => keeps _ (known command (narrowed command wanted))⟩
        | running _ active complete answers =>
          refine ⟨complete, fun command wanted => ?_⟩
          rcases answers.answered command wanted with known | ⟨answer, member, same⟩
          · rw [fact_steps_commands foresees] at known
            exact keeps _ known
          · rw [commandKey, ← same]
            exact issue_steps_issued issues member

theorem reached_attended (collisionFree : CollisionFree IndexValue) {genesis : RunGenesis}
    (reached : ReachedBy QuietWhileSuspended genesis state) : ∃ contents, Reads state contents ∧ Attended state contents := by
  refine reached_maps_keep collisionFree ?_ ?_ reached
  · intro _
    exact ⟨rfl, fun command wanted => by cases wanted⟩
  · intro state contents stimulus after maps reads attended quiet committed
    exact attended_keeps reads attended quiet committed

end Attended

end PiAutopilot.Authority
