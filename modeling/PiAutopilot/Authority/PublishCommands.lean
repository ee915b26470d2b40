import PiAutopilot.Authority.Attended
import PiAutopilot.Authority.StoredEntries
import PiAutopilot.Authority.SampleRun

set_option autoImplicit false

namespace PiAutopilot.Authority

open Lib Protocol

def isIntended (state : RunState) : Bool := state.currentPublication.any fun publication => publication.status = .intended

-- A stimulus that brings a new candidate.
def offersCandidate : Stimulus → Bool
  | .submissionReady stimulus =>
    match stimulus.submissionPayload with
    | .acceptCandidate _ => true
    | _ => false
  | .commandObservationReceived stimulus =>
    match stimulus.observationPayload with
    | .candidateIntegrated _ _ => true
    | _ => false
  | _ => false

-- No candidate is accepted between the intent of a publication and its observation.
def OffersBetweenPublications (state : RunState) (stimulus : Stimulus) : Prop :=
  offersCandidate stimulus = true → isIntended state = false

def isCandidate : FactBody → Bool
  | .candidateAccepted _ => true
  | _ => false

theorem finding_no_candidate {finding : Finding} {body : FactBody} (becomes : FindingFact finding body) : isCandidate body = false := by
  cases becomes <;> rfl

theorem brings_candidate {stimulus : Stimulus} {body : FactBody} (brings : Brings stimulus body) :
    isCandidate body = offersCandidate stimulus := by
  cases brings with
  | request stimulus =>
    cases stimulus.requestPayload <;> rfl
  | submission stimulus body submitted =>
    rw [offersCandidate]
    cases submitted with
    | finding finding body isFinding becomes => rw [isFinding, finding_no_candidate becomes]
    | plan _ _ isPayload | disposition _ isPayload | output _ _ _ _ isPayload | clearing _ isPayload
    | candidate _ isPayload | attestations _ isPayload => rw [isPayload]; rfl
  | observation stimulus body observed =>
    rw [offersCandidate]
    cases observed with
    | finding finding body isFinding becomes => rw [isFinding, finding_no_candidate becomes]
    | conflict artifact owner planRootId subject body isPayload becomes =>
      rw [isPayload, finding_no_candidate becomes]
    | movedHead payload plan candidate body isPayload moved becomes =>
      rw [isPayload, finding_no_candidate becomes]
    | route _ _ isPayload | evidence _ isPayload | candidate _ _ isPayload | publication _ isPayload => rw [isPayload]; rfl

section PublishCommands

variable [Hashing]

-- The publication that a publish command names was intended for the candidate whose tree the command carries.
def NamesCandidate (contents : Contents) (fields : PublishCompareAndSwap) : Prop :=
  ∃ publication candidate,
    contents .publications (indexKey .publications fields.publicationId.text) = some (.publication publication) ∧
    contents .candidates (indexKey .candidates publication.candidateId.text) = some (.candidate candidate) ∧
    fields.candidateId = publication.candidateId ∧ fields.candidateTree = candidate.gitTree ∧
    fields.verifiedAttestation = candidate.gitTreeCasAttestation

def PublishesOwn (contents : Contents) : Prop :=
  ∀ key entry fields, contents .commands key = some (.command entry) →
    entry.command.body = .publishCompareAndSwap fields → NamesCandidate contents fields

-- While a publication is intended, the current candidate is the one it was intended for.
def IntendedForCurrent (state : RunState) : Prop :=
  ∀ publication, state.currentPublication = some publication → publication.status = .intended →
    state.currentCandidate.map CurrentCandidateState.candidateId = some publication.candidateId

variable {body : FactBody} {runId : RunId} {facts : List DomainFact} {command : Command}

theorem intended_step {state after : RunState} {contents maps : Contents}
    (step : FactStep state contents runId body after maps) (matched : IntendedForCurrent state)
    (noCandidate : isCandidate body = false) : IntendedForCurrent after := by
  cases changes : changesSelection body with
  | false =>
    have same := fact_step_selection step changes
    rw [IntendedForCurrent, same.publication, same.candidate]
    exact matched
  | true =>
    cases step with
    | planRootAccepted | finalAttestationsRecorded => exact matched
    | planRootSuperseded =>
      intro publication isCurrent
      cases isCurrent
    | publicationIntended fact forCandidate =>
      intro publication isCurrent _
      cases isCurrent
      exact forCandidate
    | publicationObserved fact publication candidate =>
      intro observed isCurrent isIntended
      cases isCurrent
      have status : fact.status.publicationStatus = .intended := isIntended
      cases found : fact.status <;> rw [found] at status <;> cases status
    | candidateAccepted => cases noCandidate
    | _ => cases changes

theorem candidate_step {state after : RunState} {contents maps : Contents}
    (step : FactStep state contents runId body after maps) (candidate : isCandidate body = true) :
    after.currentPublication = state.currentPublication := by
  cases step with
  | candidateAccepted => rfl
  | _ => cases candidate

variable {state after : RunState} {contents maps : Contents} {fields : PublishCompareAndSwap}

omit [Hashing] in
theorem not_intended_matched (none : isIntended state = false) : IntendedForCurrent state := by
  intro publication isCurrent intended
  rw [isIntended, isCurrent] at none
  exact absurd intended (of_decide_eq_false none)

theorem candidates_steps
    (steps : FactSteps state contents facts after maps) (candidates : ∀ fact ∈ facts, isCandidate fact.body = true) :
    after.currentPublication = state.currentPublication := by
  induction steps with
  | nil state contents => rfl
  | cons fact sameRun step _ ih =>
    rw [ih fun later member => candidates later (List.mem_cons_of_mem _ member)]
    exact candidate_step step (candidates fact List.mem_cons_self)

theorem intended_steps (steps : FactSteps state contents facts after maps) (matched : IntendedForCurrent state)
    (others : ∀ fact ∈ facts, isCandidate fact.body = false) : IntendedForCurrent after := by
  induction steps with
  | nil state contents => exact matched
  | cons fact sameRun step _ ih =>
    exact ih (intended_step step matched (others fact List.mem_cons_self)) fun later member => others later (List.mem_cons_of_mem _ member)

theorem names_candidate_frame (names : NamesCandidate contents fields) (publications : maps .publications = contents .publications)
    (candidates : maps .candidates = contents .candidates) : NamesCandidate maps fields := by
  rw [NamesCandidate, publications, candidates]
  exact names

theorem names_candidate_grows (grown : Grows contents maps) (names : NamesCandidate contents fields) : NamesCandidate maps fields := by
  obtain ⟨publication, candidate, intended, offered, sameCandidate, rest⟩ := names
  obtain ⟨published, found, same, _⟩ := grown _ _ _ intended
  obtain ⟨kept, offeredStill, _, final⟩ := grown _ _ _ offered
  rw [final rfl] at offeredStill
  cases published with
  | publication published =>
    have named : published.candidateId = publication.candidateId := by
      simp only [IndexValue.opened, IndexValue.publication.injEq, PublicationIndexValue.mk.injEq] at same
      exact same.1
    exact ⟨published, candidate, found, named ▸ offeredStill, sameCandidate.trans named.symm, rest⟩
  | _ => cases same

theorem wanted_publish (wanted : command ∈ wantedCommands state) (publishes : command.body = .publishCompareAndSwap fields) :
    ∃ publication candidate, state.currentPublication = some publication ∧ publication.status = .intended ∧
      state.currentCandidate = some candidate ∧ fields = publishFields publication candidate := by
  rw [wantedCommands, List.mem_append, List.mem_flatMap] at wanted
  rcases wanted with ⟨work, _, asked⟩ | publishing
  · rcases List.mem_cons.mp asked with rfl | evidence
    · cases publishes
    · rw [Option.mem_toList, evidenceCommand] at evidence
      split at evidence
      · split at evidence
        · cases evidence
        · cases evidence
          cases publishes
      · cases evidence
  · rw [Option.mem_toList, publicationCommand] at publishing
    split at publishing
    · rename_i publication candidate isCurrent hasCandidate
      split at publishing
      · cases publishing
      · rename_i intended
        cases publishing
        cases publishes
        exact ⟨publication, candidate, isCurrent, not_not.mp intended, hasCandidate, rfl⟩
    · cases publishing

-- The two stored copies and the match between them make a wanted publish command name its own candidate.
theorem wanted_names_candidate (candidateStored : CandidateStored state contents)
    (publicationStored : PublicationStored state contents) (matched : IntendedForCurrent state) (wanted : command ∈ wantedCommands state)
    (publishes : command.body = .publishCompareAndSwap fields) : NamesCandidate contents fields := by
  obtain ⟨publication, candidate, isCurrent, intended, hasCandidate, rfl⟩ := wanted_publish wanted publishes
  obtain ⟨offered, offeredStored, isCandidate⟩ := candidateStored candidate hasCandidate
  obtain ⟨published, publishedStored, copy⟩ := publicationStored publication isCurrent
  have sameId : candidate.candidateId = publication.candidateId := by
    have found := matched publication isCurrent intended
    rw [hasCandidate] at found
    exact Option.some_inj.mp found
  refine ⟨published, offered, publishedStored, ?_, ?_, ?_, ?_⟩
  · rw [copy.candidateId, ← sameId]
    exact offeredStored
  · rw [copy.candidateId]
    exact sameId
  · rw [← isCandidate]
    rfl
  · rw [← isCandidate]
    rfl

end PublishCommands

section PublishRun

variable [StimulusHashing] {state : RunState} {contents maps : Contents} {stimulus : Stimulus}

theorem foreseen_intended {foreseen : RunState} {facts : List DomainFact}
    (admitted : dispatchAdmission state stimulus = .ok facts) (foresees : FactSteps state contents facts foreseen maps)
    (matched : IntendedForCurrent state) (between : OffersBetweenPublications state stimulus) : IntendedForCurrent foreseen := by
  have each : ∀ fact ∈ facts, isCandidate fact.body = offersCandidate stimulus := fun fact member =>
    brings_candidate (admission_brings facts admitted fact member)
  cases offers : offersCandidate stimulus with
  | false => exact intended_steps foresees matched fun fact member => (each fact member).trans offers
  | true =>
    refine not_intended_matched ?_
    rw [isIntended, candidates_steps foresees fun fact member => (each fact member).trans offers]
    exact between offers

structure PublishInvariant (state : RunState) (contents : Contents) : Prop where
  stored : CandidateStored state contents ∧ PublicationStored state contents
  matched : IntendedForCurrent state
  own : PublishesOwn contents

theorem committed_intended {after : RunState}
    (committed : Committed state contents stimulus after maps) (matched : IntendedForCurrent state)
    (between : OffersBetweenPublications state stimulus) : IntendedForCurrent after := by
  cases committed with
  | lifecycle => exact matched
  | @semantic kind facts issued outcome foreseen settled folded issuing acted foreseenMaps settledMaps foldedMaps issuingMaps
      semantic admitted foresees reacts sameRun settles folds issues absent acts determined =>
      have foreseenMatched := foreseen_intended admitted foresees matched between
      obtain ⟨⟨index, isIssuing⟩, _⟩ := committed_foreseen foresees settles folds issues
      rw [acts, isIssuing]
      cases outcome <;> exact foreseenMatched

theorem publish_invariant_keeps {after : RunState}
    (invariant : PublishInvariant state contents) (between : OffersBetweenPublications state stimulus)
    (committed : Committed state contents stimulus after maps) : PublishInvariant after maps where
  stored := committed_keeps (preserved_and candidate_stored_preserved publication_stored_preserved) committed invariant.stored
  matched := committed_intended committed invariant.matched between
  own key entry fields stored publishes := by
    cases committed_command committed stored with
    | kept before =>
      exact names_candidate_grows (committed_keeps grows_preserved committed (grows_refl contents)) (invariant.own key entry fields before publishes)
    | settled prior before same =>
      rw [same] at publishes
      exact names_candidate_grows (committed_keeps grows_preserved committed (grows_refl contents)) (invariant.own key prior fields before publishes)
    | issued facts admitted foresees active wanted alike =>
      have foreseenMatched := foreseen_intended admitted foresees invariant.matched between
      obtain ⟨candidateStored, publicationStored⟩ := fact_steps_keep
        (preserved_and candidate_stored_preserved publication_stored_preserved) foresees (fun _ _ => trivial) invariant.stored
      exact names_candidate_frame (wanted_names_candidate candidateStored publicationStored foreseenMatched wanted publishes)
        (alike .publications (by decide) (by decide)) (alike .candidates (by decide) (by decide))

theorem initial_publish_invariant {genesis : RunGenesis} : PublishInvariant (initialState genesis) fun _ _ => none where
  stored := by
    constructor
    · intro candidate isCurrent
      cases isCurrent
    · intro publication isCurrent
      cases isCurrent
  matched publication isCurrent := by cases isCurrent
  own key entry fields stored := by cases stored

theorem publish_commands_name_own (collisionFree : CollisionFree IndexValue) (genesis : RunGenesis) (state : RunState)
    (contents : Contents) (reached : ReachedBy OffersBetweenPublications genesis state) (reads : Reads state contents) :
    PublishesOwn contents := by
  obtain ⟨found, readsFound, invariant⟩ := reached_maps_keep collisionFree
    (initial_publish_invariant) (fun state contents stimulus after maps _ invariant between committed =>
      publish_invariant_keeps invariant between committed) reached
  rw [reads_unique collisionFree reads readsFound]
  exact invariant.own

end PublishRun

section Sample

attribute [local instance] sampleWorld

theorem intended_between : ReachedBy OffersBetweenPublications sampleGenesis intended.run := by
  have openedReached : ReachedBy OffersBetweenPublications sampleGenesis opened.run := opened_run ▸ .start
  refine .commit _ _ _ (.commit _ _ _ (.commit _ _ _ (.commit _ _ _ openedReached ?_ declaredStep.commits) ?_ plannedStep.commits) ?_
    offeredStep.commits) ?_ intendedStep.commits
  · intro offers
    cases offers
  · intro offers
    cases offers
  · exact fun _ => rfl
  · intro offers
    cases offers

theorem intended_publishes_own : PublishesOwn (entryOf intendedBook) :=
  publish_commands_name_own sample_collision_free sampleGenesis intended.run _ intended_between
    (on_book_reads _ _ (tidy_orderly _ (by decide +kernel)))

-- A second candidate is offered while the publication of the first is still intended.
noncomputable def reofferedBook : Book :=
  committedBook intended.state
    (enter intendedBook .candidates (indexKey .candidates (candidateFact 1).candidateId.text) (.candidate (candidateEntry 1)))
    (.submissionReady (offering [1, 4] 1)) [publishSample 3 1] none

noncomputable def reoffered : Stage := .reached (selectCandidate (candidateEntry 1).candidateState intended.state) 5 reofferedBook

noncomputable def reofferedStep : Step intended.run reoffered.run where
  stimulus := .submissionReady (offering [1, 4] 1)
  commits :=
    submission_commits rfl rfl rfl rfl rfl rfl rfl
      (candidate_accepted_leads intended.state intendedBook (tidy_orderly _ (by decide +kernel)) [] (candidateFact 1) rfl rfl
        (by decide +kernel))
      (fun _ => no_outcome_unattested _ _ rfl rfl)
      (committable_of_check (by decide +kernel))

theorem reoffered_publishes_other : ∃ state contents key entry fields publication, Reached sampleGenesis state ∧ Reads state contents ∧
      contents .commands key = some (.command entry) ∧ entry.command.body = .publishCompareAndSwap fields ∧
      contents .publications (indexKey .publications fields.publicationId.text) = some (.publication publication) ∧
      fields.candidateId ≠ publication.candidateId := by
  refine ⟨reoffered.run, entryOf reofferedBook, commandKey (publishSample 3 1),
    ⟨publishSample 3 1, (publishSample 3 1).commandId, none, .issued⟩,
    publishFields samplePublication.publicationState (candidateEntry 1).candidateState,
    samplePublication.publicationValue sampleGenesis.runId, .commit _ _ _ intended_reached trivial reofferedStep.commits,
    on_book_reads _ _ (tidy_orderly _ (by decide +kernel)), rfl, rfl, rfl, ?_⟩
  decide +kernel

end Sample

end PiAutopilot.Authority
