import PiAutopilot.Authority.ReplayCommit
import PiAutopilot.Authority.SampleRun

set_option autoImplicit false

namespace PiAutopilot.Authority

open Lib Protocol

-- The stimulus that the dispatcher submits for a command; it never carries proof pages.
def recordObservation (command : Command) (observation : ArtifactRef) (observationDigest : Digest)
    (payload : CommandObservationPayload) : CommandObservationReceived where
  actionId := command.actionId
  commandId := command.commandId
  observation := observation
  observationDigest := observationDigest
  observationPayload := payload
  pages := []
  runId := command.runId

def NoPageFault {α : Type} (result : Except Feedback α) : Prop := FailsOnly (fun feedback => feedback.code ≠ .pageUnproven) result

section Pages

variable [Hashing]

-- The observation carries a blocking finding, or admission makes one of it.
def bringsFinding (state : RunState) : CommandObservationPayload → Bool
  | .validationFinding finding => blockingKind finding.kind
  | .integrationConflict _ _ _ _ => true
  | .publicationObserved observed =>
    attestationBinds observed.publicationTreeAttestation observed.gitTree observed.tree &&
      decide (observed.status = .headMoved) && state.currentCandidate.isSome
  | _ => false

-- The corrector of such a finding is looked up in the work index.
def needsCorrector (state : RunState) (command : Command) (payload : CommandObservationPayload) : Bool :=
  commandPayloadMatches command payload && state.currentPlan.isSome && bringsFinding state payload

-- Without pages a lookup rests on the hot page alone.
theorem lookup_without_pages {state : RunState} {contents : Contents} (reads : Reads state contents) (name : IndexName) (key : Key) :
    ((state.indexes name).hotComplete = true ∧ ∃ witness, lookupIndex (state.indexes name) key [] = .proved (contents name key) witness) ∨
      ((state.indexes name).hotComplete = false ∧ ∃ diagnostic, lookupIndex (state.indexes name) key [] = .unproven diagnostic) := by
  cases complete : (state.indexes name).hotComplete with
  | true =>
    exact Or.inl ⟨rfl, _, lookup_complete _ _ (reads name).represents.root (reads name).exactly complete key []⟩
  | false =>
    right
    rw [lookupIndex, complete]
    exact ⟨rfl, _, rfl⟩

variable {α : Type} {stimulus : CommandObservationReceived}

omit [Hashing] in
theorem page_fault (diagnostic : JsString) :
    ¬ NoPageFault (semanticFeedback .pageUnproven "$.pages" diagnostic : Except Feedback α) :=
  fun none => none _ rfl rfl

omit [Hashing] in
theorem other_fault {code : SemanticFeedbackCode} (path : String) (diagnostic : JsString)
    (other : code ≠ .pageUnproven) : NoPageFault (semanticFeedback code path diagnostic : Except Feedback α) :=
  (fails_only_error).mpr other

omit [Hashing] in
theorem no_page_fault_map {β : Type} (result : Except Feedback α) (f : α → β) :
    NoPageFault (result >>= fun value => pure (f value)) ↔ NoPageFault result := by
  cases result with
  | error failed => exact ⟨fun only other stopped => only other (by cases stopped; rfl), fun only other stopped => only other (by cases stopped; rfl)⟩
  | ok value => exact ⟨fun _ => fails_only_ok, fun _ => fails_only_ok⟩

variable {state : RunState} {contents : Contents}

theorem blocking_correction_pages (reads : Reads state contents) (actionId : ActionId) (finding : Finding) (blocking : BlockingFinding) :
    NoPageFault (blockingCorrection state actionId [] finding blocking) ↔
      (state.currentPlan.isSome = true → (state.indexes .work).hotComplete = true) := by
  rw [blockingCorrection]
  cases state.currentPlan with
  | none =>
    have unavailable : NoPageFault (semanticFeedback .correctorUnavailable "$.finding"
        (js "blocking finding has no current plan authority") : Except Feedback DomainFact) := other_fault _ _ (by decide)
    simpa using unavailable
  | some plan =>
    simp only [Option.isSome_some, forall_const]
    rcases lookup_without_pages reads .work (indexKey .work (correctionOwner plan blocking).2.text) with
      ⟨complete, witness, proved⟩ | ⟨incomplete, diagnostic, unproven⟩
    · simp only [complete, proved, iff_true]
      split
      · rename_i found
        cases found
      · exact fails_only_ok
      · exact other_fault _ _ (by decide)
    · simp only [incomplete, unproven, Bool.false_eq_true, iff_false]
      exact page_fault _

theorem correction_fact_pages (reads : Reads state contents) (actionId : ActionId) (finding : Finding) :
    NoPageFault (correctionFact state actionId [] finding) ↔
      (blockingKind finding.kind = true → state.currentPlan.isSome = true → (state.indexes .work).hotComplete = true) := by
  cases finding with
  | planningGap gap =>
    refine iff_of_true ?_ (fun blocking => by cases blocking)
    rw [correctionFact]
    split
    · exact other_fault _ _ (by decide)
    · exact fails_only_ok
  | advisory finding => exact iff_of_true (fails_only_ok) fun blocking => by cases blocking
  | integrity blocking =>
    exact (blocking_correction_pages reads actionId _ blocking).trans ⟨fun held _ => held, fun held => held rfl⟩
  | definitionOfDone blocking =>
    exact (blocking_correction_pages reads actionId _ blocking).trans ⟨fun held _ => held, fun held => held rfl⟩

theorem publication_facts_pages (reads : Reads state contents) (noPages : stimulus.pages = []) (payload : PublicationObserved) :
    NoPageFault (publicationFacts state stimulus payload) ↔
      (attestationBinds payload.publicationTreeAttestation payload.gitTree payload.tree = true → payload.status = .headMoved →
        state.currentPlan.isSome = true → state.currentCandidate.isSome = true → (state.indexes .work).hotComplete = true) := by
  rw [publicationFacts]
  cases binds : attestationBinds payload.publicationTreeAttestation payload.gitTree payload.tree with
  | false => exact iff_of_true (other_fault _ _ (by decide)) (fun bound => absurd bound (by decide))
  | true =>
    cases moved : payload.status with
    | desiredHead => exact iff_of_true (fails_only_ok) (fun _ wrong => absurd wrong (by decide))
    | headMoved =>
      cases plan : state.currentPlan with
      | none => exact iff_of_true (other_fault _ _ (by decide)) (fun _ _ has => absurd has (by decide))
      | some current =>
        cases candidate : state.currentCandidate with
        | none => exact iff_of_true (other_fault _ _ (by decide)) (fun _ _ _ has => absurd has (by decide))
        | some offered =>
          simp only [Bool.not_true, Bool.false_eq_true, if_false, noPages, forall_const, Option.isSome_some]
          rw [no_page_fault_map, correction_fact_pages reads, plan]
          exact ⟨fun held => held rfl rfl, fun held _ _ => held⟩

theorem observation_facts_pages (reads : Reads state contents) (noPages : stimulus.pages = []) (command : Command)
    (matched : commandPayloadMatches command stimulus.observationPayload = true) :
    NoPageFault (observationFacts state stimulus) ↔
      (needsCorrector state command stimulus.observationPayload = true → (state.indexes .work).hotComplete = true) := by
  rw [observationFacts, needsCorrector, matched, noPages]
  cases payload : stimulus.observationPayload with
  | validationFinding finding =>
    simp only [no_page_fault_map, correction_fact_pages reads, bringsFinding, Bool.true_and, Bool.and_eq_true]
    exact ⟨fun held both => held both.2 both.1, fun held blocking plan => held ⟨plan, blocking⟩⟩
  | integrationConflict conflict owner plan subject =>
    simp only [no_page_fault_map, correction_fact_pages reads, bringsFinding, Bool.true_and, Bool.and_true]
    exact ⟨fun held => held rfl, fun held _ => held⟩
  | publicationObserved observed =>
    simp only [publication_facts_pages reads noPages, bringsFinding, Bool.true_and, Bool.and_eq_true, decide_eq_true_eq]
    exact ⟨fun held all => held all.2.1.1 all.2.1.2 all.1 all.2.2, fun held binds moved plan candidate =>
      held ⟨plan, ⟨binds, moved⟩, candidate⟩⟩
  | candidateIntegrated offered plan =>
    refine iff_of_true ?_ (by simp [bringsFinding])
    dsimp only
    split
    · exact other_fault _ _ (by decide)
    · exact fails_only_ok
  | _ => exact iff_of_true (fails_only_ok) (by simp [bringsFinding])

end Pages

section Observation

variable [StimulusHashing]

-- The pages that the admission of an observation rests on: the actions page; for a command that is not observed yet
-- also the commands page; and for a blocking finding the work page.
def PagesSuffice (state : RunState) (contents : Contents) (command : Command) (payload : CommandObservationPayload) : Prop :=
  (state.indexes .actions).hotComplete = true ∧
    (contents .actions (indexKey .actions command.actionId.text) = none →
      (state.indexes .commands).hotComplete = true ∧
        (needsCorrector state command payload = true → (state.indexes .work).hotComplete = true))

theorem universal_without_pages {state : RunState} {runId : RunId} {actionId : ActionId} (sameRun : runId = state.identity.runId) (live : state.terminal = none) :
    universalRejection state runId actionId [] =
      match lookupIndex (state.indexes .actions) (indexKey .actions actionId.text) [] with
      | .unproven diagnostic => semanticFeedback .pageUnproven "$.pages" diagnostic
      | .proved (some _) _ =>
        semanticFeedback .actionAlreadyCommitted "$.actionId" (js "return the durable original result for this action identity")
      | .proved none _ => .ok () := by
  rw [universalRejection, if_neg (not_not.mpr sameRun), live]
  rfl

theorem issued_without_pages {state : RunState} {contents : Contents} (reads : Reads state contents)
    {entry : CommandIndexValue} {observation : ArtifactRef} {digest : Digest} {payload : CommandObservationPayload}
    (stored : contents .commands (commandKey entry.command) = some (.command entry)) (issued : entry.status = .issued)
    (identity : entry.command.commandId = commandIdentity entry.command.body.kind entry.command.actionId) :
    issuedObservationCommand state (recordObservation entry.command observation digest payload) = .ok entry.command ∧
        (state.indexes .commands).hotComplete = true ∨
      (∃ diagnostic, issuedObservationCommand state (recordObservation entry.command observation digest payload) =
        semanticFeedback .pageUnproven "$.pages" diagnostic) ∧ (state.indexes .commands).hotComplete = false := by
  rcases lookup_without_pages reads .commands (commandKey entry.command) with
    ⟨complete, witness, proved⟩ | ⟨incomplete, diagnostic, unproven⟩
  · left
    rw [stored, commandKey] at proved
    refine ⟨?_, complete⟩
    simp only [issuedObservationCommand, recordObservation, proved, issued, ne_eq, not_true_eq_false, if_false]
    simp [← identity]
  · right
    rw [commandKey] at unproven
    refine ⟨⟨diagnostic, ?_⟩, incomplete⟩
    simp only [issuedObservationCommand, recordObservation, unproven]

theorem observation_needs_pages (collisionFree : CollisionFree IndexValue) (genesis : RunGenesis) (state : RunState)
    (contents : Contents) (reached : Reached genesis state) (reads : Reads state contents) (live : state.terminal = none)
    (key : Key) (entry : CommandIndexValue) (stored : contents .commands key = some (.command entry))
    (issued : entry.status = .issued) (observation : ArtifactRef) (digest : Digest) (payload : CommandObservationPayload) :
    (∀ feedback, admitCommandObservation state (recordObservation entry.command observation digest payload) = .error feedback →
      feedback.code ≠ .pageUnproven) ↔ PagesSuffice state contents entry.command payload := by
  obtain ⟨contents', reads', owned⟩ := commands_owned collisionFree reached
  obtain rfl := reads_unique collisionFree reads reads'
  obtain ⟨rfl, sameRun, identity⟩ := owned key entry stored
  change NoPageFault (universalRejection state entry.command.runId entry.command.actionId [] >>= _) ↔ _
  rw [universal_without_pages sameRun live, PagesSuffice]
  rcases lookup_without_pages reads .actions (indexKey .actions entry.command.actionId.text) with
    ⟨complete, witness, proved⟩ | ⟨incomplete, diagnostic, unproven⟩
  · rw [proved]
    simp only [complete, true_and]
    cases acted : contents .actions (indexKey .actions entry.command.actionId.text) with
    | some action => exact iff_of_true (other_fault _ _ (by decide)) (fun absent => by cases absent)
    | none =>
      simp only [forall_const]
      rcases issued_without_pages reads stored issued identity with
        ⟨found, commandsComplete⟩ | ⟨⟨diagnostic, unproven⟩, commandsIncomplete⟩
      · rw [found, commandsComplete]
        change NoPageFault (if commandPayloadMatches entry.command payload then _ else _) ↔ _
        cases matched : commandPayloadMatches entry.command payload with
        | true =>
          simp only [if_true, true_and]
          exact observation_facts_pages reads rfl entry.command matched
        | false =>
          refine iff_of_true (other_fault _ _ (by decide)) ⟨rfl, fun needs => ?_⟩
          rw [needsCorrector, matched] at needs
          cases needs
      · rw [unproven, commandsIncomplete]
        exact iff_of_false (page_fault _) (fun both => by cases both.1)
  · rw [unproven, incomplete]
    exact iff_of_false (page_fault _) (fun both => by cases both.1)

end Observation

section Sample

attribute [local instance] sampleWorld

theorem declared_reached : Reached sampleGenesis declared.run := by
  have openedReached : Reached sampleGenesis opened.run := opened_run ▸ .start
  exact .commit _ _ _ openedReached trivial declaredStep.commits

theorem declared_reads : Reads declared.run (entryOf declaredBook) := on_book_reads _ _ (tidy_orderly _ (by decide +kernel))

noncomputable def reserveEntry : CommandIndexValue :=
  ⟨reserveSample 0 authorWork, (reserveSample 0 authorWork).commandId, none, .issued⟩

theorem declared_observation_answered : NoPageFault (admitCommandObservation declared.run
      (recordObservation (reserveSample 0 authorWork) sampleRef ⟨[10]⟩ .commandObserved)) :=
  (observation_needs_pages sample_collision_free sampleGenesis declared.run _ declared_reached declared_reads rfl
    (issuedEntry (reserveSample 0 authorWork)).1 reserveEntry rfl rfl sampleRef ⟨[10]⟩ .commandObserved).mpr
    ⟨rfl, fun _ => ⟨rfl, fun _ => rfl⟩⟩

-- The same run is replayed again and again; only the actions page grows.
def replayAction (number : Nat) : ActionId := sampleAction (2 :: List.replicate number 0)

noncomputable def replayKey (number : Nat) : Key := indexKey .actions (replayAction number).text

noncomputable def replaying (state : RunState) (number : Nat) : RunReplayCompleted where
  actionId := replayAction number
  lastSequence := state.lastSequence
  pages := []
  runId := sampleGenesis.runId
  stateDigest := stateDigest state

structure Replayed (number : Nat) (state : RunState) (contents : Contents) : Prop where
  reached : Reached sampleGenesis state
  reads : Reads state contents
  acted : mapCount (contents .actions) = number + 1
  fresh : ∀ later < 32, number ≤ later → contents .actions (replayKey later) = none
  same : ∃ actions sequence, state =
    { declared.run with indexes := replaceIndex declared.run.indexes .actions actions, lastSequence := sequence }

theorem replay_keys_distinct : ∀ left < 32, ∀ right < 32, replayKey left = replayKey right → left = right := by
  decide +kernel

theorem replayed_start : Replayed 0 declared.run (entryOf declaredBook) where
  reached := declared_reached
  reads := declared_reads
  acted := map_count_listed ((tidy_orderly declaredBook (by decide +kernel)).distinct .actions)
  fresh later small _ := by
    have all : ∀ later < 32, entryOf declaredBook .actions (replayKey later) = none := by decide +kernel
    exact all later small
  same := ⟨declared.run.indexes .actions, declared.run.lastSequence, by rw [replaceIndex, Function.update_eq_self]⟩

theorem replayed_content {actions : RunIndex} {sequence : DecimalNatural} : deriveReaction { declared.run with
      indexes := replaceIndex declared.run.indexes .actions actions, lastSequence := sequence } [] [] = .ok [] := by
  generalize isState : { declared.run with
    indexes := replaceIndex declared.run.indexes .actions actions, lastSequence := sequence } = state
  have wanted : wantedCommands state = [reserveSample 0 authorWork] := by
    rw [← isState]
    rfl
  rw [derive_reaction_noted rfl, wanted, if_neg (by rw [← isState]; exact Bool.false_ne_true),
    if_neg (by rw [← isState]; exact Bool.false_ne_true)]
  refine nothing_wanted state [] fun command member => ?_
  obtain rfl := List.mem_singleton.mp member
  have sameCommands : state.indexes .commands = declared.run.indexes .commands := by
    rw [← isState]
    rfl
  have listed : lookupIndex (declared.run.indexes .commands) (indexKey .commands (reserveSample 0 authorWork).commandId.text) [] =
      _ := on_book_lookup declared.state declaredBook (tidy_orderly _ (by decide +kernel))
  rw [commandKnown, sameCommands, listed]
  rfl

theorem replayed_step {number : Nat} {state : RunState} {contents : Contents} (small : number < 32)
    (replayed : Replayed number state contents) : ∃ after maps, Replayed (number + 1) after maps := by
  obtain ⟨reached, reads, acted, fresh, actions, sequence, isState⟩ := replayed
  have complete : (state.indexes .actions).hotComplete = true := by
    rw [(reads .actions).exactly.complete, acted]
    exact decide_eq_true small
  have absent := fresh number small le_rfl
  have content : deriveReaction state [] [] = .ok [] := by
    rw [isState]
    exact replayed_content
  have commits := replay_commits state contents reads (replaying state number) (by rw [isState]; rfl) (by rw [isState]; rfl)
    complete absent (Nat.zero_le _) rfl rfl
    (fun indexes => no_outcome_unattested _ _ (by rw [isState]; rfl) (by rw [isState]; rfl)) content
  refine ⟨_, _, .commit _ _ _ reached trivial commits, reads_insert reads .actions _ _, ?_, ?_, ?_⟩
  · have grown := map_count_update (contents .actions) (replayKey number)
      (some (actionValue (replayAction number) .decisionCommitted (incrementDecimalNatural state.lastSequence)))
    rw [absent, acted] at grown
    exact grown
  · intro later inside after
    refine (Function.update_of_ne ?_ ..).trans (fresh later inside (Nat.le_of_succ_le after))
    intro sameKey
    have same := replay_keys_distinct later inside number small sameKey
    omega
  · obtain ⟨index, inserted⟩ : ∃ index, insertAt state contents .actions (replayAction number).text
        (actionValue (replayAction number) .decisionCommitted (incrementDecimalNatural state.lastSequence)) =
        { state with indexes := replaceIndex state.indexes .actions index } := ⟨_, rfl⟩
    refine ⟨index, incrementDecimalNatural state.lastSequence, ?_⟩
    change { insertAt state contents .actions (replayAction number).text
      (actionValue (replayAction number) .decisionCommitted (incrementDecimalNatural state.lastSequence)) with
      lastSequence := incrementDecimalNatural state.lastSequence } = _
    rw [inserted, isState]
    simp only [replaceIndex, Function.update_idem]

theorem replayed_run {number : Nat} (small : number ≤ 32) : ∃ state contents, Replayed number state contents := by
  induction number with
  | zero => exact ⟨_, _, replayed_start⟩
  | succ number ih =>
    obtain ⟨state, contents, replayed⟩ := ih (Nat.le_of_succ_le small)
    exact replayed_step small replayed

-- After thirty-two replays of a run that has issued one command the actions page is incomplete, and the observation
-- of that command is refused.
theorem replayed_observation_refused :
    ∃ state contents diagnostic, Reached sampleGenesis state ∧ Reads state contents ∧ state.terminal = none ∧
      contents .commands (commandKey (reserveSample 0 authorWork)) = some (.command reserveEntry) ∧
      admitCommandObservation state (recordObservation (reserveSample 0 authorWork) sampleRef ⟨[10]⟩ .commandObserved) =
        semanticFeedback .pageUnproven "$.pages" diagnostic := by
  obtain ⟨state, contents, reached, reads, acted, fresh, actions, sequence, isState⟩ := replayed_run le_rfl
  have incomplete : (state.indexes .actions).hotComplete = false := by
    rw [(reads .actions).exactly.complete, acted]
    rfl
  have live : state.terminal = none := by
    rw [isState]
    rfl
  have sameRun : (reserveSample 0 authorWork).runId = state.identity.runId := by
    rw [isState]
    rfl
  rcases lookup_without_pages reads .actions (indexKey .actions (reserveSample 0 authorWork).actionId.text) with
    ⟨complete, _⟩ | ⟨_, diagnostic, unproven⟩
  · rw [incomplete] at complete
    cases complete
  · refine ⟨state, contents, diagnostic, reached, reads, live, ?_, ?_⟩
    · have sameCommands : contents .commands = entryOf declaredBook .commands := by
        apply map_root_injective sample_collision_free
        rw [← (reads .commands).represents.root, isState]
        rfl
      rw [sameCommands]
      rfl
    · change (universalRejection state (reserveSample 0 authorWork).runId (reserveSample 0 authorWork).actionId [] >>= _) = _
      rw [universal_without_pages sameRun live, unproven]
      rfl

end Sample

end PiAutopilot.Authority
