import PiAutopilot.Authority.FactFrame
import PiAutopilot.Authority.Growth
import PiAutopilot.Authority.Wanted

set_option autoImplicit false

namespace PiAutopilot.Authority

open Lib Protocol

section Frames

variable [Hashing] {contents : Contents} {identity : JsString} {value : IndexValue} {key : Key}

theorem insert_commands_frame {state : RunState} :
    ∃ index, insertAt state contents .commands identity value = withCommands state index :=
  ⟨_, rfl⟩

theorem put_commands_alike : AlikeMaps contents (putAt contents .commands identity value) :=
  fun _ different => put_other different

theorem settle_step_frame {state settled : RunState} {maps : Contents} {actionId : ActionId}
    {settlement : Option Settlement} (step : SettleStep state contents actionId settlement settled maps) :
    (∃ index, settled = withCommands state index) ∧ AlikeMaps contents maps := by
  cases step with
  | unsettling => exact ⟨⟨_, (with_commands_self).symm⟩, fun _ _ => rfl⟩
  | settling => exact ⟨insert_commands_frame, put_commands_alike⟩

variable {state after : RunState} {contents maps : Contents} {commands : List Command}

theorem issue_steps_frame (steps : IssueSteps state contents commands after maps) :
    (∃ index, after = withCommands state index) ∧ AlikeMaps contents maps := by
  induction steps with
  | nil state contents => exact ⟨⟨_, (with_commands_self).symm⟩, fun _ _ => rfl⟩
  | @cons state after contents contents' commands command absent rest ih =>
    obtain ⟨⟨index, issued⟩, alike⟩ := ih
    refine ⟨⟨index, ?_⟩, fun name different => ?_⟩
    · rw [issued, insertAt, writeIndex, withCommands, withCommands, replaceIndex, replaceIndex, replaceIndex, Function.update_idem]
    · exact (alike name different).trans (put_commands_alike name different)

-- Issuing stores every command under its own key and leaves the other entries as they are.
theorem issue_steps_stored (steps : IssueSteps state contents commands after maps) : maps .commands key = contents .commands key ∨
      ∃ command ∈ commands, key = commandKey command ∧ maps .commands key = some (issuedValue command) := by
  induction steps with
  | nil state contents => exact Or.inl rfl
  | @cons state after contents contents' commands command absent rest ih =>
    rcases ih with kept | ⟨later, member, atKey, stored⟩
    · by_cases same : key = commandKey command
      · right
        refine ⟨command, List.mem_cons_self, same, ?_⟩
        rw [kept, putAt, same]
        exact Function.update_self ..
      · left
        rw [kept, putAt]
        exact Function.update_of_ne same ..
    · exact Or.inr ⟨later, List.mem_cons_of_mem _ member, atKey, stored⟩

theorem issue_steps_issued (steps : IssueSteps state contents commands after maps) {command : Command} (member : command ∈ commands) :
    (maps .commands (commandKey command)).isSome := by
  induction steps with
  | nil state contents => cases member
  | @cons state after contents contents' commands first absent rest ih =>
    rcases List.mem_cons.mp member with rfl | later
    · refine grows_known (issue_steps_keep grows_preserved rest (grows_refl _)) ?_
      rw [commandKey, putAt, put_same, Function.update_self]
      rfl
    · exact ih later

variable {after' : RunState} {maps' : Contents}

theorem settle_step_unique {actionId : ActionId} {settlement : Option Settlement}
    (step : SettleStep state contents actionId settlement after maps)
    (again : SettleStep state contents actionId settlement after' maps') : after' = after ∧ maps' = maps := by
  cases step with
  | unsettling =>
    cases again
    exact ⟨rfl, rfl⟩
  | settling _ _ stored =>
    cases again with
    | settling _ _ stored' =>
      cases stored.symm.trans stored'
      exact ⟨rfl, rfl⟩

theorem issue_steps_unique (steps : IssueSteps state contents commands after maps)
    (again : IssueSteps state contents commands after' maps') : after' = after ∧ maps' = maps := by
  induction steps with
  | nil =>
    cases again
    exact ⟨rfl, rfl⟩
  | cons _ _ _ ih =>
    cases again with
    | cons _ _ rest => exact ih rest

theorem fact_steps_commands {facts : List DomainFact} (steps : FactSteps state contents facts after maps) :
    maps .commands = contents .commands :=
  fact_steps_unwritten steps fun _ => (log_indexes_unwritten).1

theorem fact_steps_unique {facts : List DomainFact} (steps : FactSteps state contents facts after maps)
    (again : FactSteps state contents facts after' maps') : after' = after ∧ maps' = maps := by
  have self : state = withCommands state (state.indexes .commands) := with_commands_self.symm
  obtain ⟨kept, _⟩ := fact_steps_alike (fun _ _ => rfl) steps (self ▸ steps)
  obtain ⟨same, others⟩ := fact_steps_alike (fun _ _ => rfl) steps (self ▸ again)
  refine ⟨same.trans kept.symm, funext fun name => ?_⟩
  by_cases isCommands : name = .commands
  · rw [isCommands, fact_steps_commands again, fact_steps_commands steps]
  · exact others name isCommands

end Frames

section Sample

attribute [local instance] sampleWorld

noncomputable def openingDraft (pages : List IndexPage) : SemanticDraft :=
  semanticDraft opened.run (.runReplayCompleted ⟨sampleAction [0], .ofNat 0, pages, sampleGenesis.runId, ⟨[0]⟩⟩) [] [] none

theorem opening_derives (pages : List IndexPage) : ∃ derived, deriveSemanticTransition opened.run (openingDraft pages) = .ok derived :=
  (transition_listed empty_book_orderly rfl rfl ⟨rfl, rfl, by decide⟩).imp' _ fun _ => id

end Sample

section Committed

variable [StimulusHashing]

-- What prepare asks for after the facts it foresees: nothing when the run ends or is suspended, and otherwise every
-- wanted command that is not known yet.
inductive Reacts (foreseen : RunState) (maps : Contents) : Option TerminalOutcome → List Command → Prop where
  | ended (outcome : TerminalOutcome) : Reacts foreseen maps (some outcome) []
  | suspended (stopped : isSuspended foreseen.suspension = true) : Reacts foreseen maps none []
  | running (issued : List Command) (active : isSuspended foreseen.suspension = false)
      (complete : (foreseen.indexes .work).hotComplete = true)
      (answers : Answers maps (wantedCommands foreseen) issued) : Reacts foreseen maps none issued

-- One committed stimulus, on the maps that the indexes authenticate.
inductive Committed (state : RunState) (contents : Contents) (stimulus : Stimulus) : RunState → Contents → Prop where
  | lifecycle (kind : ActionRecordKind) (suspension : SuspensionState) (lifecycle : isLifecycleRequest stimulus = true)
      (absent : contents .actions (indexKey .actions stimulus.actionId.text) = none) :
      Committed state contents stimulus
        { insertAt state contents .actions stimulus.actionId.text
            (actionValue stimulus.actionId kind (incrementDecimalNatural state.lastSequence)) with
          suspension := suspension
          lastSequence := incrementDecimalNatural state.lastSequence }
        (putAt contents .actions stimulus.actionId.text
          (actionValue stimulus.actionId kind (incrementDecimalNatural state.lastSequence)))
  | semantic (kind : ActionRecordKind) (facts : List DomainFact) (issued : List Command) (outcome : Option TerminalOutcome)
      {foreseen settled folded issuing acted : RunState} {foreseenMaps settledMaps foldedMaps issuingMaps : Contents}
      (semantic : isLifecycleRequest stimulus = false)
      (admitted : dispatchAdmission state stimulus = .ok facts)
      (foresees : FactSteps state contents facts foreseen foreseenMaps)
      (reacts : Reacts foreseen foreseenMaps outcome issued)
      (sameRun : ∀ command ∈ issued, command.runId = state.identity.runId)
      (settles : SettleStep state contents stimulus.actionId (settlementOf stimulus) settled settledMaps)
      (folds : FactSteps settled settledMaps facts folded foldedMaps)
      (issues : IssueSteps folded foldedMaps issued issuing issuingMaps)
      (absent : issuingMaps .actions (indexKey .actions stimulus.actionId.text) = none)
      (acts : acted = insertAt issuing issuingMaps .actions stimulus.actionId.text
        (actionValue stimulus.actionId kind (incrementDecimalNatural state.lastSequence)))
      (determined : determineTerminalOutcome acted stimulus.pages = outcome) :
      Committed state contents stimulus
        (committedState acted stimulus.actionId (incrementDecimalNatural state.lastSequence) outcome)
        (putAt issuingMaps .actions stimulus.actionId.text
          (actionValue stimulus.actionId kind (incrementDecimalNatural state.lastSequence)))

variable {state after settled : RunState} {stimulus : Stimulus} {facts : List DomainFact} {commands : List Command} {maps contents : Contents} {actionId : ActionId} {settlement : Option Settlement} {entry : CommandIndexValue}

omit [StimulusHashing] in
theorem common_checks_run
    (checked : commonChecks state stimulus facts commands = .ok ()) (command : Command) (member : command ∈ commands) :
    command.runId = state.identity.runId := by
  rw [commonChecks] at checked
  split at checked
  · cases checked
  split at checked
  · cases checked
  split at checked
  · cases checked
  split at checked
  · cases checked
  · rename_i none
    have same := List.find?_eq_none.mp none command member
    simpa using same

theorem outcomes_agree_none {proposed outcome : Option TerminalOutcome} (agree : outcomesAgree proposed outcome = true) :
    proposed = none ↔ outcome = none := by
  cases proposed <;> cases outcome <;> simp_all [outcomesAgree]

variable {foreseen : RunState} {genesis : RunGenesis} {holds : RunState → Contents → Prop} {issued : List Command} {key : Key}
  (collisionFree : CollisionFree IndexValue)

include collisionFree

theorem reaction_reacts (reads : Reads foreseen maps) (semantic : isLifecycleRequest stimulus = false)
    (after : stateAfterFacts state facts stimulus.pages = .ok foreseen) (live : foreseen.terminal = none)
    (reacted : reactionCommands state facts stimulus none = .ok commands) : Reacts foreseen maps none commands := by
  rw [reactionCommands, if_pos ⟨rfl, by rw [semantic]; rfl⟩, derive_reaction_noted after] at reacted
  split at reacted
  · rename_i stopped
    rw [live, Option.isSome_none, Bool.or_false] at stopped
    cases reacted
    exact .suspended stopped
  · rename_i active
    rw [live, Option.isSome_none, Bool.or_false, Bool.not_eq_true] at active
    obtain ⟨complete, reacted⟩ := refused_ok reacted
    exact .running commands active (by simpa using complete) (noted_answers collisionFree reads reacted)

theorem lifecycle_committed (reads : Reads state contents) {kind : ActionRecordKind} {action : IndexTransition}
    {suspension : SuspensionState} (lifecycle : isLifecycleRequest stimulus = true)
    (inserted : lifecycleAction state stimulus kind = .ok action) :
    ∃ maps, Committed state contents stimulus
      { action.state with suspension := suspension, lastSequence := incrementDecimalNatural state.lastSequence } maps ∧
      Reads { action.state with suspension := suspension, lastSequence := incrementDecimalNatural state.lastSequence } maps := by
  obtain ⟨absent, written⟩ := transition_insert_ok collisionFree reads (lifecycle_action_ok state stimulus kind action inserted)
  rw [written]
  exact ⟨_, .lifecycle kind suspension lifecycle absent, reads_insert reads _ _ _⟩

theorem semantic_committed (reads : Reads state contents) {prospective : RunState} {derived : DerivedTransition} (semantic : isLifecycleRequest stimulus = false)
    (admitted : dispatchAdmission state stimulus = .ok facts)
    (folded : prospectiveFactsState state facts stimulus.pages = .ok prospective)
    (reacted : reactionCommands state facts stimulus (determineTerminalOutcome prospective stimulus.pages) = .ok commands)
    (checked : commonChecks state stimulus facts commands = .ok ())
    (transition : deriveSemanticTransition state
      (semanticDraft state stimulus facts commands (determineTerminalOutcome prospective stimulus.pages)) = .ok derived)
    (agree : outcomesAgree (determineTerminalOutcome prospective stimulus.pages)
      (determineTerminalOutcome derived.state stimulus.pages) = true) :
    ∃ maps, Committed state contents stimulus (committedState derived.state stimulus.actionId
      (incrementDecimalNatural state.lastSequence) (determineTerminalOutcome derived.state stimulus.pages)) maps ∧
      Reads derived.state maps := by
  obtain ⟨maps, step, readsDerived⟩ := derive_semantic_step collisionFree reads transition
  refine ⟨maps, ?_, readsDerived⟩
  rw [prospectiveFactsState] at folded
  split at folded
  · cases folded
  rename_i foreseenTransition foreseenFolded
  cases folded
  obtain ⟨foreseenMaps, foresees, readsForeseen⟩ := fold_facts_steps collisionFree state contents reads _ _ foreseenFolded
  have live := (fact_steps_envelope foresees).terminal.trans (dispatch_admission_active state stimulus facts admitted)
  have after : stateAfterFacts state facts stimulus.pages = .ok foreseenTransition.state := by
    rw [stateAfterFacts, foreseenFolded]
  generalize isDerived : derived.state = final at step agree
  cases step with
  | @committed settled foldedState issuedState settledMaps foldedMaps issuedMaps settles folds issues absent =>
    rw [← isDerived] at agree ⊢
    let kind := (recordKindFor stimulus (determineTerminalOutcome foreseenTransition.state stimulus.pages)).recordKind
    let entry := actionValue stimulus.actionId kind (incrementDecimalNatural state.lastSequence)
    change Committed state contents stimulus _ (putAt issuedMaps .actions stimulus.actionId.text entry)
    cases proposed : determineTerminalOutcome foreseenTransition.state stimulus.pages with
    | none =>
      rw [proposed] at reacted agree issues
      have ended := (outcomes_agree_none agree).mp rfl
      have kept : issuedBy (semanticDraft state stimulus facts commands none) = commands := by
        rw [issuedBy, if_neg]
        · rfl
        · rw [semanticDraft, recordKindFor]
          split <;> simp
      rw [kept] at issues
      rw [ended]
      refine .semantic kind facts commands none semantic admitted foresees ?_ ?_ settles folds issues absent ?_ ended
      · exact reaction_reacts collisionFree readsForeseen semantic after live reacted
      · exact common_checks_run checked
      · exact isDerived
    | some reached =>
      rw [proposed] at agree issues
      have dropped : issuedBy (semanticDraft state stimulus facts commands (some reached)) = [] := by
        rw [issuedBy]
        split <;> rfl
      rw [dropped] at issues
      cases ended : determineTerminalOutcome derived.state stimulus.pages with
      | none => cases (outcomes_agree_none agree).mpr ended
      | some outcome =>
        exact .semantic kind facts [] (some outcome) semantic admitted foresees (.ended outcome) (by simp) settles folds
          issues absent isDerived ended

theorem prepared_committed (reads : Reads state contents) (step : PreparedStep state stimulus after) :
    ∃ maps, Committed state contents stimulus after maps ∧ Reads after maps := by
  cases step with
  | suspended request action admitted inserted =>
    exact lifecycle_committed collisionFree reads rfl inserted
  | resumed request action admitted inserted =>
    exact lifecycle_committed collisionFree reads rfl inserted
  | semantic _ facts prospective commands derived semantic admitted folded reacted checked transition agree =>
    obtain ⟨maps, committed, readsDerived⟩ := semantic_committed collisionFree reads semantic admitted folded reacted checked transition agree
    refine ⟨maps, committed, reads_of_indexes derived.state _ readsDerived ?_⟩
    cases determineTerminalOutcome derived.state stimulus.pages <;> rfl

-- What every commit keeps on the maps holds of every state that prepared commits reach.
theorem reached_maps_keep {allowed : RunState → Stimulus → Prop} (start : holds (initialState genesis) fun _ _ => none)
    (keeps : ∀ state contents stimulus after maps, Reads state contents → holds state contents → allowed state stimulus →
      Committed state contents stimulus after maps → holds after maps) (reached : ReachedBy allowed genesis state) : ∃ contents, Reads state contents ∧ holds state contents := by
  induction reached with
  | start => exact ⟨_, initial_reads, start⟩
  | commit before after stimulus _ permitted commits ih =>
    obtain ⟨contents, reads, held⟩ := ih
    obtain ⟨maps, committed, readsAfter⟩ := prepared_committed collisionFree reads (commits_step commits)
    exact ⟨maps, readsAfter, keeps before contents stimulus after maps reads held permitted committed⟩

omit collisionFree

-- A commit leaves what it foresaw, apart from the commands.
theorem committed_foreseen {folded issuing : RunState} {settledMaps foreseenMaps foldedMaps issuingMaps : Contents}
    (foresees : FactSteps state contents facts foreseen foreseenMaps)
    (settles : SettleStep state contents actionId settlement settled settledMaps)
    (folds : FactSteps settled settledMaps facts folded foldedMaps)
    (issues : IssueSteps folded foldedMaps issued issuing issuingMaps) :
    (∃ index, issuing = withCommands foreseen index) ∧ AlikeMaps foreseenMaps issuingMaps := by
  obtain ⟨⟨settledIndex, rfl⟩, settledAlike⟩ := settle_step_frame settles
  obtain ⟨rfl, foldedAlike⟩ := fact_steps_alike settledAlike foresees folds
  obtain ⟨⟨issuedIndex, rfl⟩, issuedAlike⟩ := issue_steps_frame issues
  refine ⟨⟨issuedIndex, ?_⟩, fun name different => (issuedAlike name different).trans (foldedAlike name different)⟩
  rw [withCommands, withCommands, withCommands, replaceIndex, replaceIndex, replaceIndex, Function.update_idem]

-- Where an entry of the commands index comes from.
inductive CommandOrigin (state : RunState) (contents : Contents) (stimulus : Stimulus) (maps : Contents) (key : Key)
    (entry : CommandIndexValue) : Prop where
  | kept (stored : contents .commands key = some (.command entry))
  | settled (prior : CommandIndexValue) (stored : contents .commands key = some (.command prior))
      (sameCommand : entry.command = prior.command) (isSettled : entry.status = .settled)
  | issued (facts : List DomainFact) {foreseen : RunState} {foreseenMaps : Contents}
      (admitted : dispatchAdmission state stimulus = .ok facts)
      (foresees : FactSteps state contents facts foreseen foreseenMaps)
      (active : isSuspended foreseen.suspension = false) (wanted : entry.command ∈ wantedCommands foreseen)
      (alike : ∀ name, name ≠ .commands → name ≠ .actions → maps name = foreseenMaps name)
      (sameRun : entry.command.runId = state.identity.runId) (atKey : key = commandKey entry.command)

theorem settle_step_origin (step : SettleStep state contents actionId settlement settled maps) (stored : maps .commands key = some (.command entry)) :
    contents .commands key = some (.command entry) ∨ ∃ prior, contents .commands key = some (.command prior) ∧
      entry.command = prior.command ∧ entry.status = .settled := by
  cases step with
  | unsettling => exact Or.inl stored
  | settling settlement prior priorStored =>
    rw [putAt, put_same] at stored
    by_cases same : key = indexKey .commands settlement.commandId.text
    · rw [same, Function.update_self] at stored
      cases stored
      exact Or.inr ⟨prior, same ▸ priorStored, rfl, rfl⟩
    · rw [Function.update_of_ne same] at stored
      exact Or.inl stored

theorem issuing_command {folded issuing : RunState} {settledMaps foldedMaps issuingMaps : Contents}
    (settles : SettleStep state contents actionId settlement settled settledMaps)
    (folds : FactSteps settled settledMaps facts folded foldedMaps)
    (issues : IssueSteps folded foldedMaps issued issuing issuingMaps)
    (stored : issuingMaps .commands key = some (.command entry)) :
    contents .commands key = some (.command entry) ∨
      (∃ prior, contents .commands key = some (.command prior) ∧ entry.command = prior.command ∧ entry.status = .settled) ∨
      (entry.command ∈ issued ∧ key = commandKey entry.command) := by
  rcases issue_steps_stored issues with kept | ⟨command, member, atKey, isIssued⟩
  · rw [kept, fact_steps_commands folds] at stored
    rcases settle_step_origin settles stored with before | settledBefore
    · exact Or.inl before
    · exact Or.inr (Or.inl settledBefore)
  · rw [stored] at isIssued
    cases isIssued
    exact Or.inr (Or.inr ⟨member, atKey⟩)

theorem committed_command (committed : Committed state contents stimulus after maps)
    (stored : maps .commands key = some (.command entry)) : CommandOrigin state contents stimulus maps key entry := by
  cases committed with
  | lifecycle kind suspension =>
    exact .kept stored
  | semantic kind facts issued outcome semantic admitted foresees reacts sameRun settles folds issues absent acts determined =>
    rcases issuing_command settles folds issues stored with
      before | ⟨prior, before, same, isSettled⟩ | ⟨member, atKey⟩
    · exact .kept before
    · exact .settled prior before same isSettled
    · cases reacts with
      | ended => cases member
      | suspended => cases member
      | running _ active complete answers =>
        obtain ⟨_, alike⟩ := committed_foreseen foresees settles folds issues
        refine .issued facts admitted foresees active (answers.asked _ member).1 ?_ (sameRun _ member) atKey
        intro name notCommands notActions
        rw [putAt, put_other notActions]
        exact alike name notCommands

theorem committed_identity (committed : Committed state contents stimulus after maps) : after.identity = state.identity := by
  cases committed with
  | lifecycle => rfl
  | semantic kind facts issued outcome semantic admitted foresees reacts sameRun settles folds issues absent acts =>
    obtain ⟨⟨settledIndex, rfl⟩, _⟩ := settle_step_frame settles
    obtain ⟨⟨issuedIndex, rfl⟩, _⟩ := issue_steps_frame issues
    have same := (fact_steps_envelope folds).identity
    rw [acts]
    cases outcome <;> exact same

theorem committed_keeps (preserved : Preserved holds) (committed : Committed state contents stimulus after maps)
    (before : holds state contents) : holds after maps := by
  cases committed with
  | lifecycle kind suspension lifecycle absent =>
    exact preserved.envelope _ _ _ _ _ (preserved.act _ _ _ _ _ before absent)
  | @semantic kind facts issued outcome foreseen settled folded issuing acted foreseenMaps settledMaps foldedMaps issuingMaps
      semantic admitted foresees reacts sameRun settles folds issues absent acts =>
      have heldSettled := settle_step_keeps preserved settles before
      have heldFolded := fact_steps_keep preserved folds (fun _ _ => trivial) heldSettled
      have heldIssuing := issue_steps_keep preserved issues heldFolded
      have heldActed := preserved.act _ _ _ kind (incrementDecimalNatural state.lastSequence) heldIssuing absent
      rw [← acts] at heldActed
      cases outcome <;> exact preserved.envelope acted _ _ _ _ heldActed

-- Every command in the index belongs to the run, is stored under its own key and has the identity of its action.
def CommandsOwned (state : RunState) (contents : Contents) : Prop :=
  ∀ key entry, contents .commands key = some (.command entry) → key = commandKey entry.command ∧
    entry.command.runId = state.identity.runId ∧
    entry.command.commandId = commandIdentity entry.command.body.kind entry.command.actionId

theorem wanted_identity {command : Command} (wanted : command ∈ wantedCommands state) :
    command.commandId = commandIdentity command.body.kind command.actionId := by
  rw [wantedCommands, List.mem_append, List.mem_flatMap] at wanted
  rcases wanted with ⟨work, _, asked⟩ | publishing
  · rcases List.mem_cons.mp asked with rfl | evidence
    · rfl
    · rw [Option.mem_toList, evidenceCommand] at evidence
      split at evidence
      · split at evidence
        · cases evidence
        · cases evidence
          rfl
      · cases evidence
  · rw [Option.mem_toList, publicationCommand] at publishing
    split at publishing
    · split at publishing
      · cases publishing
      · cases publishing
        rfl
    · cases publishing

theorem commands_owned (collisionFree : CollisionFree IndexValue)
    (reached : Reached genesis state) : ∃ contents, Reads state contents ∧ CommandsOwned state contents := by
  refine reached_maps_keep collisionFree ?_ ?_ reached
  · intro key entry stored
    cases stored
  · intro state contents stimulus after maps _ owned _ committed key entry stored
    rw [committed_identity committed]
    cases committed_command committed stored with
    | kept before => exact owned key entry before
    | settled prior before same =>
      rw [same]
      exact owned key prior before
    | issued facts admitted foresees active wanted alike sameRun atKey =>
      exact ⟨atKey, sameRun, wanted_identity wanted⟩

end Committed

end PiAutopilot.Authority
