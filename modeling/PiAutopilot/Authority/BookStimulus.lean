import PiAutopilot.Authority.BookCommit

set_option autoImplicit false

namespace PiAutopilot.Authority

open Protocol

section BookStimulus

variable [StimulusHashing]

-- The parts of a commit that do not depend on its facts: the stimulus is for this run and not committed before, its
-- facts and commands fit the envelope, and the commands and the action can be entered.
structure Committable (state : RunState) (book next : Book) (stimulus : Stimulus) (facts : List DomainFact)
    (commands : List Command) : Prop where
  orderly : Orderly book
  orderlyNext : Orderly next
  run : stimulus.runId = state.identity.runId
  active : state.terminal = none
  unseen : entryOf book .actions (actionKey stimulus) = none
  checked : commonChecks (onBook state book) stimulus facts commands = .ok ()
  enterable : Enterable next stimulus commands

def indexNames : List IndexName :=
  [.actions, .atoms, .candidates, .commands, .dependencies, .dispositions, .evidence, .findings, .plans, .publications,
    .submissions, .work]

omit [StimulusHashing] in
theorem mem_index_names {name : IndexName} : name ∈ indexNames := by
  cases name <;> decide

def tidy (book : Book) : Bool :=
  indexNames.all fun name => decide ((book name).map Prod.fst).Nodup && decide ((book name).length ≤ maxHotIndexValues)

omit [StimulusHashing] in
theorem tidy_orderly (book : Book) (checked : tidy book = true) : Orderly book := by
  rw [tidy, List.all_eq_true] at checked
  have each := fun name => checked name (mem_index_names)
  simp only [Bool.and_eq_true, decide_eq_true_eq] at each
  exact ⟨fun name => (each name).1, fun name => (each name).2⟩

def committable (state : RunState) (book next : Book) (stimulus : Stimulus) (facts : List DomainFact) (commands : List Command) : Bool :=
  tidy book && tidy next && decide (stimulus.runId = state.identity.runId) && state.terminal.isNone &&
    (entryOf book .actions (actionKey stimulus)).isNone && (commonChecks state stimulus facts commands).isOk &&
    issuable next commands && (entryOf (issueAll next commands) .actions (actionKey stimulus)).isNone &&
    decide ((issueAll next commands .actions).length < maxHotIndexValues)

variable {state after : RunState} {book next final : Book} {facts : List DomainFact} {commands : List Command} {stimulus : SubmissionReady} {work : WorkIndexValue} {fact : DomainFact}

-- Everything a commit needs besides its facts can be computed from the listed pages.
theorem committable_of_check {stimulus : Stimulus} (checked : committable state book next stimulus facts commands = true) :
    Committable state book next stimulus facts commands := by
  simp only [committable, Bool.and_eq_true, decide_eq_true_eq, Option.isNone_iff_eq_none] at checked
  obtain ⟨⟨⟨⟨⟨⟨⟨⟨tidyBook, tidyNext⟩, run⟩, active⟩, unseen⟩, common⟩, fresh⟩, absent⟩, room⟩ := checked
  have passed : commonChecks (onBook state book) stimulus facts commands = .ok () := by
    change (commonChecks (onBook state book) stimulus facts commands).isOk = true at common
    cases outcome : commonChecks (onBook state book) stimulus facts commands with
    | error feedback =>
      rw [outcome] at common
      cases common
    | ok _ => rfl
  exact ⟨tidy_orderly book tidyBook, tidy_orderly next tidyNext, run, active, unseen, passed, ⟨fresh, absent, room⟩⟩

theorem boundary_request_commits {stimulus : BoundaryRequestReceived} (reacted : commands = listedReaction after next)
    (entered : committedBook state next (.boundaryRequestReceived stimulus) commands none = final)
    (leads : Leads state book ⟨stimulus.runId, requestFact stimulus.requestPayload⟩ stimulus.pages after next)
    (quiet : ∀ book, determineTerminalOutcome (onBook after book) stimulus.pages = none)
    (committable : Committable state book next (.boundaryRequestReceived stimulus)
      [⟨stimulus.runId, requestFact stimulus.requestPayload⟩] commands) :
    Commits (onBook state book) (.boundaryRequestReceived stimulus)
      (onBook { after with lastSequence := incrementDecimalNatural state.lastSequence } final) := by
  have admitted : dispatchAdmission (onBook state book) (.boundaryRequestReceived stimulus) =
      .ok [⟨stimulus.runId, requestFact stimulus.requestPayload⟩] := by
    show admitBoundaryRequest (onBook state book) stimulus = _
    rw [admitBoundaryRequest, universal_passes state book committable.orderly stimulus.runId stimulus.actionId
      committable.run committable.active committable.unseen]
    rfl
  rw [← entered]
  exact decision_commits rfl rfl admitted (fold_facts_single leads) committable.orderlyNext quiet reacted committable.checked
    committable.enterable

section Submission

variable (reacted : commands = listedReaction after next)
  (entered : committedBook state next (.submissionReady stimulus) commands none = final)
  (listed : entryOf book .work (indexKey .work stimulus.workItemId.text) = some (.work work))
  (plan : work.workItem.planRootId = stimulus.planRootId) (input : work.workItem.inputRoot = stimulus.inputRoot)
  (waiting : work.acceptedOutput = none) (proposed : submissionFact (onBook state book) stimulus = .ok fact)

include listed plan input waiting proposed

theorem submission_admitted (orderly : Orderly book) (run : stimulus.runId = state.identity.runId) (active : state.terminal = none)
    (unseen : entryOf book .actions (actionKey (.submissionReady stimulus)) = none) :
    dispatchAdmission (onBook state book) (.submissionReady stimulus) = .ok [fact] := by
  have found : workValue (onBook state book) stimulus = .ok work := by
    rw [workValue, on_book_lookup state book orderly, listed]
    simp [plan, input, waiting]
  show admitSubmissionReady (onBook state book) stimulus = _
  rw [admitSubmissionReady, universal_passes state book orderly stimulus.runId stimulus.actionId run active unseen]
  rw [submissionFacts, found]
  rw [proposed]
  rfl

include reacted entered in
theorem submission_commits (leads : Leads state book fact stimulus.pages after next)
    (quiet : ∀ book, determineTerminalOutcome (onBook after book) stimulus.pages = none)
    (committable : Committable state book next (.submissionReady stimulus) [fact] commands) :
    Commits (onBook state book) (.submissionReady stimulus)
      (onBook { after with lastSequence := incrementDecimalNatural state.lastSequence } final) := by
  rw [← entered]
  exact decision_commits rfl rfl (submission_admitted listed plan input waiting proposed committable.orderly committable.run
      committable.active committable.unseen)
    (fold_facts_single leads) committable.orderlyNext quiet reacted
    committable.checked committable.enterable

-- A submission that completes the task: the commands are dropped and the outcome is committed with it.
theorem submission_terminates {outcome : TerminalOutcome}
    (entered : committedBook state next (.submissionReady stimulus) [] (some outcome) = final)
    (leads : Leads state book fact stimulus.pages after next)
    (eligible : determineTerminalOutcome (onBook after next) stimulus.pages = some outcome)
    (confirmed : determineTerminalOutcome (onBook after final) stimulus.pages = some outcome)
    (committable : Committable state book next (.submissionReady stimulus) [fact] []) :
    Commits (onBook state book) (.submissionReady stimulus)
      (committedState (onBook after final) stimulus.actionId (incrementDecimalNatural state.lastSequence) (some outcome)) := by
  subst entered
  obtain ⟨mutations, folded⟩ := fold_facts_single leads
  exact semantic_commits state after book book next next [fact] [] (some outcome) mutations []
    mutations rfl committable.orderlyNext committable.orderlyNext
    (submission_admitted listed plan input waiting proposed committable.orderly committable.run committable.active committable.unseen)
    folded eligible rfl committable.checked rfl (unsettled_derives state book [] (some outcome) rfl) folded
    committable.enterable confirmed

end Submission

variable {prospective : Book} {stimulus : CommandObservationReceived} {entry : CommandIndexValue}
  (reacted : commands = listedReaction after prospective)
  (entered : committedBook state next (.commandObservationReceived stimulus) commands none = final)
  (listed : entryOf book .commands (indexKey .commands stimulus.commandId.text) = some (.command entry))
  (issued : entry.status = .issued) (action : entry.command.actionId = stimulus.actionId)
  (named : entry.command.commandId = stimulus.commandId)
  (identity : entry.command.commandId = commandIdentity entry.command.body.kind entry.command.actionId)
  (matched : commandPayloadMatches entry.command stimulus.observationPayload = true)

include listed issued action named identity matched

theorem observation_admitted (orderly : Orderly book) (run : stimulus.runId = state.identity.runId)
    (active : state.terminal = none) (unseen : entryOf book .actions (actionKey (.commandObservationReceived stimulus)) = none)
    (proposed : observationFacts (onBook state book) stimulus = .ok facts) :
    dispatchAdmission (onBook state book) (.commandObservationReceived stimulus) = .ok facts := by
  have found : issuedObservationCommand (onBook state book) stimulus = .ok entry.command := by
    rw [issuedObservationCommand, on_book_lookup state book orderly, listed]
    rw [action] at identity
    simp [issued, action, named, ← identity]
  show admitCommandObservation (onBook state book) stimulus = _
  rw [admitCommandObservation, universal_passes state book orderly stimulus.runId stimulus.actionId run active unseen]
  rw [found]
  show (if commandPayloadMatches entry.command stimulus.observationPayload then _ else _) = _
  rw [if_pos matched, proposed]

include reacted entered in
-- The settlement of an issued command, with the facts its observation carries.
theorem observation_commits
    (installed : settlementInstalled ⟨stimulus.commandId, stimulus.observation, stimulus.observationDigest⟩ = true)
    (room : (book .commands).length < maxHotIndexValues) (orderlyProspective : Orderly prospective)
    (proposed : observationFacts (onBook state book) stimulus = .ok facts)
    (foldedAlone : ∃ mutations, foldFacts (onBook state book) facts stimulus.pages = .ok ⟨onBook after prospective, mutations⟩)
    (folded : ∃ mutations, foldFacts (onBook state (enter book .commands (indexKey .commands stimulus.commandId.text)
      (settledValue entry stimulus.observation))) facts stimulus.pages = .ok ⟨onBook after next, mutations⟩)
    (quiet : ∀ book, determineTerminalOutcome (onBook after book) stimulus.pages = none)
    (committable : Committable state book next (.commandObservationReceived stimulus) facts commands) :
    Commits (onBook state book) (.commandObservationReceived stimulus)
      (onBook { after with lastSequence := incrementDecimalNatural state.lastSequence } final) := by
  subst entered
  obtain ⟨alone, foldedAlone⟩ := foldedAlone
  obtain ⟨mutations, folded⟩ := folded
  obtain ⟨settlement, settles⟩ := settle_command_listed state book committable.orderly stimulus.actionId
    ⟨stimulus.commandId, stimulus.observation, stimulus.observationDigest⟩ entry listed issued action named room
  refine semantic_commits state after book _ prospective next facts
    commands none alone [settlement] mutations rfl orderlyProspective committable.orderlyNext
    (observation_admitted listed issued action named identity matched committable.orderly committable.run committable.active
      committable.unseen proposed)
    foldedAlone (quiet prospective) reacted committable.checked ?_ ?_ folded committable.enterable (quiet _)
  · simp [settlementOf, installed]
  · rw [deriveSettlement]
    show (settleCommand _ stimulus.actionId stimulus.pages _ >>= _) = _
    rw [settles]
    rfl

end BookStimulus

end PiAutopilot.Authority
