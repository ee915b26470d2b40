import PiAutopilot.Authority.PreparedRun
import PiAutopilot.Authority.BookFacts

set_option autoImplicit false

namespace PiAutopilot.Authority

open Protocol
open Lib

section Reaction

variable [Hashing]

def noteListed (book : Book) (commands : List Command) (command : Command) : List Command :=
  if (entryOf book .commands (indexKey .commands command.commandId.text)).isNone &&
      !(commands.any fun existing => existing.commandId = command.commandId) then commands ++ [command]
  else commands

def noteListedOptional (book : Book) (commands : List Command) : Option Command → List Command
  | none => commands
  | some command => noteListed book commands command

variable (state : RunState) (book : Book)

def workListed (commands : List Command) (work : WorkIndexValue) : List Command :=
  noteListedOptional book (noteListed book commands (reserveCommand work)) (evidenceCommand work state)

-- The commands a listed state asks for.
def listedReaction : List Command :=
  if isSuspended state.suspension || state.terminal.isSome then []
  else
    noteListedOptional book (((book .work).filterMap fun entry => readyWork entry.2).foldl (workListed state book) [])
      (publicationCommand state)

variable {pages : List IndexPage} {commands : List Command}

theorem note_command_listed (orderly : Orderly book) {command : Command} :
    noteCommand (onBook state book) pages commands command = .ok (noteListed book commands command) := by
  simp only [noteCommand, commandKnown, on_book_lookup state book orderly, noteListed]
  cases entryOf book .commands (indexKey .commands command.commandId.text) with
  | none => cases commands.any fun existing => existing.commandId = command.commandId <;> rfl
  | some value => rfl

theorem note_optional_listed (orderly : Orderly book) {command : Option Command} :
    noteOptional (onBook state book) pages commands command = .ok (noteListedOptional book commands command) := by
  cases command with
  | none => rfl
  | some command => exact note_command_listed state book orderly

theorem work_commands_listed (orderly : Orderly book) (pages : List IndexPage) (works : List WorkIndexValue) (commands : List Command) :
    works.foldlM (workCommands (onBook state book) pages) commands = .ok (works.foldl (workListed state book) commands) := by
  induction works generalizing commands with
  | nil => rfl
  | cons work rest ih =>
    have first : workCommands (onBook state book) pages commands work = .ok (workListed state book commands work) := by
      rw [workCommands, note_command_listed state book orderly]
      exact note_optional_listed state book orderly
    rw [List.foldlM_cons, first]
    exact ih (workListed state book commands work)

theorem derive_reaction_listed {before state : RunState} {facts : List DomainFact} {book : Book}
    {mutations : List IndexMutation} (orderly : Orderly book)
    (folded : foldFacts before facts pages = .ok ⟨onBook state book, mutations⟩) :
    deriveReaction before facts pages = .ok (listedReaction state book) := by
  have prospective : stateAfterFacts before facts pages = .ok (onBook state book) := by
    rw [stateAfterFacts, folded]
  rw [deriveReaction, prospective, listedReaction]
  show (if _ then _ else _) = _
  simp only [on_book_suspension, on_book_terminal]
  split
  · rfl
  · rename_i running
    simp only [on_book_hot_complete, on_book_hot, Bool.not_true, Bool.false_eq_true, if_false, work_commands_listed state book orderly]
    exact note_optional_listed state book orderly

def issueAll (book : Book) : List Command → Book
  | [] => book
  | command :: rest => issueAll (enter book .commands (indexKey .commands command.commandId.text) (issuedValue command)) rest

def issuable (book : Book) : List Command → Bool
  | [] => true
  | command :: rest =>
    (entryOf book .commands (indexKey .commands command.commandId.text)).isNone &&
      decide ((book .commands).length < maxHotIndexValues) &&
      issuable (enter book .commands (indexKey .commands command.commandId.text) (issuedValue command)) rest

theorem insert_commands_listed (orderly : Orderly book) (fresh : issuable book commands = true) : Orderly (issueAll book commands) ∧
      ∃ mutations, insertCommands (onBook state book) commands pages = .ok ⟨onBook state (issueAll book commands), mutations⟩ := by
  induction commands generalizing book with
  | nil => exact ⟨orderly, [], rfl⟩
  | cons command rest ih =>
    simp only [issuable, Bool.and_eq_true, decide_eq_true_eq, Option.isNone_iff_eq_none] at fresh
    obtain ⟨⟨absent, room⟩, later⟩ := fresh
    obtain ⟨mutation, inserted⟩ := on_book_transition state book orderly absent room
    obtain ⟨orderly', mutations, others⟩ := ih _ (enter_orderly orderly _ _ room) later
    refine ⟨orderly', mutation :: mutations, ?_⟩
    rw [insertCommands, inserted]
    show (insertCommands _ rest pages >>= _) = _
    rw [others]
    rfl

theorem settle_command_listed (orderly : Orderly book) (actionId : ActionId) (settlement : Settlement) (entry : CommandIndexValue)
    (listed : entryOf book .commands (indexKey .commands settlement.commandId.text) = some (.command entry))
    (issued : entry.status = .issued) (action : entry.command.actionId = actionId)
    (named : entry.command.commandId = settlement.commandId) (room : (book .commands).length < maxHotIndexValues) :
    ∃ mutation, settleCommand (onBook state book) actionId pages settlement =
      .ok ⟨onBook state (enter book .commands (indexKey .commands settlement.commandId.text)
        (settledValue entry settlement.observation)), mutation⟩ := by
  have reads := on_book_reads state book orderly .commands
  refine ⟨preparedMutation ((onBook state book).indexes .commands) (entryOf book .commands)
    (indexKey .commands settlement.commandId.text) (some (settledValue entry settlement.observation)), ?_⟩
  have exact : exactIssued (some (.command entry)) actionId settlement.commandId = some entry := by
    simp [exactIssued, issued, action, named]
  have applied := apply_prepared _ _ reads.represents (indexKey .commands settlement.commandId.text)
  rw [listed] at applied
  rw [settleCommand]
  simp only [on_book_lookup state book orderly, listed, exact, prepare_complete _ _ reads.represents.root reads.exactly rfl,
    applied, on_book_write state book orderly _ _ room]

end Reaction

section Commit

variable [StimulusHashing]

def actionKey (stimulus : Stimulus) : Key := indexKey .actions stimulus.actionId.text

variable (state : RunState)

def actionEntry (stimulus : Stimulus) (outcome : Option TerminalOutcome) : IndexValue :=
  .action ⟨stimulus.actionId, (recordKindFor stimulus outcome).recordKind, incrementDecimalNatural state.lastSequence⟩

variable (book : Book)

-- The book after a semantic commit: the commands are issued, then the action is entered.
def committedBook (stimulus : Stimulus) (commands : List Command) (outcome : Option TerminalOutcome) : Book :=
  enter (issueAll book commands) .actions (actionKey stimulus) (actionEntry state stimulus outcome)

structure Enterable (book : Book) (stimulus : Stimulus) (commands : List Command) : Prop where
  fresh : issuable book commands = true
  absent : entryOf (issueAll book commands) .actions (actionKey stimulus) = none
  room : (issueAll book commands .actions).length < maxHotIndexValues

variable {commands : List Command} {facts : List DomainFact} {stimulus : Stimulus} {fact : DomainFact}

theorem transition_listed {state after : RunState} {book settledBook next : Book} {outcome : Option TerminalOutcome}
    {settlements mutations : List IndexMutation} (orderly : Orderly next)
    (settled : deriveSettlement (onBook state book) (semanticDraft (onBook state book) stimulus facts commands outcome) =
      .ok ⟨onBook state settledBook, settlements⟩)
    (folded : foldFacts (onBook state settledBook) facts stimulus.pages = .ok ⟨onBook after next, mutations⟩)
    (enterable : Enterable next stimulus (effectiveCommands commands outcome)) :
    ∃ all, deriveSemanticTransition (onBook state book) (semanticDraft (onBook state book) stimulus facts commands outcome) =
      .ok ⟨onBook after (committedBook state next stimulus (effectiveCommands commands outcome) outcome), all⟩ := by
  obtain ⟨issuedOrderly, issues, issued⟩ := insert_commands_listed after next orderly enterable.fresh
  obtain ⟨mutation, acted⟩ := on_book_transition after _ issuedOrderly enterable.absent enterable.room
  have kept : (if recordKindFor stimulus outcome = .outcomeCommitted then [] else effectiveCommands commands outcome) =
      effectiveCommands commands outcome := by
    split
    · rename_i terminal
      cases outcome with
      | none =>
        rw [recordKindFor] at terminal
        split at terminal <;> simp at terminal
      | some reached => rfl
    · rfl
  refine ⟨settlements ++ mutations ++ issues ++ [mutation], ?_⟩
  rw [deriveSemanticTransition, settled]
  show (foldFacts (onBook state settledBook) facts stimulus.pages >>= _) = _
  rw [folded]
  show (insertCommands (onBook after next)
    (if recordKindFor stimulus outcome = .outcomeCommitted then [] else effectiveCommands commands outcome) stimulus.pages >>= _) = _
  rw [kept, issued]
  show (transitionIndex _ .actions stimulus.actionId.text (actionEntry state stimulus outcome) stimulus.pages none >>= _) = _
  rw [acted]
  rfl

-- A semantic commit on listed states. The facts are folded twice: alone, to see whether they end the run and what
-- they ask for, and after the settlement, for the record.
theorem semantic_commits (state after : RunState) (book settledBook prospective next : Book)
    (facts : List DomainFact) (commands : List Command) (outcome : Option TerminalOutcome)
    (alone settlements mutations : List IndexMutation) (semantic : isLifecycleRequest stimulus = false)
    (prospectiveOrderly : Orderly prospective) (orderly : Orderly next)
    (admitted : dispatchAdmission (onBook state book) stimulus = .ok facts)
    (foldedAlone : foldFacts (onBook state book) facts stimulus.pages = .ok ⟨onBook after prospective, alone⟩)
    (proposed : determineTerminalOutcome (onBook after prospective) stimulus.pages = outcome)
    (reacted : commands = if outcome.isNone then listedReaction after prospective else [])
    (checked : commonChecks (onBook state book) stimulus facts commands = .ok ())
    (installed : ((settlementOf stimulus).any fun settlement => !settlementInstalled settlement) = false)
    (settled : deriveSettlement (onBook state book) (semanticDraft (onBook state book) stimulus facts commands outcome) =
      .ok ⟨onBook state settledBook, settlements⟩)
    (folded : foldFacts (onBook state settledBook) facts stimulus.pages = .ok ⟨onBook after next, mutations⟩)
    (enterable : Enterable next stimulus commands)
    (confirmed : determineTerminalOutcome (onBook after (committedBook state next stimulus commands outcome)) stimulus.pages = outcome) :
    Commits (onBook state book) stimulus
      (committedState (onBook after (committedBook state next stimulus commands outcome)) stimulus.actionId
        (incrementDecimalNatural state.lastSequence) outcome) := by
  have effective : effectiveCommands commands outcome = commands := by
    cases outcome with
    | none => rfl
    | some reached => rw [reacted]; rfl
  rw [← effective] at enterable
  obtain ⟨all, transition⟩ := transition_listed orderly settled folded enterable
  rw [effective] at transition
  have agree : outcomesAgree outcome (determineTerminalOutcome
      (onBook after (committedBook state next stimulus commands outcome)) stimulus.pages) = true := by
    rw [confirmed]
    cases outcome with
    | none => rfl
    | some reached => exact same_outcome_refl
  have active := dispatch_admission_active _ stimulus facts admitted
  obtain ⟨commit, assembled, folds, _⟩ :=
    assemble_semantic_folds (onBook state book) stimulus facts commands active installed transition agree
  rw [confirmed] at folds
  refine ⟨commit, ?_, folds⟩
  have seen : prospectiveFactsState (onBook state book) facts stimulus.pages = .ok (onBook after prospective) := by
    rw [prospectiveFactsState, foldedAlone]
  have outcomeSeen : prospectiveOutcome (onBook after prospective) stimulus = outcome := by
    rw [prospectiveOutcome, semantic]
    exact proposed
  have asked : reactionCommands (onBook state book) facts stimulus outcome = .ok commands := by
    rw [reactionCommands, semantic, derive_reaction_listed prospectiveOrderly foldedAlone, reacted]
    cases outcome with
    | none => rfl
    | some reached => rfl
  rw [prepare, admitted]
  show (prospectiveFactsState _ facts stimulus.pages >>= _) = _
  rw [seen]
  show (reactionCommands _ facts stimulus (prospectiveOutcome (onBook after prospective) stimulus) >>= _) = _
  rw [outcomeSeen, asked]
  show assemblePreparedCommit _ stimulus facts commands outcome = _
  rw [assemblePreparedCommit.eq_def, checked]
  cases stimulus with
  | operatorSuspendRequested request => cases semantic
  | operatorResumeRequested request => cases semantic
  | _ => exact assembled

variable (pages : List IndexPage)

theorem fold_facts_nil : foldFacts state [] pages = .ok ⟨state, []⟩ := rfl

theorem fold_facts_single {state after : RunState} {book next : Book} {pages : List IndexPage}
    (leads : Leads state book fact pages after next) :
    ∃ mutations, foldFacts (onBook state book) [fact] pages = .ok ⟨onBook after next, mutations⟩ := by
  obtain ⟨mutations, folded⟩ := leads
  refine ⟨mutations ++ [], ?_⟩
  rw [foldFacts, folded]
  rfl

variable {stimulus : Stimulus}

theorem unsettled_derives (commands : List Command) (outcome : Option TerminalOutcome) (request : settlementOf stimulus = none) :
    deriveSettlement (onBook state book) (semanticDraft (onBook state book) stimulus facts commands outcome) =
      .ok ⟨onBook state book, []⟩ := by
  rw [semanticDraft, recordKindFor, request]
  cases outcome <;> rfl

-- A stimulus that settles no command and ends no run.
theorem decision_commits {state after : RunState} {book next : Book} (semantic : isLifecycleRequest stimulus = false) (request : settlementOf stimulus = none)
    (admitted : dispatchAdmission (onBook state book) stimulus = .ok facts)
    (folded : ∃ mutations, foldFacts (onBook state book) facts stimulus.pages = .ok ⟨onBook after next, mutations⟩)
    (orderly : Orderly next) (quiet : ∀ book, determineTerminalOutcome (onBook after book) stimulus.pages = none)
    (reacted : commands = listedReaction after next)
    (checked : commonChecks (onBook state book) stimulus facts commands = .ok ())
    (enterable : Enterable next stimulus commands) :
    Commits (onBook state book) stimulus (onBook { after with lastSequence := incrementDecimalNatural state.lastSequence }
        (committedBook state next stimulus commands none)) := by
  obtain ⟨mutations, folded⟩ := folded
  exact semantic_commits state after book book next next facts commands none mutations [] mutations
    semantic orderly orderly admitted folded (quiet next) reacted checked (by rw [request]; rfl)
    (unsettled_derives state book _ none request) folded enterable (quiet _)

-- A decision record with one fact and no commands, whether or not admission would propose that fact.
theorem fact_record_folds (state after : RunState) (book next final : Book) (stimulus : Stimulus)
    (request : settlementOf stimulus = none) (active : state.terminal = none) (orderly : Orderly next)
    (leads : Leads state book fact stimulus.pages after next)
    (quiet : ∀ book, determineTerminalOutcome (onBook after book) stimulus.pages = none)
    (enterable : Enterable next stimulus []) (entered : committedBook state next stimulus [] none = final) :
    ∃ record, recordFacts record = [fact] ∧ fold (onBook state book) record =
      .ok (onBook { after with lastSequence := incrementDecimalNatural state.lastSequence } final) := by
  subst entered
  obtain ⟨mutations, folded⟩ := fold_facts_single leads
  obtain ⟨all, transition⟩ := transition_listed orderly (unsettled_derives state book [] none request) folded enterable
  have agree : outcomesAgree none (determineTerminalOutcome
      (onBook after (committedBook state next stimulus [] none)) stimulus.pages) = true := by
    rw [quiet]
    rfl
  obtain ⟨commit, assembled, folds, _⟩ :=
    assemble_semantic_folds (onBook state book) stimulus [fact] [] active (by simp [request]) transition agree
  rw [quiet] at folds
  refine ⟨commit.record, ?_, folds⟩
  rw [assembleSemantic, transition] at assembled
  simp only [request, Option.any_none, Bool.false_eq_true, if_false, quiet, recordKindFor, Option.isSome_none,
    Option.isNone_none, if_true, semanticRecord] at assembled
  obtain ⟨_, assembled⟩ := refused_ok assembled
  obtain ⟨_, assembled⟩ := refused_ok assembled
  cases assembled
  rfl

theorem universal_passes (orderly : Orderly book) (runId : RunId) (actionId : ActionId)
    {pages : List IndexPage} (run : runId = state.identity.runId) (active : state.terminal = none)
    (absent : entryOf book .actions (indexKey .actions actionId.text) = none) :
    universalRejection (onBook state book) runId actionId pages = .ok () := by
  simp only [universalRejection, on_book_identity, on_book_terminal, run, active, ne_eq, not_true_eq_false, if_false,
    Option.isSome_none, Bool.false_eq_true, on_book_lookup state book orderly, absent]

-- Without a planning gap and without attestations no outcome is eligible.
theorem no_outcome_unattested (noGap : state.planningGap = none)
    (unattested : state.finalAttestations = none) : determineTerminalOutcome state pages = none := by
  have stopped : planningStopEligible state = none := by
    rw [planningStopEligible, noGap]
    simp
  have incomplete : taskComplete state = none := by
    rw [taskComplete, unattested]
    cases state.currentPlan <;> cases state.currentCandidate <;> cases state.currentPublication <;> rfl
  simp only [determineTerminalOutcome, eligibleOutcomeForState, stopped, incomplete]

theorem no_outcome_unaccepted (noGap : state.planningGap = none)
    (waiting : equal (state.counters .declaredWork) (state.counters .acceptedWork) = false) :
    determineTerminalOutcome state pages = none := by
  have stopped : planningStopEligible state = none := by
    rw [planningStopEligible, noGap]
    simp
  have unfinished : (t1Checks state pages).all = false := by
    simp [T1Checks.all, t1Checks, c6AcceptedWorkRetained, waiting]
  simp only [determineTerminalOutcome, eligibleOutcomeForState, stopped, unfinished]
  cases taskComplete state <;> rfl

theorem lifecycle_action_listed (orderly : Orderly book)
    {kind : ActionRecordKind} (absent : entryOf book .actions (actionKey stimulus) = none)
    (room : (book .actions).length < maxHotIndexValues) :
    ∃ mutation, lifecycleAction (onBook state book) stimulus kind = .ok ⟨onBook state (enter book .actions (actionKey stimulus)
        (.action ⟨stimulus.actionId, kind, incrementDecimalNatural state.lastSequence⟩)), mutation⟩ := by
  obtain ⟨mutation, inserted⟩ := on_book_transition state book orderly absent room
  refine ⟨mutation, ?_⟩
  rw [lifecycleAction, deriveActionTransition, insertAction]
  exact inserted.symm ▸ rfl

theorem lifecycle_checked (run : stimulus.runId = state.identity.runId) (short : stimulus.pages.length ≤ maxProofPagesPerCommit) :
    commonChecks (onBook state book) stimulus [] [] = .ok () := by
  simp [commonChecks, run, Nat.not_lt.mpr short, maxFactsPerCommit, maxCommandsPerCommit]

theorem suspension_commits (orderly : Orderly book) (request : OperatorSuspendRequested)
    (run : request.runId = state.identity.runId) (active : state.terminal = none) (running : state.suspension = .active)
    (short : request.pages.length ≤ maxProofPagesPerCommit)
    (absent : entryOf book .actions (actionKey (.operatorSuspendRequested request)) = none)
    (room : (book .actions).length < maxHotIndexValues) :
    Commits (onBook state book) (.operatorSuspendRequested request)
      (onBook (suspendedState state state request) (enter book .actions (actionKey (.operatorSuspendRequested request))
        (.action ⟨request.actionId, .runSuspended, incrementDecimalNatural state.lastSequence⟩))) := by
  obtain ⟨mutation, inserted⟩ := lifecycle_action_listed state book orderly absent room
  obtain ⟨commit, assembled, folds, _⟩ := suspension_folds (onBook state book) request _ active running inserted
  refine ⟨commit, ?_, folds⟩
  have admitted : admitOperatorSuspend (onBook state book) request = .ok [] := by
    rw [admitOperatorSuspend, universal_passes state book orderly request.runId request.actionId run active absent]
    simp only [on_book_suspension, running]
    rfl
  show (admitOperatorSuspend _ request >>= _) = _
  rw [admitted]
  show (commonChecks _ _ [] [] >>= _) = _
  exact bind_eq_ok (lifecycle_checked state book run short) assembled

theorem resumption_commits (orderly : Orderly book) {request : OperatorResumeRequested}
    {suspension : Suspended} (run : request.runId = state.identity.runId) (active : state.terminal = none)
    (stopped : state.suspension = .suspended suspension) (operator : request.operatorRequestId = suspension.operatorRequestId)
    (sequence : request.resumeFromSequence = suspension.sequence) (short : request.pages.length ≤ maxProofPagesPerCommit)
    (absent : entryOf book .actions (actionKey (.operatorResumeRequested request)) = none)
    (room : (book .actions).length < maxHotIndexValues) :
    Commits (onBook state book) (.operatorResumeRequested request)
      (onBook (resumedState state state) (enter book .actions (actionKey (.operatorResumeRequested request))
        (.action ⟨request.actionId, .runResumed, incrementDecimalNatural state.lastSequence⟩))) := by
  obtain ⟨mutation, inserted⟩ := lifecycle_action_listed state book orderly absent room
  obtain ⟨commit, assembled, folds, _⟩ :=
    resumption_folds (onBook state book) request _ suspension active stopped operator sequence inserted
  refine ⟨commit, ?_, folds⟩
  have admitted : admitOperatorResume (onBook state book) request = .ok [] := by
    rw [admitOperatorResume, universal_passes state book orderly request.runId request.actionId run active absent]
    simp only [on_book_suspension, stopped, operator, sequence, and_self, if_true]
    rfl
  show (admitOperatorResume _ request >>= _) = _
  rw [admitted]
  show (commonChecks _ _ [] [] >>= _) = _
  exact bind_eq_ok (lifecycle_checked state book run short) assembled

end Commit

end PiAutopilot.Authority
