import PiAutopilot.Authority.Committed

set_option autoImplicit false

namespace PiAutopilot.Authority

open Lib Protocol

section ReplayCommit

variable [StimulusHashing]

theorem transition_complete {state : RunState} {contents : Contents} (reads : Reads state contents) {name : IndexName}
    {identity : JsString} (next : IndexValue) {pages : List IndexPage} (complete : (state.indexes name).hotComplete = true)
    (absent : contents name (indexKey name identity) = none) :
    ∃ mutation, transitionIndex state name identity next pages none = .ok ⟨insertAt state contents name identity next, mutation⟩ := by
  have holds := reads name
  have applied := apply_prepared _ _ holds.represents (indexKey name identity) (some next)
  rw [absent] at applied
  refine ⟨preparedMutation (state.indexes name) (contents name) (indexKey name identity) (some next), ?_⟩
  rw [transitionIndex]
  simp only [lookup_complete _ _ holds.represents.root holds.exactly complete, absent, Option.map_none, ne_eq,
    not_true_eq_false, if_false, prepare_complete _ _ holds.represents.root holds.exactly complete, applied]
  rfl

-- A completed replay carries no facts: in a state that wants nothing new it only enters its own action.
theorem replay_commits (state : RunState) (contents : Contents) (reads : Reads state contents) (stimulus : RunReplayCompleted)
    (run : stimulus.runId = state.identity.runId) (live : state.terminal = none)
    (complete : (state.indexes .actions).hotComplete = true)
    (absent : contents .actions (indexKey .actions stimulus.actionId.text) = none)
    (short : stimulus.pages.length ≤ maxProofPagesPerCommit) (sequence : stimulus.lastSequence = state.lastSequence)
    (digest : stimulus.stateDigest = stateDigest state)
    (quiet : ∀ indexes, determineTerminalOutcome { state with indexes := indexes } stimulus.pages = none)
    (content : deriveReaction state [] stimulus.pages = .ok []) :
    Commits state (.runReplayCompleted stimulus) { insertAt state contents .actions stimulus.actionId.text
          (actionValue stimulus.actionId .decisionCommitted (incrementDecimalNatural state.lastSequence)) with
        lastSequence := incrementDecimalNatural state.lastSequence } := by
  generalize isEntry : actionValue stimulus.actionId .decisionCommitted (incrementDecimalNatural state.lastSequence) = entry
  obtain ⟨mutation, acted⟩ := transition_complete reads entry complete absent
  have transition : deriveSemanticTransition state (semanticDraft state (.runReplayCompleted stimulus) [] [] none) =
      .ok ⟨insertAt state contents .actions stimulus.actionId.text entry, [mutation]⟩ := by
    rw [← isEntry] at acted ⊢
    change (transitionIndex state .actions stimulus.actionId.text
      (actionValue stimulus.actionId .decisionCommitted (incrementDecimalNatural state.lastSequence)) stimulus.pages none >>= _) = _
    rw [acted]
    rfl
  have ended : determineTerminalOutcome (insertAt state contents .actions stimulus.actionId.text entry)
      (Stimulus.runReplayCompleted stimulus).pages = none := quiet _
  obtain ⟨commit, assembled, folds, _⟩ := assemble_semantic_folds state (.runReplayCompleted stimulus) [] [] live rfl
    transition (by rw [ended]; rfl)
  rw [ended] at folds
  refine ⟨commit, ?_, folds⟩
  have passed : universalRejection state stimulus.runId stimulus.actionId stimulus.pages = .ok () := by
    rw [universalRejection, if_neg (not_not.mpr run), live, lookup_complete _ _ (reads .actions).represents.root
      (reads .actions).exactly complete, absent]
    rfl
  have admitted : dispatchAdmission state (.runReplayCompleted stimulus) = .ok [] := by
    change (universalRejection state stimulus.runId stimulus.actionId stimulus.pages >>= _) = _
    rw [passed]
    exact if_pos ⟨sequence, digest⟩
  have checked : commonChecks state (.runReplayCompleted stimulus) [] [] = .ok () := by
    simp [commonChecks, Stimulus.runId, run, Stimulus.pages, Nat.not_lt.mpr short, maxFactsPerCommit, maxCommandsPerCommit]
  have nothing : prospectiveOutcome state (.runReplayCompleted stimulus) = none := quiet state.indexes
  have reacted : reactionCommands state [] (.runReplayCompleted stimulus) none = .ok [] := content
  rw [prepare, admitted]
  change (reactionCommands state [] (.runReplayCompleted stimulus) (prospectiveOutcome state (.runReplayCompleted stimulus)) >>= _) = _
  rw [nothing, reacted]
  change assemblePreparedCommit state (.runReplayCompleted stimulus) [] [] none = _
  rw [assemblePreparedCommit.eq_def, checked]
  exact assembled

end ReplayCommit

end PiAutopilot.Authority
