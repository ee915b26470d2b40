import PiAutopilot.Authority.SampleRun

set_option autoImplicit false

namespace PiAutopilot.Authority

open Lib Protocol

def PlanningGapFinding.stop (gap : PlanningGapFinding) : PlanningStop :=
  ⟨gap.explanation, gap.reason, gap.sourceAnchors, gap.sourceEvidence⟩

-- The gap a fact records, if it accepts one.
def acceptedGap : FactBody → Option PlanningGapFinding
  | .findingAccepted (.nonblocking (.planningGap gap)) => some gap
  | _ => none

structure SameGap (before after : RunState) : Prop where
  gap : after.planningGap = before.planningGap
  terminal : after.terminal = before.terminal

theorem same_gap_trans {before middle after : RunState} (first : SameGap before middle) (second : SameGap middle after) :
    SameGap before after :=
  ⟨second.gap.trans first.gap, second.terminal.trans first.terminal⟩

def KeepsGap (state : RunState) (transition : Transition) : Prop :=
  SucceedsOnly (fun progress => SameGap state progress.state) transition

variable {state : RunState}

theorem keeps_gap_ok {progress : Progress} (same : SameGap state progress.state) : KeepsGap state (.ok progress) :=
  (succeeds_only_ok).mpr same

variable {code : String} {diagnostic : JsString}

@[simp] theorem keeps_gap_rejected : KeepsGap state (rejected state code diagnostic) :=
  succeeds_only_error

theorem guarded_keeps_gap {guard : Prop} [Decidable guard] {transition : Transition} (keeps : KeepsGap state transition) :
    KeepsGap state (if guard then rejected state code diagnostic else transition) := by
  split
  · exact keeps_gap_rejected
  · exact keeps

section PlanningGap

variable [Hashing]
  {state : RunState} {context : TransitionContext} {name : IndexName} {identity : JsString} {deriveNext : Option IndexValue → NextValue}

theorem mutate_indexes :
    SucceedsOnly (fun progress => ∃ index, progress.state = { state with indexes := replaceIndex state.indexes name index })
      (mutate state context name identity deriveNext) := by
  rw [mutate]
  dsimp only
  split
  · exact succeeds_only_error
  · split
    · exact succeeds_only_error
    · split
      · exact succeeds_only_error
      · split
        · exact succeeds_only_error
        · split
          · exact succeeds_only_error
          · exact (succeeds_only_ok).mpr ⟨_, rfl⟩

theorem mutate_keeps_gap : KeepsGap state (mutate state context name identity deriveNext) := by
  intro progress mutated
  obtain ⟨index, written⟩ := mutate_indexes progress mutated
  rw [written]
  exact ⟨rfl, rfl⟩

-- A write followed by a change of the state that leaves the gap alone.
theorem changed_keeps_gap {change : RunState → RunState} (unchanged : ∀ before, SameGap before (change before)) :
    KeepsGap state ((mutate state context name identity deriveNext).map (onState change)) := by
  refine (succeeds_only_map).mpr ?_
  intro progress mutated
  exact same_gap_trans (mutate_keeps_gap progress mutated) (unchanged progress.state)

variable (state : RunState) {context : TransitionContext} {runId : RunId}

omit [Hashing] in
theorem atom_inventory_sealed_keeps_gap {fact : AtomInventorySealed} : KeepsGap state (applyAtomInventorySealed state fact context) := by
  rw [applyAtomInventorySealed]
  split
  · simp
  · split
    · simp
    · exact keeps_gap_ok ⟨rfl, rfl⟩

theorem atom_dispositioned_keeps_gap {disposition : AtomDisposition} :
    KeepsGap state (applyAtomDispositioned state disposition context) := by
  rw [applyAtomDispositioned]
  split
  · simp
  · split
    · simp
    · split
      · simp
      · split
        · simp
        · split
          · simp
          · refine succeeds_only_bind (fun _ _ => trivial) fun _ _ => ?_
            exact changed_keeps_gap fun _ => ⟨rfl, rfl⟩
    · simp

theorem dependency_declared_keeps_gap {fact : DependencyDeclared} : KeepsGap state (applyDependencyDeclared state runId fact context) := by
  rw [applyDependencyDeclared]
  split
  · simp
  · split
    · split
      · simp
      · split
        · simp
        · split
          · simp
          · simp
          · exact mutate_keeps_gap
    · simp
    · simp

theorem work_output_accepted_keeps_gap {fact : WorkOutputAccepted} : KeepsGap state (applyWorkOutputAccepted state runId fact context) := by
  rw [applyWorkOutputAccepted]
  split
  · simp
  · refine succeeds_only_bind (mutate_keeps_gap) fun work kept => ?_
    intro progress submitted
    obtain ⟨moved, mutated, rfl⟩ := map_ok submitted
    have submitted := mutate_keeps_gap moved mutated
    exact ⟨submitted.gap.trans kept.gap, submitted.terminal.trans kept.terminal⟩

theorem plan_root_accepted_keeps_gap {fact : PlanRootAccepted} : KeepsGap state (applyPlanRootAccepted state runId fact context) := by
  rw [applyPlanRootAccepted]
  split
  · simp
  · split
    · exact changed_keeps_gap fun _ => ⟨rfl, rfl⟩
    · simp
    · simp

theorem plan_root_superseded_keeps_gap {fact : PlanRootSuperseded} : KeepsGap state (applyPlanRootSuperseded state fact context) := by
  rw [applyPlanRootSuperseded]
  split
  · simp
  · split
    · simp
    · split
      · simp
      · exact changed_keeps_gap fun _ => ⟨rfl, rfl⟩
    · simp

variable {finding : Finding} {progress : Progress} {fact : DomainFact} {facts : List DomainFact} {pages : List IndexPage}
  {gap : PlanningGapFinding}

theorem declare_correction_keeps_gap {correction : CorrectionAssignment} : KeepsGap state (declareCorrection state correction finding context) := by
  rw [declareCorrection]
  split
  · simp
  · split
    · simp
    · split
      · simp
      · split
        · simp
        · exact changed_keeps_gap fun _ => ⟨rfl, rfl⟩
        · simp

theorem record_finding_keeps_gap {correctionWorkItemId : Option WorkItemId}
    (other : finding.kind ≠ .planningGap) : KeepsGap progress.state (recordFinding finding correctionWorkItemId progress) := by
  refine changed_keeps_gap fun before => ?_
  cases finding with
  | planningGap gap => exact absurd rfl other
  | integrity body | definitionOfDone body | advisory body => exact ⟨rfl, rfl⟩

theorem finding_accepted_keeps_gap {acceptance : AcceptedFinding}
    (other : acceptedGap (.findingAccepted acceptance) = none) : KeepsGap state (applyFindingAccepted state acceptance context) := by
  refine guarded_keeps_gap (succeeds_only_bind (fun _ _ => trivial) fun _ _ => ?_)
  cases acceptance with
  | blockingWithCorrection correction finding =>
    show KeepsGap state (ite _ _ _)
    split
    · rename_i blocking
      refine succeeds_only_bind (declare_correction_keeps_gap state) fun corrected kept => ?_
      intro progress noted
      refine same_gap_trans kept (record_finding_keeps_gap ?_ progress noted)
      intro gap
      rw [gap] at blocking
      cases blocking
    · exact keeps_gap_rejected
  | nonblocking finding =>
    show KeepsGap state (ite _ _ _)
    split
    · exact keeps_gap_rejected
    · refine record_finding_keeps_gap ?_
      intro gap
      cases finding with
      | planningGap body => cases other
      | integrity body | definitionOfDone body | advisory body => cases gap

theorem finding_cleared_keeps_gap {fact : FindingCleared} : KeepsGap state (applyFindingCleared state fact context) := by
  refine succeeds_only_bind (mutate_keeps_gap) fun transition kept => ?_
  split
  · split
    · exact keeps_gap_ok kept
    · split
      · exact keeps_gap_rejected
      · rename_i decremented lowered
        obtain ⟨next, _, rfl⟩ := Option.map_eq_some_iff.mp lowered
        exact keeps_gap_ok (same_gap_trans kept ⟨rfl, rfl⟩)
  · exact keeps_gap_rejected

theorem publication_observed_keeps_gap {fact : PublicationObserved} : KeepsGap state (applyPublicationObserved state fact context) := by
  rw [applyPublicationObserved]
  split
  · split
    · simp
    · split
      · simp
      · split
        · simp
        · exact changed_keeps_gap fun _ => ⟨rfl, rfl⟩
  · simp

theorem semantic_fact_keeps_gap (other : acceptedGap fact.body = none) : KeepsGap state (applySemanticFact state fact context) := by
  obtain ⟨runId, body⟩ := fact
  refine guarded_keeps_gap ?_
  cases body with
  | requirementsBound body => exact guarded_keeps_gap (keeps_gap_ok ⟨rfl, rfl⟩)
  | atomDeclared atom => exact guarded_keeps_gap (changed_keeps_gap fun _ => ⟨rfl, rfl⟩)
  | atomInventorySealed body => exact atom_inventory_sealed_keeps_gap state
  | atomDispositioned disposition => exact atom_dispositioned_keeps_gap state
  | workDeclared workItem =>
    exact guarded_keeps_gap (guarded_keeps_gap (changed_keeps_gap fun _ => ⟨rfl, rfl⟩))
  | dependencyDeclared body => exact dependency_declared_keeps_gap state
  | workOutputAccepted body => exact work_output_accepted_keeps_gap state
  | planRootAccepted body => exact plan_root_accepted_keeps_gap state
  | planRootSuperseded body => exact plan_root_superseded_keeps_gap state
  | findingAccepted acceptance => exact finding_accepted_keeps_gap state other
  | findingCleared body => exact finding_cleared_keeps_gap state
  | evidenceObserved evidence =>
    exact guarded_keeps_gap (guarded_keeps_gap (changed_keeps_gap fun _ => ⟨rfl, rfl⟩))
  | routeVerificationObserved body =>
    show KeepsGap state (applyRouteVerificationObserved state body context)
    rw [applyRouteVerificationObserved]
    split
    · exact keeps_gap_ok ⟨rfl, rfl⟩
    · simp
  | candidateAccepted body => exact guarded_keeps_gap (changed_keeps_gap fun _ => ⟨rfl, rfl⟩)
  | publicationIntended body => exact guarded_keeps_gap (changed_keeps_gap fun _ => ⟨rfl, rfl⟩)
  | publicationObserved body => exact publication_observed_keeps_gap state
  | finalAttestationsRecorded body =>
    exact guarded_keeps_gap (guarded_keeps_gap (keeps_gap_ok ⟨rfl, rfl⟩))

theorem fold_facts_keeps_gap (other : ∀ fact ∈ facts, acceptedGap fact.body = none) :
    SucceedsOnly (fun derived : DerivedTransition => SameGap state derived.state) (foldFacts state facts pages) := by
  induction facts generalizing state with
  | nil => exact (succeeds_only_ok).mpr ⟨rfl, rfl⟩
  | cons fact rest ih =>
    rw [foldFacts]
    split
    · exact succeeds_only_error
    · rename_i applied folded
      obtain ⟨progress, semantic, returned⟩ := bind_ok folded
      cases returned
      have kept := semantic_fact_keeps_gap state (other fact (by simp)) progress semantic
      refine succeeds_only_bind (ih progress.state fun later member => other later (by simp [member])) fun after same => ?_
      exact (succeeds_only_ok).mpr (same_gap_trans kept same)

-- A recorded gap stops the run: nothing else is needed for a T2 outcome.
structure Stopped (gap : PlanningGapFinding) (state : RunState) : Prop where
  recorded : state.planningGap = some gap
  planning : state.phase = .planning
  noPlan : state.currentPlan = none
  complete : (state.indexes .commands).hotComplete = true
  settled : ∀ entry ∈ (state.indexes .commands).hot, issuedCommand entry.2 = false

omit [Hashing] in
theorem settled_of_not_issued {value : IndexValue} (quiet : issuedCommand value = false) : settledCommand value = true := by
  cases value with
  | command entry =>
    cases status : entry.status with
    | issued => simp [issuedCommand, status] at quiet
    | settled => simp [settledCommand, status]
  | _ => rfl

theorem stopped_outcome {state : RunState} (stopped : Stopped gap state) :
    determineTerminalOutcome state pages = some (.t2 gap.stop) := by
  have eligible : planningStopEligible state = some gap := by
    rw [planningStopEligible, if_pos, stopped.recorded]
    refine ⟨stopped.planning, stopped.complete, List.all_eq_true.mpr ?_⟩
    intro entry listed
    exact settled_of_not_issued (stopped.settled entry listed)
  rw [determineTerminalOutcome, eligibleOutcomeForState, eligible]
  rfl

theorem no_gap_no_stop {state : RunState} (noGap : state.planningGap = none) {stop : PlanningStop} :
    determineTerminalOutcome state pages ≠ some (.t2 stop) := by
  have eligible : planningStopEligible state = none := by
    rw [planningStopEligible, noGap]
    split <;> rfl
  rw [determineTerminalOutcome, eligibleOutcomeForState, eligible]
  cases taskComplete state with
  | none => simp
  | some outcome =>
    cases (t1Checks state pages).all with
    | false => simp
    | true => simp

theorem finding_accepted_stops {state : RunState} {context : TransitionContext}
    (applied : applyFindingAccepted state (.nonblocking (.planningGap gap)) context = .ok progress) :
    Stopped gap progress.state := by
  obtain ⟨_, applied⟩ := refused_ok applied
  obtain ⟨_, checked, noted⟩ := bind_ok applied
  obtain ⟨moved, mutated, rfl⟩ := map_ok noted
  obtain ⟨index, written⟩ := mutate_indexes moved mutated
  replace checked : checkPlanningGap state context.pages gap = .ok () := checked
  obtain ⟨early, checked⟩ := refused_ok checked
  simp only [not_or, not_not, Bool.not_eq_true, Option.isSome_eq_false_iff, Option.isNone_iff_eq_none] at early
  obtain ⟨quiet, checked⟩ := refused_ok checked
  simp only [not_or, Bool.not_eq_true, Bool.not_eq_false', List.any_eq_false] at quiet
  refine ⟨rfl, ?_, ?_, ?_, ?_⟩
  · show moved.state.phase = _
    rw [written]
    exact early.1
  · show moved.state.currentPlan = _
    rw [written]
    exact early.2.1
  · show (moved.state.indexes .commands).hotComplete = true
    rw [written]
    exact quiet.1
  · show ∀ entry ∈ (moved.state.indexes .commands).hot, _
    rw [written]
    exact quiet.2

omit [Hashing] in
theorem accepted_gap_some {body : FactBody} (accepts : acceptedGap body = some gap) :
    body = .findingAccepted (.nonblocking (.planningGap gap)) := by
  rw [acceptedGap.eq_def] at accepts
  split at accepts
  · cases accepts
    rfl
  · cases accepts

theorem gap_fact_stops {state : RunState} {derived : DerivedTransition} (accepts : acceptedGap fact.body = some gap)
    (folded : foldFacts state [fact] pages = .ok derived) : Stopped gap derived.state := by
  rw [foldFacts] at folded
  split at folded
  · cases folded
  · rename_i applied foldedFact
    cases folded
    obtain ⟨progress, semantic, returned⟩ := bind_ok foldedFact
    cases returned
    obtain ⟨_, semantic⟩ := refused_ok semantic
    rw [accepted_gap_some accepts] at semantic
    exact finding_accepted_stops semantic

theorem gap_matches_no_command (command : Command) (gap : PlanningGapFinding) :
    commandPayloadMatches command (.validationFinding (.planningGap gap)) = false := by
  obtain ⟨actionId, commandId, runId, body⟩ := command
  cases body <;> rfl

-- Only a submission can carry a planning gap, and then it is the only fact: the moved head and the conflict of an
-- observation are blocking findings, and a validation finding that is a planning gap matches no command.
theorem correction_fact_gap {state : RunState} {actionId : ActionId} (other : finding.kind ≠ .planningGap) (corrected : correctionFact state actionId pages finding = .ok fact) :
    acceptedGap fact.body = none := by
  have blocking (body : BlockingFinding) (corrects : blockingCorrection state actionId pages finding body = .ok fact) :
      acceptedGap fact.body = none := by
    rw [blockingCorrection] at corrects
    split at corrects
    · cases corrects
    · dsimp only at corrects
      split at corrects
      · cases corrects
      · cases corrects
        rfl
      · cases corrects
  cases finding with
  | planningGap gap => exact absurd rfl other
  | advisory body =>
    cases corrected
    rfl
  | integrity body => exact blocking body corrected
  | definitionOfDone body => exact blocking body corrected

theorem observation_facts_gap {state : RunState} {stimulus : CommandObservationReceived}
    (admitted : admitCommandObservation state stimulus = .ok facts) : ∀ fact ∈ facts, acceptedGap fact.body = none := by
  obtain ⟨_, _, admitted⟩ := bind_ok admitted
  obtain ⟨command, _, admitted⟩ := bind_ok admitted
  obtain ⟨matched, admitted⟩ := required_ok admitted
  rw [observationFacts.eq_def] at admitted
  split at admitted
  · cases admitted
    simp [acceptedGap]
  · cases admitted
    simp [acceptedGap]
  · rename_i finding payload
    obtain ⟨correction, corrected, returned⟩ := bind_ok admitted
    cases returned
    have other : finding.kind ≠ .planningGap := by
      intro isGap
      cases finding with
      | planningGap gap =>
        rw [payload, gap_matches_no_command] at matched
        cases matched
      | integrity body | definitionOfDone body | advisory body => cases isGap
    simpa using correction_fact_gap other corrected
  · obtain ⟨_, admitted⟩ := refused_ok admitted
    cases admitted
    simp [acceptedGap]
  · obtain ⟨correction, corrected, returned⟩ := bind_ok admitted
    cases returned
    simpa using correction_fact_gap (by simp [conflictFinding, Finding.kind]) corrected
  · rw [publicationFacts] at admitted
    obtain ⟨_, admitted⟩ := refused_ok admitted
    split at admitted
    · cases admitted
      simp [acceptedGap]
    · split at admitted
      · obtain ⟨correction, corrected, returned⟩ := bind_ok admitted
        cases returned
        simpa [acceptedGap] using correction_fact_gap (by simp [movedHeadFinding, Finding.kind]) corrected
      · cases admitted
  · cases admitted
    simp

end PlanningGap

section GapRun

variable [StimulusHashing] (state : RunState)
  {facts : List DomainFact} {stimulus : Stimulus} {commands : List Command} {draft : SemanticDraft}
  {derived : DerivedTransition} {prospective : RunState} {sequence : DecimalNatural}

theorem admitted_gap_alone (admitted : dispatchAdmission state stimulus = .ok facts) :
    (∀ fact ∈ facts, acceptedGap fact.body = none) ∨ settlementOf stimulus = none ∧ ∃ fact, facts = [fact] := by
  cases stimulus with
  | commandObservationReceived observation => exact Or.inl (observation_facts_gap admitted)
  | boundaryRequestReceived request =>
    obtain ⟨_, _, requested⟩ := bind_ok admitted
    cases requested
    exact Or.inr ⟨rfl, _, rfl⟩
  | submissionReady submission =>
    obtain ⟨_, _, submitted⟩ := bind_ok admitted
    obtain ⟨_, _, submitted⟩ := bind_ok submitted
    obtain ⟨fact, _, returned⟩ := bind_ok submitted
    cases returned
    exact Or.inr ⟨rfl, fact, rfl⟩
  | runReplayCompleted replay =>
    obtain ⟨_, _, replayed⟩ := bind_ok admitted
    obtain ⟨_, replayed⟩ := required_ok replayed
    cases replayed
    simp
  | operatorSuspendRequested request =>
    obtain ⟨empty, _⟩ := admit_suspend_running state admitted
    exact Or.inl (by simp [empty])
  | operatorResumeRequested request =>
    obtain ⟨empty, _⟩ := admit_resume_binds state admitted
    exact Or.inl (by simp [empty])

variable {pages : List IndexPage}

theorem transition_index_state {name : IndexName} {identity : JsString} {next : IndexValue} {expected : Option IndexValueKind} :
    SucceedsOnly (fun moved : IndexTransition =>
        ∃ index, moved.state = { state with indexes := replaceIndex state.indexes name index })
      (transitionIndex state name identity next pages expected) := by
  rw [transitionIndex]
  split
  · simp
  · split
    · simp
    · split
      · simp
      · split
        · simp
        · exact (succeeds_only_ok).mpr ⟨_, rfl⟩

theorem insert_commands_keeps_gap :
    SucceedsOnly (fun derived : DerivedTransition => SameGap state derived.state) (insertCommands state commands pages) := by
  induction commands generalizing state with
  | nil => exact (succeeds_only_ok).mpr ⟨rfl, rfl⟩
  | cons command rest ih =>
    refine succeeds_only_bind (transition_index_state state) fun inserted ⟨index, written⟩ => ?_
    refine succeeds_only_bind (ih inserted.state) fun after same => (succeeds_only_ok).mpr ?_
    rw [written] at same
    exact ⟨same.gap, same.terminal⟩

theorem settle_command_keeps_gap {actionId : ActionId} {settlement : Settlement} :
    SucceedsOnly (fun moved : IndexTransition => SameGap state moved.state) (settleCommand state actionId pages settlement) := by
  rw [settleCommand]
  split
  · simp
  · split
    · simp
    · split
      · simp
      · split
        · simp
        · exact (succeeds_only_ok).mpr ⟨rfl, rfl⟩

theorem derive_settlement_keeps_gap :
    SucceedsOnly (fun derived : DerivedTransition => SameGap state derived.state) (deriveSettlement state draft) := by
  rw [deriveSettlement]
  split
  · simp
  · refine succeeds_only_bind (settle_command_keeps_gap state) fun moved same => ?_
    exact (succeeds_only_ok).mpr same
  · simp
  · exact (succeeds_only_ok).mpr ⟨rfl, rfl⟩

theorem semantic_keeps_gap (other : ∀ fact ∈ draft.facts, acceptedGap fact.body = none) :
    SucceedsOnly (fun derived : DerivedTransition => SameGap state derived.state) (deriveSemanticTransition state draft) := by
  refine succeeds_only_bind (derive_settlement_keeps_gap state) fun settled settledGap => ?_
  refine succeeds_only_bind (fold_facts_keeps_gap settled.state other) fun folded foldedGap => ?_
  refine succeeds_only_bind (insert_commands_keeps_gap folded.state) fun issued issuedGap => ?_
  refine succeeds_only_bind (transition_index_state issued.state) fun action ⟨index, written⟩ => ?_
  refine (succeeds_only_ok).mpr ?_
  rw [written]
  exact same_gap_trans (same_gap_trans settledGap foldedGap) (same_gap_trans issuedGap ⟨rfl, rfl⟩)

-- With the outcome foreseen no command is issued, so what the facts left stays as it is up to the action itself.
theorem semantic_stops {fact : DomainFact} {gap : PlanningGapFinding}
    (unsettling : settlementOf stimulus = none) (accepts : acceptedGap fact.body = some gap)
    (folded : prospectiveFactsState state [fact] stimulus.pages = .ok prospective)
    (transition : deriveSemanticTransition state
      (semanticDraft state stimulus [fact] commands (determineTerminalOutcome prospective stimulus.pages)) = .ok derived) :
    Stopped gap derived.state := by
  rw [prospectiveFactsState] at folded
  split at folded
  · cases folded
  · rename_i facts foldedFacts
    cases folded
    have stopped := gap_fact_stops accepts foldedFacts
    rw [stopped_outcome stopped] at transition
    obtain ⟨settled, settling, transition⟩ := bind_ok transition
    obtain ⟨again, foldedAgain, transition⟩ := bind_ok transition
    obtain ⟨issued, issuing, transition⟩ := bind_ok transition
    obtain ⟨action, acting, returned⟩ := bind_ok transition
    cases returned
    simp only [deriveSettlement, semanticDraft, recordKindFor, unsettling] at settling
    cases settling
    replace foldedAgain : foldFacts state [fact] stimulus.pages = .ok again := foldedAgain
    rw [foldedFacts] at foldedAgain
    cases foldedAgain
    have dropped : issued = ⟨facts.state, []⟩ := by
      simpa [semanticDraft, effectiveCommands, insertCommands, eq_comm] using issuing
    cases dropped
    obtain ⟨index, written⟩ := transition_index_state _ action acting
    refine ⟨?_, ?_, ?_, ?_, ?_⟩
    · rw [written]
      exact stopped.recorded
    · rw [written]
      exact stopped.planning
    · rw [written]
      exact stopped.noPlan
    · rw [written]
      exact stopped.complete
    · rw [written]
      exact stopped.settled

-- A gap and a T2 outcome come together or not at all.
structure GapEnds (state : RunState) : Prop where
  ended : ∀ gap, state.planningGap = some gap →
    state.phase = .planning ∧ state.currentPlan = none ∧ ∃ terminal, state.terminal = some terminal ∧ terminal.outcome = .t2 gap.stop
  built : ∀ terminal stop, state.terminal = some terminal → terminal.outcome = .t2 stop → state.planningGap ≠ none

omit [StimulusHashing] in
theorem gap_ends_live {state : RunState} (ends : GapEnds state) (live : state.terminal = none) : state.planningGap = none := by
  cases gap : state.planningGap with
  | none => rfl
  | some recorded =>
    obtain ⟨_, _, terminal, ended, _⟩ := ends.ended recorded gap
    rw [live] at ended
    cases ended

omit [StimulusHashing] in
theorem no_gap_ends {state : RunState} (noGap : state.planningGap = none)
    (noStop : ∀ terminal stop, state.terminal = some terminal → terminal.outcome ≠ .t2 stop) : GapEnds state where
  ended gap recorded := by
    rw [noGap] at recorded
    cases recorded
  built terminal stop ended isStop := absurd isStop (noStop terminal stop ended)

variable {before : RunState} {stimulus : Stimulus}

theorem lifecycle_gap_ends {kind : ActionRecordKind} {action : IndexTransition}
    {suspension : SuspensionState} (noGap : before.planningGap = none) (live : before.terminal = none)
    (inserted : lifecycleAction before stimulus kind = .ok action) :
    GapEnds { action.state with suspension := suspension, lastSequence := sequence } := by
  obtain ⟨index, written⟩ := transition_index_state _ action (lifecycle_action_ok before stimulus kind action inserted)
  refine no_gap_ends ?_ fun terminal stop ended => ?_
  · show action.state.planningGap = none
    rw [written]
    exact noGap
  · rw [show action.state.terminal = none by rw [written]; exact live] at ended
    cases ended

theorem semantic_gap_ends (noGap : before.planningGap = none) (live : before.terminal = none)
    (admitted : dispatchAdmission before stimulus = .ok facts)
    (folded : prospectiveFactsState before facts stimulus.pages = .ok prospective)
    (transition : deriveSemanticTransition before
      (semanticDraft before stimulus facts commands (determineTerminalOutcome prospective stimulus.pages)) = .ok derived) :
    GapEnds (committedState derived.state stimulus.actionId sequence (determineTerminalOutcome derived.state stimulus.pages)) := by
  by_cases other : ∀ fact ∈ facts, acceptedGap fact.body = none
  · have same := semantic_keeps_gap before other derived transition
    have derivedGap := same.gap.trans noGap
    cases outcome : determineTerminalOutcome derived.state stimulus.pages with
    | none =>
      refine no_gap_ends derivedGap fun terminal stop ended => ?_
      rw [show (committedState derived.state stimulus.actionId sequence none).terminal = none from same.terminal.trans live] at ended
      cases ended
    | some reached =>
      refine no_gap_ends derivedGap fun terminal stop ended isStop => ?_
      cases ended
      exact no_gap_no_stop derivedGap (outcome.trans (congrArg some isStop))
  · rcases admitted_gap_alone before admitted with none | ⟨unsettling, fact, rfl⟩
    · exact absurd none other
    · obtain ⟨gap, accepts⟩ : ∃ gap, acceptedGap fact.body = some gap := by
        simpa [Option.ne_none_iff_exists'] using other
      have stopped := semantic_stops before unsettling accepts folded transition
      rw [stopped_outcome stopped]
      refine ⟨fun recorded isRecorded => ?_, fun terminal stop _ _ => ?_⟩
      · obtain rfl := Option.some.inj (stopped.recorded.symm.trans isRecorded)
        exact ⟨stopped.planning, stopped.noPlan, _, rfl, rfl⟩
      · exact Option.ne_none_iff_exists'.mpr ⟨gap, stopped.recorded⟩

theorem prepared_step_gap_ends {after : RunState} (ends : GapEnds before) (step : PreparedStep before stimulus after) : GapEnds after := by
  cases step with
  | suspended request action admitted inserted =>
    have live := dispatch_admission_active before (.operatorSuspendRequested request) [] admitted
    exact lifecycle_gap_ends (gap_ends_live ends live) live inserted
  | resumed request action admitted inserted =>
    have live := dispatch_admission_active before (.operatorResumeRequested request) [] admitted
    exact lifecycle_gap_ends (gap_ends_live ends live) live inserted
  | semantic stimulus facts prospective commands derived _ admitted folded _ _ transition _ =>
    have live := dispatch_admission_active before stimulus facts admitted
    exact semantic_gap_ends (gap_ends_live ends live) live admitted folded transition

end GapRun

section Sample

attribute [local instance] sampleWorld

end Sample

end PiAutopilot.Authority
