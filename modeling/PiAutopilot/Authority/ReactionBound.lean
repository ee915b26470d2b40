import PiAutopilot.Authority.Attended
import PiAutopilot.Authority.SampleRun

set_option autoImplicit false

namespace PiAutopilot.Authority

open Lib Protocol

section ReactionBound

variable [StimulusHashing]

-- The pages prove every command that the reaction looks up.
def CoversWanted (state : RunState) (pages : List IndexPage) : Prop :=
  ∀ command ∈ wantedCommands state, ∃ value witness,
    lookupIndex (state.indexes .commands) (commandKey command) pages = .proved value witness

theorem reaction_never_wedges (collisionFree : CollisionFree IndexValue) (genesis : RunGenesis) (state : RunState)
    (reached : ReachedBy QuietWhileSuspended genesis state) (live : state.terminal = none)
    (active : isSuspended state.suspension = false) (pages : List IndexPage) (covers : CoversWanted state pages) :
    ∃ commands, deriveReaction state [] pages = .ok commands ∧ commands.length ≤ maxCommandsPerCommit := by
  obtain ⟨contents, reads, attended⟩ := reached_attended collisionFree reached
  obtain ⟨complete, known⟩ := attended live
  refine ⟨[], ?_, Nat.zero_le _⟩
  rw [derive_reaction_noted rfl, active, live, complete]
  refine nothing_wanted state pages fun command wanted => ?_
  obtain ⟨value, witness, proved⟩ := covers command wanted
  have found := lookup_reads collisionFree reads proved
  rw [commandKnown, show lookupIndex (state.indexes .commands) (indexKey .commands command.commandId.text) pages = _ from proved, found]
  exact congrArg Except.ok (known command wanted)

end ReactionBound

section Sample

attribute [local instance] sampleWorld

theorem planned_quiet : ReachedBy QuietWhileSuspended sampleGenesis planned.run := by
  have openedReached : ReachedBy QuietWhileSuspended sampleGenesis opened.run := opened_run ▸ .start
  refine .commit _ _ _ (.commit _ _ _ openedReached ?_ declaredStep.commits) ?_ plannedStep.commits
  · intro stopped
    cases stopped
  · intro stopped
    cases stopped

theorem planned_never_wedges : ∃ commands, deriveReaction planned.run [] [] = .ok commands ∧ commands.length ≤ maxCommandsPerCommit :=
  reaction_never_wedges sample_collision_free sampleGenesis planned.run planned_quiet rfl rfl []
    fun _ _ => ⟨_, _, on_book_lookup planned.state plannedBook (tidy_orderly _ (by decide +kernel))⟩

end Sample

-- A run that is suspended at once, declares seventeen verifications, accepts a plan and a candidate for them, and is
-- then resumed.
section Suspended

def manyWork (number : Nat) : WorkItem := verifyingWork [Fin.ofNat 16 (number / 10), Fin.ofNat 16 (number % 10)]

def manyIntents : List (RunId × PortIntent) :=
  (List.range 17).flatMap fun number =>
    [(sampleGenesis.runId, reserveIntent (manyWork number)), (sampleGenesis.runId, verifyIntent (manyWork number))]

@[reducible] noncomputable def manyWorld : StimulusHashing := sampleHashing [sampleRef] manyIntents

attribute [local instance] manyWorld

noncomputable def stopped : Stage :=
  ⟨suspendedState (initialState sampleGenesis) (initialState sampleGenesis) (suspendRequest [1, 0]),
    enter emptyBook .actions (actionKey (.operatorSuspendRequested (suspendRequest [1, 0])))
      (.action ⟨sampleAction [1, 0], .runSuspended, incrementDecimalNatural (initialState sampleGenesis).lastSequence⟩)⟩

theorem stopped_commits :
    Commits (initialState sampleGenesis) (.operatorSuspendRequested (suspendRequest [1, 0])) (onBook stopped.state stopped.book) := by
  have commits := suspension_commits (initialState sampleGenesis) emptyBook empty_book_orderly (suspendRequest [1, 0]) rfl rfl rfl
    (Nat.zero_le _) rfl (by decide)
  rwa [← initial_on_book] at commits

def declareRequest (number : Nat) : BoundaryRequestReceived :=
  boundaryRequest [2, Fin.ofNat 16 (number / 10), Fin.ofNat 16 (number % 10)] (.declareWork (manyWork number))

noncomputable def withWork (stage : Stage) (number : Nat) : Book :=
  enter stage.book .work (indexKey .work (manyWork number).workItemId.text) (.work ⟨none, manyWork number⟩)

noncomputable def declaredMany : Nat → Stage
  | 0 => stopped
  | number + 1 =>
    let before := declaredMany number
    ⟨{ incrementCounter before.state .declaredWork with lastSequence := incrementDecimalNatural before.state.lastSequence },
      committedBook before.state (withWork before number) (.boundaryRequestReceived (declareRequest number)) [] none⟩

def declaredFact (number : Nat) : DomainFact := ⟨sampleGenesis.runId, .workDeclared (manyWork number)⟩

theorem many_committable : ∀ number < 17,
    committable (declaredMany number).state (declaredMany number).book (withWork (declaredMany number) number)
      (.boundaryRequestReceived (declareRequest number)) [declaredFact number] [] = true := by
  decide +kernel

theorem many_absent : ∀ number < 17, entryOf (declaredMany number).book .work (indexKey .work (manyWork number).workItemId.text) = none ∧
      ((declaredMany number).book .work).length < maxHotIndexValues := by
  decide +kernel

theorem declared_many_state {number : Nat} : ∃ counters sequence,
    (declaredMany number).state = { stopped.state with counters := counters, lastSequence := sequence } := by
  induction number with
  | zero => exact ⟨_, _, rfl⟩
  | succ number ih =>
    obtain ⟨counters, sequence, before⟩ := ih
    rw [declaredMany, before]
    exact ⟨_, _, rfl⟩

theorem declared_many_commits {number : Nat} (small : number < 17) :
    Commits (declaredMany number).run (.boundaryRequestReceived (declareRequest number)) (declaredMany (number + 1)).run := by
  obtain ⟨counters, sequence, isState⟩ := declared_many_state
  have checked := committable_of_check (many_committable number small)
  obtain ⟨absent, room⟩ := many_absent number small
  have leads := work_declared_leads (declaredMany number).state (declaredMany number).book checked.orderly [] (manyWork number)
    (by rw [isState]; rfl) (by rw [isState]; rfl) (by rw [isState]; intro executing; cases executing) absent room
  refine boundary_request_commits ?_ rfl ?_ ?_ checked
  · rw [isState]
    rfl
  · have sameRun : (declaredMany number).state.identity.runId = sampleGenesis.runId := by rw [isState]; rfl
    rw [sameRun] at leads
    exact leads
  · intro book
    refine no_outcome_unattested _ _ ?_ ?_ <;> rw [isState] <;> rfl

theorem declared_many_reached {number : Nat} (small : number ≤ 17) : Reached sampleGenesis (declaredMany number).run := by
  induction number with
  | zero => exact .commit _ _ _ .start trivial stopped_commits
  | succ number ih => exact .commit _ _ _ (ih (Nat.le_of_succ_le small)) trivial (declared_many_commits small)

noncomputable def planBook : Book :=
  enter (declaredMany 17).book .plans (indexKey .plans samplePlanRoot.text) (.plan (planFact.planValue sampleGenesis.runId))

noncomputable def plannedMany : Stage :=
  ⟨{ enterExecution (planFact.planValue sampleGenesis.runId).planState (declaredMany 17).state with
      lastSequence := incrementDecimalNatural (declaredMany 17).state.lastSequence },
    committedBook (declaredMany 17).state planBook (.submissionReady planning) [] none⟩

theorem planned_many_commits : Commits (declaredMany 17).run (.submissionReady planning) plannedMany.run :=
  submission_commits rfl rfl rfl rfl rfl rfl rfl
    (plan_root_accepted_leads (declaredMany 17).state (declaredMany 17).book (tidy_orderly _ (by decide +kernel)) [] planFact
      ⟨none, authorWork⟩ rfl rfl rfl rfl rfl (by decide +kernel))
    (fun _ => no_outcome_unattested _ _ rfl rfl)
    (committable_of_check (by decide +kernel))

noncomputable def candidateBook : Book :=
  enter plannedMany.book .candidates (indexKey .candidates (candidateFact 0).candidateId.text) (.candidate (candidateEntry 0))

noncomputable def offeredMany : Stage :=
  ⟨{ selectCandidate (candidateEntry 0).candidateState plannedMany.state with
      lastSequence := incrementDecimalNatural plannedMany.state.lastSequence },
    committedBook plannedMany.state candidateBook (.submissionReady (offering [1, 2] 0)) [] none⟩

theorem offered_many_commits : Commits plannedMany.run (.submissionReady (offering [1, 2] 0)) offeredMany.run :=
  submission_commits rfl rfl rfl rfl rfl rfl rfl
    (candidate_accepted_leads plannedMany.state plannedMany.book (tidy_orderly _ (by decide +kernel)) [] (candidateFact 0) rfl rfl
      (by decide +kernel))
    (fun _ => no_outcome_unattested _ _ rfl rfl)
    (committable_of_check (by decide +kernel))

noncomputable def resumeMany : OperatorResumeRequested :=
  resumeRequest [1, 3] (incrementDecimalNatural (initialState sampleGenesis).lastSequence)

noncomputable def resumedMany : Stage :=
  ⟨resumedState offeredMany.state offeredMany.state,
    enter offeredMany.book .actions (actionKey (.operatorResumeRequested resumeMany))
      (.action ⟨resumeMany.actionId, .runResumed, incrementDecimalNatural offeredMany.state.lastSequence⟩)⟩

theorem resumed_many_commits : Commits offeredMany.run (.operatorResumeRequested resumeMany) resumedMany.run :=
  resumption_commits offeredMany.state offeredMany.book (tidy_orderly _ (by decide +kernel)) rfl rfl rfl
    rfl rfl (Nat.zero_le _) (by decide +kernel) (by decide +kernel)

theorem resumed_many_reached : Reached sampleGenesis resumedMany.run :=
  .commit _ _ _ (.commit _ _ _ (.commit _ _ _ (declared_many_reached le_rfl) trivial planned_many_commits) trivial
    offered_many_commits) trivial resumed_many_commits

-- The reaction of the resumed run holds a reservation and a verification for each of the seventeen.
theorem resumed_reaction_overflows :
    ∃ state commands, Reached sampleGenesis state ∧ state.terminal = none ∧ isSuspended state.suspension = false ∧
      CoversWanted state [] ∧ deriveReaction state [] [] = .ok commands ∧ commands.length = 34 := by
  have orderly : Orderly resumedMany.book := tidy_orderly _ (by decide +kernel)
  refine ⟨resumedMany.run, listedReaction resumedMany.state resumedMany.book, resumed_many_reached, rfl, rfl, ?_, ?_, ?_⟩
  · intro command _
    exact ⟨_, _, on_book_lookup resumedMany.state resumedMany.book orderly⟩
  · exact derive_reaction_listed orderly rfl
  · decide +kernel

end Suspended

end PiAutopilot.Authority
