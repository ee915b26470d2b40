import PiAutopilot.Planning.WaveCap

set_option autoImplicit false

/-! # Accepting a planning result

A result is accepted together with the next step of the schedule.  The step is computed on a private state in which the
result and every earlier accepted receipt already count, and when there is no step the result is refused. -/

namespace PiAutopilot.Planning

open Lib

inductive PlanningEventKind where
  | agentResult
  | readyToExecute
  | recoveryCompleted
  | recoveryRequired
  | recoveryExhausted
  | recoveryInadmissible
deriving DecidableEq

structure PreparedPlanningTransition where
  eventKind : PlanningEventKind
  activationRefs : List Text
deriving DecidableEq

structure RootedPlanningReceipt where
  attempt : AttemptRef
  issued : List AttemptRef
  transition : PreparedPlanningTransition
  consumed : Bool
deriving DecidableEq

structure PlanningState where
  refs : PlanningRefs
  rooted : List RootedPlanningReceipt
deriving DecidableEq

structure PlanningSubmission where
  attempt : AttemptRef
  resultContract : Text
  raw : Text
deriving DecidableEq

structure SubmitDiagnostic where
  code : String
  detail : Text
deriving DecidableEq

inductive DeferredHostEffect where
  | done (status : Text)
  | spawnWave (actions : List AttemptRef)
deriving DecidableEq

/-- What a turn reads besides the log: the checks of a payload, and the files and specs of a launch. -/
structure StagingHost where
  /-- The carrier, its binding and the version of the child. -/
  validateBinding : PlanningSubmission → Except SubmitDiagnostic Unit
  /-- The recovery guard, the boundary, the recovery admission and what the result means. -/
  stageSemantics : PlanningSubmission → Except SubmitDiagnostic PreparedPlanningTransition
  /-- The input set, the accepted artifacts, the atom registry and the actions of a launch. -/
  stageLaunch : List RootedPlanningReceipt → PlanningSubmission → List PlanningAgentAssignment → Except Text (List AttemptRef)

def consumeReceipt (refs : PlanningRefs) (attempt : AttemptRef) (issued : List AttemptRef)
    (transition : PreparedPlanningTransition) : PlanningRefs :=
  { refs with
    issued := refs.issued ++ issued
    accepted := refs.accepted ++ [attempt]
    terminalFailures := refs.terminalFailures.filter fun failure => failure.toAttemptRef != attempt
    activationRefs := refs.activationRefs ++ transition.activationRefs }

def projectUnconsumedRootedPlanningReceipts (state : PlanningState) : PlanningRefs :=
  (state.rooted.filter fun receipt => !receipt.consumed).foldl
    (fun refs receipt => consumeReceipt refs receipt.attempt receipt.issued receipt.transition) state.refs

def projected (state : PlanningState) (submission : PlanningSubmission) (semantic : PreparedPlanningTransition) : PlanningRefs :=
  consumeReceipt (projectUnconsumedRootedPlanningReceipts state) submission.attempt [] semantic

def terminalConsumed (refs : PlanningRefs) (attempt : AttemptRef) : Bool :=
  refs.accepted.contains attempt || refs.terminalFailures.any fun failure =>
    failure.toAttemptRef == attempt && failure.status == "terminal-without-planning-result".toList

section Commit

variable (host : StagingHost) (package : Package) (manifest : PlanningManifest) (state : PlanningState)
  (submission : PlanningSubmission) (semantic : PreparedPlanningTransition)

def stagedPlanningEffect : Except Text DeferredHostEffect :=
  if semantic.eventKind = .readyToExecute then .ok (.done ("ready-to-execute:workstream=".toList ++ manifest.workstream))
  else
    match nextPlanningWave package manifest (projected state submission semantic) manifest.planningWaveCap with
    | .launch _ assignments => (host.stageLaunch state.rooted submission assignments).map .spawnWave
    | .waitingOnInFlight waveId _ => .ok (.done ("planning:waiting-on-in-flight:wave=".toList ++ waveId))
    | .complete => .ok (.done "submit:planning-accepted".toList)
    | .blocked wave => .error ("planning wave blocked: ".toList ++ wave.waveId)
    | .capacityUnknown detail => .error ("planning capacity unknown: ".toList ++ detail)

def commitStagedPlanningSubmit : Except SubmitDiagnostic DeferredHostEffect := do
  refuseIf (!"planning.".toList.isPrefixOf submission.resultContract) ⟨"submit.transition_staging_unavailable",
    "delivery/Validator parent transition staging is owned by Wave 2C".toList⟩
  host.validateBinding submission
  refuseIf (terminalConsumed state.refs submission.attempt) ⟨"submit.already_consumed",
    "the planning binding is already terminal or consumed".toList⟩
  let semantic ← host.stageSemantics submission
  (stagedPlanningEffect host package manifest state submission semantic).mapError fun detail =>
    ⟨"submit.planning_transition", detail⟩

structure Stranded (refs : PlanningRefs) (wave : PlanningWaveDeclaration) : Prop where
  next : ∃ before after, StopsAt manifest refs manifest.waves before wave after
  active : waveIsInactive wave refs = false
  unfinished : ∃ assignment ∈ waveAssignments manifest wave, assignmentIsAccepted assignment.assignmentId refs = false
  failed : ∃ assignment ∈ waveAssignments manifest wave, assignmentFailures assignment.assignmentId refs ≠ []
  idle : ∀ assignment ∈ waveAssignments manifest wave, activeRefsForAssignment assignment.assignmentId refs = []

theorem barrier_blocked_iff {refs : PlanningRefs} {wave : PlanningWaveDeclaration} :
    (∃ failures, barrierStatus manifest wave refs = .blocked failures) ↔ waveIsInactive wave refs = false ∧
      (∃ assignment ∈ waveAssignments manifest wave, assignmentIsAccepted assignment.assignmentId refs = false) ∧
      (∃ assignment ∈ waveAssignments manifest wave, assignmentFailures assignment.assignmentId refs ≠ []) ∧
      ∀ assignment ∈ waveAssignments manifest wave, activeRefsForAssignment assignment.assignmentId refs = [] := by
  rw [barrierStatus]
  by_cases inactive : waveIsInactive wave refs = true
  · simp [inactive]
  · rw [if_neg inactive]
    have isActive : waveIsInactive wave refs = false := by simpa using inactive
    by_cases complete : (waveAssignments manifest wave).countP (fun assignment =>
        assignmentIsAccepted assignment.assignmentId refs) = (waveAssignments manifest wave).length
    · rw [if_pos complete]
      refine iff_of_false (by rintro ⟨failures, blocked⟩; cases blocked) ?_
      rintro ⟨-, ⟨assignment, member, open_⟩, -⟩
      rw [List.countP_eq_length.mp complete assignment member] at open_
      cases open_
    · rw [if_neg complete]
      have unfinished : ∃ assignment ∈ waveAssignments manifest wave, assignmentIsAccepted assignment.assignmentId refs = false := by
        simpa using complete
      by_cases stuck : (!((waveAssignments manifest wave).flatMap fun assignment =>
          assignmentFailures assignment.assignmentId refs).isEmpty && ((waveAssignments manifest wave).flatMap fun assignment =>
          activeRefsForAssignment assignment.assignmentId refs).isEmpty) = true
      · rw [if_pos stuck]
        rw [Bool.and_eq_true, Bool.not_eq_true', List.isEmpty_eq_false_iff, List.isEmpty_iff, List.flatMap_eq_nil_iff] at stuck
        refine iff_of_true ⟨_, rfl⟩ ⟨isActive, unfinished, ?_, stuck.2⟩
        by_contra none_
        push Not at none_
        exact stuck.1 (List.flatMap_eq_nil_iff.mpr none_)
      · rw [if_neg stuck]
        refine iff_of_false (by rintro ⟨failures, blocked⟩; cases blocked) ?_
        rintro ⟨-, -, ⟨assignment, member, failed⟩, idle⟩
        refine stuck ?_
        rw [Bool.and_eq_true, Bool.not_eq_true', List.isEmpty_eq_false_iff, List.isEmpty_iff, List.flatMap_eq_nil_iff]
        exact ⟨fun empty => failed (List.flatMap_eq_nil_iff.mp empty assignment member), idle⟩

theorem next_wave_blocked (refs : PlanningRefs) (cap : Nat) (waves : List PlanningWaveDeclaration) :
    (∃ blocked, nextWaveOf package manifest refs cap waves = .blocked blocked) ↔
      ∃ before wave after, StopsAt manifest refs waves before wave after ∧
        ∃ failures, barrierStatus manifest wave refs = .blocked failures := by
  induction waves with
  | nil =>
    refine iff_of_false (by rintro ⟨blocked, ran⟩; cases ran) ?_
    rintro ⟨before, wave, after, stops, -⟩
    exact absurd stops.place (by simp)
  | cons first rest ih =>
    -- The loop goes on to the rest exactly when the first wave is passed over.
    have goesOn : (planningWaveDependenciesComplete manifest first refs = true → barrierStatus manifest first refs = .complete) →
        ((∃ before wave after, StopsAt manifest refs (first :: rest) before wave after ∧
          ∃ failures, barrierStatus manifest wave refs = .blocked failures) ↔
        ∃ before wave after, StopsAt manifest refs rest before wave after ∧
          ∃ failures, barrierStatus manifest wave refs = .blocked failures) := by
      intro passed
      constructor
      · rintro ⟨before, wave, after, stops, failures, blocked⟩
        cases before with
        | nil =>
          cases stops.place
          rw [passed stops.ready] at blocked
          cases blocked
        | cons head before =>
          obtain ⟨rfl, place⟩ := List.cons.inj stops.place
          exact ⟨before, wave, after, ⟨place, fun earlier member => stops.passed earlier (List.mem_cons_of_mem _ member),
            stops.ready⟩, failures, blocked⟩
      · rintro ⟨before, wave, after, stops, blocked⟩
        exact ⟨first :: before, wave, after, stops_later manifest refs stops passed, blocked⟩
    rw [nextWaveOf]
    by_cases ready : planningWaveDependenciesComplete manifest first refs = true
    · rw [if_pos ready]
      cases status : barrierStatus manifest first refs with
      | complete => exact ih.trans (goesOn fun _ => status).symm
      | blocked failures =>
        exact iff_of_true ⟨_, rfl⟩ ⟨[], first, rest, ⟨rfl, by simp, ready⟩, failures, status⟩
      | running active waiting =>
        refine iff_of_false ?_ ?_
        · rintro ⟨blocked, ran⟩
          simp only [launchWave] at ran
          split at ran
          · cases ran
          · split at ran <;> cases ran
        · rintro ⟨before, wave, after, stops, failures, blocked⟩
          cases before with
          | nil =>
            cases stops.place
            rw [status] at blocked
            cases blocked
          | cons head before =>
            obtain ⟨rfl, -⟩ := List.cons.inj stops.place
            have complete := stops.passed first List.mem_cons_self ready
            rw [status] at complete
            cases complete
    · rw [if_neg ready]
      exact ih.trans (goesOn fun isReady => absurd isReady ready).symm

theorem blocked_stranded (refs : PlanningRefs) :
    (∃ blocked, nextPlanningWave package manifest refs manifest.planningWaveCap = .blocked blocked) ↔
      ∃ wave, Stranded manifest refs wave := by
  rw [nextPlanningWave, next_wave_blocked]
  constructor
  · rintro ⟨before, wave, after, stops, blocked⟩
    obtain ⟨active, unfinished, failed, idle⟩ := (barrier_blocked_iff manifest).mp blocked
    exact ⟨wave, ⟨before, after, stops⟩, active, unfinished, failed, idle⟩
  · rintro ⟨wave, ⟨before, after, stops⟩, active, unfinished, failed, idle⟩
    exact ⟨before, wave, after, stops, (barrier_blocked_iff manifest).mpr ⟨active, unfinished, failed, idle⟩⟩

def StepUnavailable : Prop :=
  (∃ detail, nextPlanningWave package manifest (projected state submission semantic) manifest.planningWaveCap =
    .capacityUnknown detail) ∨
  ∃ waveId assignments error, nextPlanningWave package manifest (projected state submission semantic)
    manifest.planningWaveCap = .launch waveId assignments ∧ host.stageLaunch state.rooted submission assignments = .error error

def NoStep : Prop :=
  (∃ wave, Stranded manifest (projected state submission semantic) wave) ∨
    StepUnavailable host package manifest state submission semantic

theorem commit_accepts_iff (contract : "planning.".toList.isPrefixOf submission.resultContract = true)
    (bound : host.validateBinding submission = .ok ()) (staged : host.stageSemantics submission = .ok semantic)
    (fresh : terminalConsumed state.refs submission.attempt = false) :
    (∃ effect, commitStagedPlanningSubmit host package manifest state submission = .ok effect) ↔
      semantic.eventKind = .readyToExecute ∨ ¬NoStep host package manifest state submission semantic := by
  have commits : ∀ effect, commitStagedPlanningSubmit host package manifest state submission = .ok effect ↔
      stagedPlanningEffect host package manifest state submission semantic = .ok effect := by
    intro effect
    rw [commitStagedPlanningSubmit, contract, fresh, bound, staged]
    exact map_error_ok
  simp only [commits, stagedPlanningEffect]
  by_cases ready : semantic.eventKind = .readyToExecute
  · rw [if_pos ready]
    exact iff_of_true ⟨_, rfl⟩ (.inl ready)
  · rw [if_neg ready, or_iff_right ready, NoStep, StepUnavailable, ← blocked_stranded package]
    cases outcome : nextPlanningWave package manifest (projected state submission semantic) manifest.planningWaveCap with
    | launch waveId assignments =>
      cases launched : host.stageLaunch state.rooted submission assignments with
      | ok issued => exact iff_of_true ⟨.spawnWave issued, congrArg (Except.map _) launched⟩ (by simp [launched])
      | error error =>
        refine iff_of_false ?_ fun none_ => none_ (.inr (.inr ⟨waveId, assignments, error, rfl, launched⟩))
        rintro ⟨effect, returned⟩
        cases (congrArg (Except.map DeferredHostEffect.spawnWave) launched).symm.trans returned
    | waitingOnInFlight waveId active => exact iff_of_true ⟨_, rfl⟩ (by simp)
    | complete => exact iff_of_true ⟨_, rfl⟩ (by simp)
    | blocked wave => exact iff_of_false (by rintro ⟨effect, returned⟩; cases returned) fun none_ => none_ (.inl ⟨wave, rfl⟩)
    | capacityUnknown detail =>
      exact iff_of_false (by rintro ⟨effect, returned⟩; cases returned) fun none_ => none_ (.inr (.inl ⟨detail, rfl⟩))

end Commit

def pairWave : PlanningWaveDeclaration := { firstWave with id := ['p'], ordinals := some [1, 2] }

def pairManifest : PlanningManifest := { sampleManifest [1, 2] [pairWave] with planningWaveCap := 2 }

def pairPackage : Package := { samplePackage with concurrencyForRole := fun _ => .ok 2 }

def acceptingHost : StagingHost where
  validateBinding _ := .ok ()
  stageSemantics _ := .ok ⟨.agentResult, []⟩
  stageLaunch _ _ _ := .ok []

def secondResult : PlanningSubmission := ⟨sampleAttempt 2, "planning.plan-review.v1".toList, []⟩

def bothInFlight : PlanningState := ⟨⟨[sampleAttempt 1, sampleAttempt 2], [], [], [], []⟩, []⟩

def firstFailed : PlanningState := ⟨{ bothInFlight.refs with
  terminalFailures := [{ sampleAttempt 1 with status := "terminal-without-planning-result".toList }] }, []⟩

def firstAccepted : PlanningState := ⟨{ bothInFlight.refs with accepted := [sampleAttempt 1] }, []⟩

end PiAutopilot.Planning
