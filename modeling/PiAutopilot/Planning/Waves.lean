import PiAutopilot.Planning.Declarations

set_option autoImplicit false

/-! # The assignments of a policy and the next planning wave -/

namespace PiAutopilot.Planning

open Lib

structure TerminalProfile where
  profileId : Text
  toolName : Text
  boundaryId : Text
  resultContract : Text
  schemaDigest : Text
deriving DecidableEq

structure TerminalRoute extends TerminalProfile where
  version : Text
deriving DecidableEq

structure PlanningAgentAssignment where
  assignmentId : Text
  role : Text
  mode : Text
  boundaryId : Option Text
  terminalRoute : Option TerminalRoute
  ordinal : Nat
  atomIdPrefix : Option Text
deriving DecidableEq

structure PlanningManifest where
  workstream : Text
  planningWaveCap : Nat
  planningMaxAttempts : Nat
  assignments : List PlanningAgentAssignment
  waves : List PlanningWaveDeclaration
deriving DecidableEq

/-- The generated terminal profiles and the roster. -/
structure Package where
  terminalProfiles : List TerminalProfile
  concurrencyForRole : Text → Except Text Nat

def terminalTools : List (String × String) :=
  [("task-extractor", "autopilot_submit_atoms"), ("repository-scout", "autopilot_submit_scout_report"),
   ("context-curator", "autopilot_submit_context"), ("contradiction-resolver", "autopilot_submit_resolution"),
   ("plan-compiler", "autopilot_submit_plan_cluster"), ("plan-synthesizer", "autopilot_submit_synthesis"),
   ("plan-reviewer", "autopilot_submit_review"), ("recovery-engineer", "autopilot_emit_status")]

def planningTerminalTool (role : Text) : Except PlanningError Text :=
  match terminalTools.find? fun row => row.1.toList == role with
  | some row => .ok row.2.toList
  | none => .error (.badDeclaration ("planning role ".toList ++ role ++ " has no terminal tool".toList))

variable (package : Package)

def planningTerminalRoute (role boundary : Text) : Except PlanningError TerminalRoute := do
  let tool ← planningTerminalTool role
  match package.terminalProfiles.filter fun row =>
      row.toolName == tool && row.boundaryId == boundary && row.resultContract == boundary with
  | [profile] =>
    return { profile with version := if boundary == "planning.work-map.v2".toList then "v2".toList else "v1-legacy".toList }
  | rows => .error (.badDeclaration ("planning role ".toList ++ role ++ " has ".toList ++ Nat.toDigits 10 rows.length ++
      " exact terminal rows for ".toList ++ boundary))

def twoDigits (value : Nat) : Text :=
  if value < 10 then '0' :: Nat.toDigits 10 value else Nat.toDigits 10 value

def assignmentOf (workstream : Text) (row : PlanningAssignmentRole) (index : Nat) : Except PlanningError PlanningAgentAssignment := do
  let route ← planningTerminalRoute package row.role row.boundaryId
  return {
    assignmentId := "planning-".toList ++ workstream ++ ['-'] ++ row.role ++ ['-'] ++ twoDigits index
    role := row.role
    mode := row.mode
    boundaryId := some row.boundaryId
    terminalRoute := some route
    ordinal := index
    atomIdPrefix := row.atomNamespace.map fun atoms => atoms ++ twoDigits index ++ ['-'] }

abbrev ByRole := List (Text × List PlanningAgentAssignment)

def assignmentsByRole (workstream : Text) (roles : List PlanningAssignmentRole) : Except PlanningError ByRole :=
  roles.foldlM (fun byRole row => do
    let assignments ← (List.range' 1 row.count).mapM (assignmentOf package workstream row)
    return setOwn byRole row.role assignments) []

def waveIncludesOrdinal (wave : PlanningWaveDeclaration) (ordinal : Nat) : Bool :=
  match wave.ordinals with
  | none => true
  | some ordinals => ordinals.contains ordinal

def emit (out : List PlanningAgentAssignment) (assignment : PlanningAgentAssignment) :
    Except PlanningError (List PlanningAgentAssignment) := do
  refuseIf ((out.map (·.assignmentId)).contains assignment.assignmentId)
    (.badDeclaration ("assignment ".toList ++ assignment.assignmentId ++ " appears in multiple waves".toList))
  return out ++ [assignment]

def emitWave (byRole : ByRole) (out : List PlanningAgentAssignment) (wave : PlanningWaveDeclaration) :
    Except PlanningError (List PlanningAgentAssignment) :=
  match getOwn byRole wave.role with
  | none => .error (.badDeclaration ("missing role ".toList ++ wave.role))
  | some assignments => (assignments.filter fun assignment => waveIncludesOrdinal wave assignment.ordinal).foldlM emit out

def assignmentsForPolicy (workstream : Text) (policy : PlanningPolicy) : Except PlanningError (List PlanningAgentAssignment) := do
  let byRole ← assignmentsByRole package workstream policy.roles
  let out ← policy.waves.foldlM (emitWave byRole) []
  let declaredTotal := (policy.roles.map (·.count)).sum
  refuseIf (out.length != declaredTotal) (.badDeclaration ("planning waves cover ".toList ++ Nat.toDigits 10 out.length ++
    " assignments, roles declare ".toList ++ Nat.toDigits 10 declaredTotal))
  refuseIf (policy.assignmentCap < out.length) (.assignmentCap (min out.length 255) policy.assignmentCap)
  return out

def PlanningManifest.fromPolicy (workstream : Text) (policy : PlanningPolicy) : Except PlanningError PlanningManifest := do
  let assignments ← assignmentsForPolicy package workstream policy
  return { workstream, planningWaveCap := policy.planningWaveCap, planningMaxAttempts := policy.planningMaxAttempts,
           assignments, waves := policy.waves }

structure AttemptRef where
  assignmentId : Text
  actionId : Text
  runRevision : Nat
deriving DecidableEq

structure PlanningLaunchAckRef extends AttemptRef where
  taskId : Text
deriving DecidableEq

structure PlanningTerminalFailureRef extends AttemptRef where
  status : Text
deriving DecidableEq

structure PlanningActiveRef extends AttemptRef where
  launchAcknowledged : Bool
deriving DecidableEq

structure PlanningRefs where
  issued : List AttemptRef
  launchAcks : List PlanningLaunchAckRef
  accepted : List AttemptRef
  terminalFailures : List PlanningTerminalFailureRef
  activationRefs : List Text
deriving DecidableEq

variable (assignmentId : Text) (refs : PlanningRefs)

def assignmentIsAccepted : Bool :=
  refs.accepted.any fun accepted => accepted.assignmentId == assignmentId && refs.issued.contains accepted

variable (issued : AttemptRef)

def acceptedExact (refs : PlanningRefs) : Bool := refs.accepted.contains issued

def terminalFailureExact (refs : PlanningRefs) : Bool := refs.terminalFailures.any fun failure => failure.toAttemptRef == issued

def launchAckTaskId (refs : PlanningRefs) : Option Text :=
  (refs.launchAcks.find? fun ack => ack.toAttemptRef == issued).map (·.taskId)

def activeRefsForAssignment : List PlanningActiveRef :=
  (refs.issued.filter fun issued =>
    issued.assignmentId == assignmentId && !acceptedExact issued refs && !terminalFailureExact issued refs).map fun issued =>
      { issued with launchAcknowledged := (launchAckTaskId issued refs).isSome }

def assignmentIsActive : Bool := !(activeRefsForAssignment assignmentId refs).isEmpty

def assignmentFailures : List PlanningTerminalFailureRef :=
  refs.terminalFailures.filter fun failure =>
    failure.assignmentId == assignmentId && refs.issued.contains failure.toAttemptRef &&
      !refs.accepted.contains failure.toAttemptRef

def waveIsInactive (wave : PlanningWaveDeclaration) (refs : PlanningRefs) : Bool :=
  match wave.activationRef with
  | none => false
  | some activationRef => !refs.activationRefs.contains activationRef

inductive PlanningBarrierStatus where
  | complete
  | running (active : List PlanningActiveRef) (unissued : List Text)
  | blocked (failures : List PlanningTerminalFailureRef)
deriving DecidableEq

variable (manifest : PlanningManifest) (wave : PlanningWaveDeclaration) (refs : PlanningRefs)

def waveAssignments : List PlanningAgentAssignment :=
  manifest.assignments.filter fun assignment => assignment.role == wave.role && waveIncludesOrdinal wave assignment.ordinal

def unissued (assignments : List PlanningAgentAssignment) (refs : PlanningRefs) : List Text :=
  (assignments.filter fun assignment =>
    !assignmentIsAccepted assignment.assignmentId refs && !assignmentIsActive assignment.assignmentId refs &&
      (assignmentFailures assignment.assignmentId refs).isEmpty).map (·.assignmentId)

def barrierStatus : PlanningBarrierStatus :=
  if waveIsInactive wave refs then .complete
  else
    let assignments := waveAssignments manifest wave
    let completed := assignments.countP fun assignment => assignmentIsAccepted assignment.assignmentId refs
    if completed = assignments.length then .complete
    else
      let active := assignments.flatMap fun assignment => activeRefsForAssignment assignment.assignmentId refs
      let failures := assignments.flatMap fun assignment => assignmentFailures assignment.assignmentId refs
      if !failures.isEmpty && active.isEmpty then .blocked failures
      else .running active (if failures.isEmpty then unissued assignments refs else [])

structure PlanningWaveBlocked where
  waveId : Text
  failedAssignments : List Text
  attempts : List (Text × Nat)
  completedAssignments : List Text
deriving DecidableEq

def blockedWave (failures : List PlanningTerminalFailureRef) : PlanningWaveBlocked :=
  let failedAssignments := sortedSet (failures.map (·.assignmentId))
  { waveId := wave.id
    failedAssignments
    attempts := failedAssignments.map fun failed => (failed, refs.issued.countP fun issued => issued.assignmentId == failed)
    completedAssignments := ((waveAssignments manifest wave).filter fun assignment =>
      assignmentIsAccepted assignment.assignmentId refs).map (·.assignmentId) }

inductive PlanningWaveOutcome where
  | launch (waveId : Text) (assignments : List PlanningAgentAssignment)
  | waitingOnInFlight (waveId : Text) (active : List PlanningActiveRef)
  | complete
  | blocked (wave : PlanningWaveBlocked)
  | capacityUnknown (error : Text)
deriving DecidableEq

def planningWaveDependenciesComplete : Bool :=
  wave.dependencies.all fun dependency =>
    match waveOf manifest.waves dependency with
    | some found => barrierStatus manifest found refs == .complete
    | none => false

def selectAssignments (unissued : List Text) (openSlots : Nat) : List PlanningAgentAssignment :=
  manifest.assignments.filter fun assignment => (unissued.take openSlots).contains assignment.assignmentId

def launchWave (cap : Nat) (wave : PlanningWaveDeclaration)
    (active : List PlanningActiveRef) (unissued : List Text) : PlanningWaveOutcome :=
  match package.concurrencyForRole wave.role with
  | .error error => .capacityUnknown error
  | .ok poolCap =>
    let selected := selectAssignments manifest unissued (min (min cap manifest.planningWaveCap) poolCap - active.length)
    if selected.isEmpty then .waitingOnInFlight wave.id active else .launch wave.id selected

def nextWaveOf (package : Package) (manifest : PlanningManifest) (refs : PlanningRefs) (cap : Nat) :
    List PlanningWaveDeclaration → PlanningWaveOutcome
  | [] => .complete
  | wave :: rest =>
    if planningWaveDependenciesComplete manifest wave refs then
      match barrierStatus manifest wave refs with
      | .complete => nextWaveOf package manifest refs cap rest
      | .blocked failures => .blocked (blockedWave manifest wave refs failures)
      | .running active unissued => launchWave package manifest cap wave active unissued
    else nextWaveOf package manifest refs cap rest

def nextPlanningWave (cap : Nat) : PlanningWaveOutcome := nextWaveOf package manifest refs cap manifest.waves

end PiAutopilot.Planning
