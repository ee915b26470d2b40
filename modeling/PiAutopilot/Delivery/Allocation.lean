import Mathlib.Data.Prod.Lex
import PiAutopilot.Delivery.Plan
import PiAutopilot.Delivery.Rows
import PiAutopilot.Lib.KeySort

set_option autoImplicit false

/-! # Lane allocation

The package builds its own allocation submission from the approved plan and the log, and then checks
it as it would check any proposal.  A lane carries one unit and is named after the unit's position. -/

namespace PiAutopilot.Delivery

open EventLog Lib

structure AllocationLaneProposal where
  laneId : Id
  objective : String
  orderedUnitIds : List Id
  rationale : String
  deliveryBoundary : String
  predecessorForwardCriteria : List Id
  downstreamReleaseEdges : List Id
  contextFamilyId : Id
  contextEstimate : Nat
  focusedTests : List String
  launchWave : Nat
  continueExistingLogicalLane : Option Bool
deriving DecidableEq

structure FutureUnit where
  unitId : Id
  reason : String
deriving DecidableEq

structure AllocationSubmission where
  lanes : List AllocationLaneProposal
  futureUnits : List FutureUnit
  authorityEcho : List ApprovedUnit
  ownershipClaims : List String
  overlapBlocks : List String
deriving DecidableEq

def approvedLaneId (index : Nat) : Id := "L" ++ toString (index + 1)

def unitClosedRef (laneId : Id) : Ref := ⟨"unit-closed:" ++ laneId⟩

def gateRef (criterion : Id) : Ref := ⟨"gate:" ++ criterion⟩

def laneClosed (rows : Rows) (laneId : Id) : Bool := hasExactRef rows (unitClosedRef laneId).text

def gatesMet (rows : Rows) (unit : ApprovedUnit) : Bool :=
  unit.predecessorForwardCriteria.all fun gate => hasExactRef rows (gateRef gate).text

structure OpenLane where
  index : Nat
  unit : ApprovedUnit
  live : Bool
deriving DecidableEq

def laneKey (rows : Rows) (lane : OpenLane) : Bool ×ₗ Bool ×ₗ Nat :=
  toLex (!lane.live, toLex (!gatesMet rows lane.unit, lane.index))

def openUnits (units : List ApprovedUnit) (rows : Rows) : List (ApprovedUnit × Nat) :=
  units.zipIdx.filter fun entry => !laneClosed rows (approvedLaneId entry.2)

def laneWindow (rows : Rows) (lanes : List OpenLane) : List OpenLane := (lanes.insertionSort (byKey (laneKey rows))).take 6

def laneProposal (workstream : Id) (lane : OpenLane) : AllocationLaneProposal where
  laneId := approvedLaneId lane.index
  objective := lane.unit.objective
  orderedUnitIds := [lane.unit.id]
  rationale := s!"unit {lane.unit.id} from approved plan"
  deliveryBoundary := "approved-plan-unit"
  predecessorForwardCriteria := lane.unit.predecessorForwardCriteria
  downstreamReleaseEdges := lane.unit.downstreamReleaseEdges
  contextFamilyId := s!"approved-plan:{workstream}"
  contextEstimate := 100
  focusedTests := lane.unit.commands.map PlanUnitCommand.command
  launchWave := lane.index
  continueExistingLogicalLane := if lane.live then some true else none

def futureReason (rows : Rows) (index : Nat) : String :=
  if laneClosed rows (approvedLaneId index) then
    "unit already closed; retained as approved authority outside the active allocation window"
  else "parallel allocation window is six lanes; retained for the next deterministic allocation window"

def submissionOf (workstream : Id) (units : List ApprovedUnit) (rows : Rows) (scheduled : List OpenLane) : AllocationSubmission where
  lanes := scheduled.map (laneProposal workstream)
  futureUnits :=
    (units.zipIdx.filter fun entry => entry.1.id ∉ scheduled.map fun lane => lane.unit.id).map fun entry =>
      { unitId := entry.1.id, reason := futureReason rows entry.2 }
  authorityEcho := units
  ownershipClaims := []
  overlapBlocks := []

def allocationSubmissionFromPlan [BindingJson] (workstream : Id) (units : List ApprovedUnit) (rows : Rows) :
    Except String AllocationSubmission := do
  validateApprovedUnits units
  let lanes ← (openUnits units rows).mapM fun entry =>
    (laneHasLiveDelivery rows (approvedLaneId entry.2)).map (OpenLane.mk entry.2 entry.1)
  return submissionOf workstream units rows (laneWindow rows lanes)

structure AllocationPolicy where
  parallelCap : Nat
  activeImplementers : Nat

inductive AllocationError where
  | wrongLaneCount (actual : Nat)
  | missingUnit (id : Id)
  | duplicateUnit (id : Id)
  | unknownUnit (id : Id)
  | futureWithoutReason (id : Id)
  | authorityChanged (id : Id)
  | predecessorGateChanged (id : Id)
  | downstreamEdgeChanged (id : Id)
  | unitOrderCreatesCycle (id : Id)
  | laneCycle (lane : String)
  | parallelCapExceeded
  | concurrentUnit (id : Id)
  | inventedOwnership (claim : String)
deriving DecidableEq

structure CanonicalLane where
  proposal : AllocationLaneProposal
  remainingDependencyPath : Nat
  firstOperatorOrder : Nat
  capacityClass : String
deriving DecidableEq

structure CanonicalAllocation where
  lanes : List CanonicalLane
  futureUnits : List FutureUnit
deriving DecidableEq

def rejectOwnership (submission : AllocationSubmission) : Except AllocationError Unit :=
  match submission.ownershipClaims ++ submission.overlapBlocks with
  | [] => .ok ()
  | claim :: _ => .error (.inventedOwnership claim)

def validateApprovedUnitAuthority (units : List ApprovedUnit) : Except AllocationError Unit :=
  checkAll (fun unit =>
    checkAll (fun command =>
      (validatePlanUnitCommandEffectAuthority command).mapError fun _ => .authorityChanged unit.id) unit.commands) units

def compareAuthority (approved echo : List ApprovedUnit) : Except AllocationError Unit := do
  refuseIf (approved.length != echo.length) (.authorityChanged "unit-set")
  checkAll (fun unit => refuseIf (byId echo unit.id != some unit) (.authorityChanged unit.id)) approved

def unitOf (approved : List ApprovedUnit) (id : Id) : Except AllocationError ApprovedUnit :=
  match byId approved id with
  | some unit => .ok unit
  | none => .error (.unknownUnit id)

structure Assigned where
  unitId : Id
  laneId : Id
  place : Nat
deriving DecidableEq

variable (lanes : List AllocationLaneProposal) (approved : List ApprovedUnit)

def assignedUnits : List Assigned :=
  lanes.flatMap fun lane => lane.orderedUnitIds.zipIdx.map fun entry => ⟨entry.1, lane.laneId, entry.2⟩

-- The source keeps a second set of the ids it has seen; it never finds a repetition the first has not found.
def assignmentMap : Except AllocationError (List Assigned) := do
  let _ ← noteAll (fun entry => (unitOf approved entry.unitId).map fun _ => ()) Assigned.unitId
    (fun entry => .duplicateUnit entry.unitId) (fun _ => .ok ()) (assignedUnits lanes)
  return assignedUnits lanes

variable (assigned : List Assigned)

def assignedTo (id : Id) : Option Assigned := assigned.find? fun entry => entry.unitId == id

def validateFutureUnits (future : List FutureUnit) : Except AllocationError Unit := do
  let futureIds ← noteAll
    (fun item => do
      refuseIf (isBlank item.reason) (.futureWithoutReason item.unitId)
      let _ ← unitOf approved item.unitId
      refuseIf (assignedTo assigned item.unitId).isSome (.duplicateUnit item.unitId))
    FutureUnit.unitId (fun item => .duplicateUnit item.unitId) (fun _ => .ok ()) future
  checkAll (fun id => refuseIf ((assignedTo assigned id).isNone && id ∉ futureIds) (.missingUnit id))
    (sortedSet (approved.map ApprovedUnit.id))

def validateLaneContent : Except AllocationError Unit :=
  checkAll (fun lane => do
    let units ← lane.orderedUnitIds.mapM (unitOf approved)
    refuseIf (sortedSet lane.predecessorForwardCriteria != sortedSet (units.flatMap ApprovedUnit.predecessorForwardCriteria))
      (.predecessorGateChanged lane.laneId)
    refuseIf (sortedSet lane.downstreamReleaseEdges != sortedSet (units.flatMap ApprovedUnit.downstreamReleaseEdges))
      (.downstreamEdgeChanged lane.laneId)) lanes

def validateCapacity (policy : AllocationPolicy) : Except AllocationError Unit :=
  let newLanes := lanes.countP fun lane => lane.continueExistingLogicalLane != some true
  refuseIf (policy.activeImplementers + newLanes > policy.parallelCap) .parallelCapExceeded

/-- The wave of a lane; of two lanes with one id the later counts. -/
def requiredWave (laneId : Id) : Except AllocationError Nat :=
  match lanes.reverse.find? fun lane => lane.laneId == laneId with
  | some lane => .ok lane.launchWave
  | none => .error (.laneCycle laneId)

def orderingEdge (entry : Assigned) (dependency : Id) : Except AllocationError (List (Id × Id)) :=
  match assignedTo assigned dependency with
  | none => .ok []
  | some other =>
    if other.laneId = entry.laneId then
      if other.place ≥ entry.place then .error (.unitOrderCreatesCycle entry.unitId) else .ok []
    else do
      let dependencyWave ← requiredWave lanes other.laneId
      let laneWave ← requiredWave lanes entry.laneId
      if dependencyWave > laneWave then .error (.laneCycle entry.laneId) else .ok [(other.laneId, entry.laneId)]

def laneSuccessors (edges : List (Id × Id)) (lane : Id) : Except AllocationError (List Id) :=
  .ok (sortedSet ((edges.filter fun edge => edge.1 == lane).map Prod.snd))

-- Every lane of the graph holds a unit of its own, so a path is at most as long as the plan.
def rejectCycle (edges : List (Id × Id)) : Except AllocationError Unit := do
  let _ ← visitAll (laneSuccessors edges) AllocationError.laneCycle (approved.length + 1) (sortedSet (edges.map Prod.fst))
  return ()

def validateOrdering : Except AllocationError Unit := do
  let inOrder := (sortByKey (assigned.map fun entry => (entry.unitId, entry))).map Prod.snd
  let edges ← inOrder.mapM fun entry => do
    let current ← unitOf approved entry.unitId
    let found ← current.dependencies.mapM (orderingEdge lanes assigned entry)
    return found.flatten
  rejectCycle approved edges.flatten

def maxU32 : Nat := 4294967295

/-- The longest chain of dependencies below a unit.  Without fuel the source would not return. -/
def dependencyDepth (approved : List ApprovedUnit) : Nat → Id → Except AllocationError Nat
  | 0, id => .error (.unknownUnit id)
  | fuel + 1, id => do
    let unit ← unitOf approved id
    unit.dependencies.foldlM
      (fun best dependency => do
        let depth ← dependencyDepth approved fuel dependency
        return max best (min (depth + 1) maxU32)) 0

def canonicalLane (proposal : AllocationLaneProposal) : Except AllocationError CanonicalLane := do
  let units ← proposal.orderedUnitIds.mapM (unitOf approved)
  let firstOperatorOrder ← (units.map ApprovedUnit.operatorOrder).min?.elim (.error (.missingUnit proposal.laneId)) .ok
  let depths ← proposal.orderedUnitIds.mapM (dependencyDepth approved (approved.length + 1))
  let remainingDependencyPath ← depths.max?.elim (.error (.missingUnit proposal.laneId)) .ok
  return {
    proposal := proposal
    remainingDependencyPath := remainingDependencyPath
    firstOperatorOrder := firstOperatorOrder
    capacityClass := "implementer" }

def validateAllocation (submission : AllocationSubmission) (policy : AllocationPolicy) : Except AllocationError CanonicalAllocation := do
  rejectOwnership submission
  validateApprovedUnitAuthority approved
  validateApprovedUnitAuthority submission.authorityEcho
  refuseIf (!(1 ≤ submission.lanes.length && submission.lanes.length ≤ 6)) (.wrongLaneCount submission.lanes.length)
  compareAuthority approved submission.authorityEcho
  let laneByUnit ← assignmentMap submission.lanes approved
  validateFutureUnits approved laneByUnit submission.futureUnits
  validateLaneContent submission.lanes approved
  validateCapacity submission.lanes policy
  validateOrdering submission.lanes approved laneByUnit
  let lanes ← submission.lanes.mapM (canonicalLane approved)
  return { lanes := lanes, futureUnits := submission.futureUnits }

-- What an accepted allocation has passed, apart from the two readings of the authority itself.
structure AllocationPassed (submission : AllocationSubmission) (policy : AllocationPolicy) (allocation : CanonicalAllocation)
    (laneByUnit : List Assigned) : Prop where
  counted : 1 ≤ submission.lanes.length ∧ submission.lanes.length ≤ 6
  compared : compareAuthority approved submission.authorityEcho = .ok ()
  mapped : assignmentMap submission.lanes approved = .ok laneByUnit
  futures : validateFutureUnits approved laneByUnit submission.futureUnits = .ok ()
  capacity : validateCapacity submission.lanes policy = .ok ()
  ordering : validateOrdering submission.lanes approved laneByUnit = .ok ()
  lanes : submission.lanes.mapM (canonicalLane approved) = .ok allocation.lanes

theorem validate_allocation_ok {submission : AllocationSubmission} {policy : AllocationPolicy}
    {allocation : CanonicalAllocation} (accepted : validateAllocation approved submission policy = .ok allocation) :
    ∃ laneByUnit, AllocationPassed approved submission policy allocation laneByUnit := by
  obtain ⟨⟨⟩, -, accepted⟩ := bind_ok accepted
  obtain ⟨⟨⟩, -, accepted⟩ := bind_ok accepted
  obtain ⟨⟨⟩, -, accepted⟩ := bind_ok accepted
  obtain ⟨⟨⟩, counted, accepted⟩ := bind_ok accepted
  obtain ⟨⟨⟩, compared, accepted⟩ := bind_ok accepted
  obtain ⟨laneByUnit, mapped, accepted⟩ := bind_ok accepted
  obtain ⟨⟨⟩, futures, accepted⟩ := bind_ok accepted
  obtain ⟨⟨⟩, -, accepted⟩ := bind_ok accepted
  obtain ⟨⟨⟩, capacity, accepted⟩ := bind_ok accepted
  obtain ⟨⟨⟩, ordering, accepted⟩ := bind_ok accepted
  obtain ⟨lanes, canonical, returned⟩ := bind_ok accepted
  cases returned
  exact ⟨laneByUnit, by simpa using counted, compared, mapped, futures, capacity, ordering, canonical⟩

def runPolicy [BindingJson] (rows : Rows) : AllocationPolicy where
  parallelCap := 8
  activeImplementers := activeImplementers rows

end PiAutopilot.Delivery
