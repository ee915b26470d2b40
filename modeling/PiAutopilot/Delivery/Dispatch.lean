import Mathlib.Order.Basic
import PiAutopilot.Delivery.Allocation

set_option autoImplicit false

/-! # Dispatch order and the lanes a run selects -/

namespace PiAutopilot.Delivery

open EventLog Lib

structure ReadinessFacts where
  predecessorGatesMet : Bool
  blockersClear : Bool
  unitFree : Bool
  baseReady : Bool
  routeReady : Bool
  preflightPassed : Bool
deriving DecidableEq

def ReadinessFacts.allMet (facts : ReadinessFacts) : Bool :=
  facts.predecessorGatesMet && facts.blockersClear && facts.unitFree && facts.baseReady && facts.routeReady &&
    facts.preflightPassed

inductive PressurePolicy where
  | delayWhenPressed
  | permitWhenPressed
deriving DecidableEq

def gib : Nat := 1024 * 1024 * 1024

structure ResourceFacts where
  freeStorageBytes : Nat
  projectedStorageBytes : Nat
  availableMemoryBytes : Nat
  physicalMemoryBytes : Nat
deriving DecidableEq

def storageFloor (projectedStorageBytes : Nat) : Nat := max (5 * gib) (min (projectedStorageBytes * 2) 18446744073709551615)

def memoryFloor (physicalMemoryBytes : Nat) : Nat := max (2 * gib) (physicalMemoryBytes / 10)

def ResourceFacts.pressed (facts : ResourceFacts) : Bool :=
  facts.freeStorageBytes < storageFloor facts.projectedStorageBytes ||
    facts.availableMemoryBytes < memoryFloor facts.physicalMemoryBytes

def resourcesAllow (policy : PressurePolicy) (resources : ResourceFacts) : Bool :=
  match policy with
  | .delayWhenPressed => !resources.pressed
  | .permitWhenPressed => true

structure WorkItem where
  id : Id
  capacityClass : String
  launchWave : Nat
  remainingDependencyPath : Nat
  unitOrder : Nat
  readiness : ReadinessFacts
  pressurePolicy : PressurePolicy
deriving DecidableEq

def itemKey (item : WorkItem) : Nat ×ₗ Natᵒᵈ ×ₗ Nat ×ₗ String :=
  toLex (item.launchWave, toLex (OrderDual.toDual item.remainingDependencyPath, toLex (item.unitOrder, item.id)))

structure ScheduleView where
  parallelCap : Nat
  cappedClass : String
  activeCapped : Nat
  resources : ResourceFacts
  items : List WorkItem

def takeCapped (cappedClass : String) : Nat → List WorkItem → List Id
  | _, [] => []
  | cappedOpen, item :: rest =>
    if item.capacityClass = cappedClass then
      match cappedOpen with
      | 0 => takeCapped cappedClass 0 rest
      | cappedOpen + 1 => item.id :: takeCapped cappedClass cappedOpen rest
    else item.id :: takeCapped cappedClass cappedOpen rest

def dispatchOrder (view : ScheduleView) : List Id :=
  let ready := view.items.filter fun item =>
    item.readiness.allMet && resourcesAllow item.pressurePolicy view.resources
  takeCapped view.cappedClass (view.parallelCap - view.activeCapped) (ready.insertionSort (byKey itemKey))

structure LaneReadiness where
  laneId : Id
  predecessorGatesMet : Bool
  blockersClear : Bool
  unitFree : Bool
  routeReady : Bool
  preflightPassed : Bool
  pressureDelay : Bool
deriving DecidableEq

structure DispatchInput where
  lanes : List CanonicalLane
  readiness : List LaneReadiness
  activeImplementers : Nat
  parallelCap : Nat
  resources : ResourceFacts

def workItem (lane : CanonicalLane) (facts : LaneReadiness) : WorkItem where
  id := lane.proposal.laneId
  capacityClass := lane.capacityClass
  launchWave := lane.proposal.launchWave
  remainingDependencyPath := lane.remainingDependencyPath
  unitOrder := lane.firstOperatorOrder
  readiness :=
    { predecessorGatesMet := facts.predecessorGatesMet
      blockersClear := facts.blockersClear
      unitFree := facts.unitFree
      baseReady := true
      routeReady := facts.routeReady
      preflightPassed := facts.preflightPassed }
  pressurePolicy := if facts.pressureDelay then .delayWhenPressed else .permitWhenPressed

def readinessOf (readiness : List LaneReadiness) (laneId : Id) : Option LaneReadiness :=
  readiness.reverse.find? fun facts => facts.laneId == laneId

def selectReadyLanes (input : DispatchInput) : List Id :=
  dispatchOrder
    { parallelCap := input.parallelCap
      cappedClass := "implementer"
      activeCapped := input.activeImplementers
      resources := input.resources
      items := input.lanes.filterMap fun lane =>
        (readinessOf input.readiness lane.proposal.laneId).map (workItem lane) }

structure HostFacts where
  headResolves : Bool
  resources : ResourceFacts

def blockerRef (laneId : Id) : Ref := ⟨"blocker:" ++ laneId⟩

def unitActiveRef (unitId : Id) : Ref := ⟨"unit-active:" ++ unitId⟩

def laneReadiness (units : List ApprovedUnit) (rows : Rows) (host : HostFacts) (lane : AllocationLaneProposal) : LaneReadiness where
  laneId := lane.laneId
  predecessorGatesMet :=
    (lane.orderedUnitIds.filterMap fun id => units.find? fun unit => unit.id == id).all (gatesMet rows)
  blockersClear := !hasExactRef rows (blockerRef lane.laneId).text
  unitFree := lane.orderedUnitIds.all fun unit => !hasExactRef rows (unitActiveRef unit).text
  routeReady := true
  preflightPassed := host.headResolves
  pressureDelay := false

def laneReadinessFromEvents (lanes : List AllocationLaneProposal) (units : List ApprovedUnit) (rows : Rows)
    (host : HostFacts) : List LaneReadiness :=
  lanes.map (laneReadiness units rows host)

inductive AdvanceError where
  | contextGap (text : String)
  | allocation (error : AllocationError)
  | liveDelivery (text : String)
deriving DecidableEq

/-- The lanes a turn may dispatch: what the schedule selects, without closed lanes and lanes with a live
delivery.  A run dispatches the first of them. -/
def selectedLanes [BindingJson] (workstream : Id) (units : List ApprovedUnit) (rows : Rows) (host : HostFacts) :
    Except AdvanceError (List Id) := do
  let submission ← (allocationSubmissionFromPlan workstream units rows).mapError .contextGap
  let allocation ← (validateAllocation units submission (runPolicy rows)).mapError .allocation
  let selected := selectReadyLanes
    { lanes := allocation.lanes
      readiness := laneReadinessFromEvents submission.lanes units rows host
      activeImplementers := activeImplementers rows
      parallelCap := 8
      resources := host.resources }
  keepM (fun laneId => ((laneHasLiveDelivery rows laneId).map not).mapError .liveDelivery)
    (selected.filter fun laneId => !laneClosed rows laneId)

theorem take_capped_mem (cappedClass : String) (cappedOpen : Nat) (items : List WorkItem) (id : Id)
    (selected : id ∈ takeCapped cappedClass cappedOpen items) : ∃ item ∈ items, item.id = id := by
  induction items generalizing cappedOpen with
  | nil => cases selected
  | cons item rest ih =>
    have later : ∀ count, id ∈ takeCapped cappedClass count rest → ∃ other ∈ item :: rest, other.id = id := by
      intro count member
      obtain ⟨other, otherIn, named⟩ := ih count member
      exact ⟨other, List.mem_cons_of_mem _ otherIn, named⟩
    rw [takeCapped.eq_def] at selected
    simp only at selected
    split at selected
    · split at selected
      · exact later _ selected
      · rcases List.mem_cons.mp selected with rfl | inRest
        · exact ⟨item, List.mem_cons_self, rfl⟩
        · exact later _ inRest
    · rcases List.mem_cons.mp selected with rfl | inRest
      · exact ⟨item, List.mem_cons_self, rfl⟩
      · exact later _ inRest

-- With a place for every item nothing is left out.
theorem take_capped_all (cappedClass : String) (cappedOpen : Nat) (items : List WorkItem)
    (enough : items.length ≤ cappedOpen) (item : WorkItem) (member : item ∈ items) :
    item.id ∈ takeCapped cappedClass cappedOpen items := by
  induction items generalizing cappedOpen with
  | nil => cases member
  | cons head rest ih =>
    cases cappedOpen with
    | zero => exact absurd enough (by simp)
    | succ cappedOpen =>
      rw [takeCapped]
      rw [List.length_cons] at enough
      split
      · rcases List.mem_cons.mp member with rfl | inRest
        · exact List.mem_cons_self
        · exact List.mem_cons_of_mem _ (ih cappedOpen (by omega) inRest)
      · rcases List.mem_cons.mp member with rfl | inRest
        · exact List.mem_cons_self
        · exact List.mem_cons_of_mem _ (ih (cappedOpen + 1) (by omega) inRest)

theorem select_ready_lanes_mem {input : DispatchInput} {laneId : Id} (selected : laneId ∈ selectReadyLanes input) :
    ∃ lane ∈ input.lanes, lane.proposal.laneId = laneId ∧ ∃ facts, readinessOf input.readiness laneId = some facts ∧
      (workItem lane facts).readiness.allMet = true := by
  obtain ⟨item, itemIn, named⟩ := take_capped_mem _ _ _ _ selected
  rw [List.mem_insertionSort, List.mem_filter] at itemIn
  obtain ⟨listed, ready⟩ := itemIn
  obtain ⟨lane, laneIn, mapped⟩ := List.mem_filterMap.mp listed
  obtain ⟨facts, found, rfl⟩ := Option.map_eq_some_iff.mp mapped
  have sameId : lane.proposal.laneId = laneId := named
  rw [Bool.and_eq_true] at ready
  exact ⟨lane, laneIn, sameId, facts, sameId ▸ found, ready.1⟩

theorem select_ready_lanes_all (input : DispatchInput)
    (enough : input.lanes.length ≤ input.parallelCap - input.activeImplementers) (lane : CanonicalLane)
    (laneIn : lane ∈ input.lanes) (facts : LaneReadiness)
    (found : readinessOf input.readiness lane.proposal.laneId = some facts)
    (ready : (workItem lane facts).readiness.allMet = true) (undelayed : facts.pressureDelay = false) :
    lane.proposal.laneId ∈ selectReadyLanes input := by
  refine take_capped_all _ _ _ ?_ (workItem lane facts) ?_
  · rw [List.length_insertionSort]
    exact (List.length_filter_le _ _).trans ((List.length_filterMap_le _ _).trans enough)
  · rw [List.mem_insertionSort, List.mem_filter]
    refine ⟨List.mem_filterMap.mpr ⟨lane, laneIn, by rw [found]; rfl⟩, ?_⟩
    rw [ready]
    simp [workItem, undelayed, resourcesAllow]

end PiAutopilot.Delivery
