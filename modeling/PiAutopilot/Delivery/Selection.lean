import PiAutopilot.Delivery.AllocationAccepted
import PiAutopilot.Delivery.Dispatch

set_option autoImplicit false

/-! # What a selected lane has passed, and when a lane is selected -/

namespace PiAutopilot.Delivery

open EventLog Lib

section Selection

variable (workstream : Id) (units : List ApprovedUnit) (rows : Rows) (host : HostFacts)

theorem canonical_lane_proposal {proposal : AllocationLaneProposal} {canonical : CanonicalLane}
    (returned : canonicalLane units proposal = .ok canonical) :
    canonical.proposal = proposal ∧ canonical.capacityClass = "implementer" := by
  obtain ⟨_, _, continued⟩ := bind_ok returned
  obtain ⟨_, _, continued⟩ := bind_ok continued
  obtain ⟨_, _, continued⟩ := bind_ok continued
  obtain ⟨_, _, returned⟩ := bind_ok continued
  cases returned
  exact ⟨rfl, rfl⟩

theorem validate_allocation_lanes {submission : AllocationSubmission} {policy : AllocationPolicy}
    {allocation : CanonicalAllocation} (accepted : validateAllocation units submission policy = .ok allocation) :
    submission.lanes.mapM (canonicalLane units) = .ok allocation.lanes :=
  have ⟨_, passed⟩ := validate_allocation_ok units accepted
  passed.lanes

theorem find_unit (distinct : (units.map ApprovedUnit.id).Nodup) {unit : ApprovedUnit} (member : unit ∈ units) :
    units.find? (fun other => other.id == unit.id) = some unit := by
  cases found : units.find? fun other => other.id == unit.id with
  | none =>
    have missing := List.find?_eq_none.mp found unit member
    simp at missing
  | some other =>
    have named : other.id = unit.id := by simpa using List.find?_some found
    rw [List.inj_on_of_nodup_map distinct (List.mem_of_find?_eq_some found) member named]

theorem lane_readiness_unit (plan : ApprovedPlan units) {lane : OpenLane} (member : lane.unit ∈ units) :
    laneReadiness units rows host (laneProposal workstream lane) =
      { laneId := approvedLaneId lane.index
        predecessorGatesMet := gatesMet rows lane.unit
        blockersClear := !hasExactRef rows (blockerRef (approvedLaneId lane.index)).text
        unitFree := !hasExactRef rows (unitActiveRef lane.unit.id).text
        routeReady := true
        preflightPassed := host.headResolves
        pressureDelay := false } := by
  simp [laneReadiness, laneProposal, find_unit units plan.distinct member]

theorem readiness_of_window {window : List OpenLane} (placed : Placed units window) {lane : OpenLane} (member : lane ∈ window) :
    readinessOf (laneReadinessFromEvents (window.map (laneProposal workstream)) units rows host) (approvedLaneId lane.index) =
      some (laneReadiness units rows host (laneProposal workstream lane)) := by
  rw [readinessOf, laneReadinessFromEvents]
  cases found : List.find? _ _ with
  | none =>
    have missing := List.find?_eq_none.mp found (laneReadiness units rows host (laneProposal workstream lane))
      (List.mem_reverse.mpr (List.mem_map_of_mem (List.mem_map_of_mem member)))
    simp [laneReadiness, laneProposal] at missing
  | some facts =>
    have listed := List.mem_reverse.mp (List.mem_of_find?_eq_some found)
    rw [List.map_map] at listed
    obtain ⟨other, otherIn, rfl⟩ := List.mem_map.mp listed
    have named : approvedLaneId other.index = approvedLaneId lane.index := by
      simpa [laneReadiness, laneProposal] using List.find?_some found
    rw [placed_same_index units window placed otherIn member (approved_lane_id_inj _ named)]
    rfl

variable [BindingJson]

structure Selected (lane : OpenLane) : Prop where
  inWindow : InWindow units rows lane
  gates : gatesMet rows lane.unit = true
  unblocked : hasExactRef rows (blockerRef (approvedLaneId lane.index)).text = false
  opened : laneClosed rows (approvedLaneId lane.index) = false
  idle : laneHasLiveDelivery rows (approvedLaneId lane.index) = .ok false

theorem selected_lane {lanes : List Id} (ran : selectedLanes workstream units rows host = .ok lanes) {laneId : Id}
    (member : laneId ∈ lanes) : ∃ lane, laneId = approvedLaneId lane.index ∧ Selected units rows lane := by
  obtain ⟨submission, built, ran⟩ := bind_ok ran
  rw [map_error_ok] at built
  obtain ⟨allocation, accepted, ran⟩ := bind_ok ran
  rw [map_error_ok] at accepted
  have approved : validateApprovedUnits units = .ok () := (bind_ok built).elim fun _ passed => passed.1
  have plan := validate_approved_units_ok units approved
  have placed := window_placed units rows
  obtain ⟨_, rfl⟩ := (submission_built units rows approved).mp built
  obtain ⟨inOpen, kept⟩ := keep_m_mem _ _ _ ran member
  obtain ⟨scheduled, opened⟩ := List.mem_filter.mp inOpen
  obtain ⟨canonical, canonicalIn, named, facts, found, ready⟩ := select_ready_lanes_mem scheduled
  obtain ⟨proposal, proposalIn, returned⟩ := mapM_ok_source (validate_allocation_lanes units accepted) canonical canonicalIn
  obtain ⟨lane, laneIn, rfl⟩ := List.mem_map.mp proposalIn
  rw [(canonical_lane_proposal units returned).1] at named
  have laneIdEq : approvedLaneId lane.index = laneId := named
  subst laneIdEq
  have unitIn := placed_member units _ placed laneIn
  have expected := readiness_of_window workstream units rows host placed laneIn
  rw [lane_readiness_unit workstream units rows host plan unitIn] at expected
  have factsEq := Option.some.inj (found.symm.trans expected)
  subst factsEq
  simp only [workItem, ReadinessFacts.allMet, Bool.and_eq_true, Bool.not_eq_true'] at ready
  rw [map_error_ok] at kept
  obtain ⟨live, scanned, isIdle⟩ := map_ok kept
  refine ⟨lane, rfl, (mem_window units rows).mp laneIn, ready.1.1.1.1.1, ready.1.1.1.1.2, by simpa using opened, ?_⟩
  rw [scanned]
  cases live with
  | false => rfl
  | true => cases isIdle

theorem lane_selected (approved : validateApprovedUnits units = .ok ())
    (isOpen : ∃ index < units.length, laneClosed rows (approvedLaneId index) = false)
    (readable : ∀ laneId, ∃ live, laneHasLiveDelivery rows laneId = .ok live) (ordered : WindowInOrder units rows)
    (idle : activeImplementers rows = 0) (head : host.headResolves = true) {lane : OpenLane}
    (inWindow : InWindow units rows lane) (gates : gatesMet rows lane.unit = true)
    (unblocked : hasExactRef rows (blockerRef (approvedLaneId lane.index)).text = false)
    (free : hasExactRef rows (unitActiveRef lane.unit.id).text = false)
    (opened : laneClosed rows (approvedLaneId lane.index) = false)
    (laneIdle : laneHasLiveDelivery rows (approvedLaneId lane.index) = .ok false) :
    ∃ lanes, selectedLanes workstream units rows host = .ok lanes ∧ approvedLaneId lane.index ∈ lanes := by
  have plan := validate_approved_units_ok units approved
  have placed := window_placed units rows
  have laneIn := (mem_window units rows).mpr inWindow
  have few := window_length units rows isOpen
  have fits : WindowFits units rows := by
    have counted : (laneWindow rows (planLanes units rows)).countP (fun lane => !lane.live) ≤ _ := List.countP_le_length
    rw [WindowFits, ← window_count]
    omega
  obtain ⟨submission, allocation, built, accepted⟩ := (plan_allocated_iff units rows workstream approved isOpen).mpr
    ⟨fun lane _ => (lane_readable rows _).mp (readable _), ordered, fits⟩
  obtain ⟨_, rfl⟩ := (submission_built units rows approved).mp built
  have mapped := validate_allocation_lanes units accepted
  obtain ⟨canonical, canonicalIn, returned⟩ := mapM_ok_mem mapped _ (List.mem_map_of_mem laneIn)
  have proposalEq := (canonical_lane_proposal units returned).1
  have unitIn := placed_member units _ placed laneIn
  have found := readiness_of_window workstream units rows host placed laneIn
  have factsEq := lane_readiness_unit workstream units rows host plan unitIn
  have scheduled : canonical.proposal.laneId ∈ selectReadyLanes
      { lanes := allocation.lanes
        readiness := laneReadinessFromEvents (submissionOf workstream units rows (laneWindow rows (planLanes units rows))).lanes
          units rows host
        activeImplementers := activeImplementers rows
        parallelCap := 8
        resources := host.resources } := by
    refine select_ready_lanes_all _ ?_ canonical canonicalIn (laneReadiness units rows host (laneProposal workstream lane)) ?_ ?_ rfl
    · have sameLength := ((mapM_ok_iff _ _).mp mapped).length_eq
      simp only [idle, ← sameLength, submissionOf, List.length_map]
      omega
    · rw [proposalEq]
      exact found
    · rw [factsEq]
      simp [workItem, ReadinessFacts.allMet, gates, unblocked, free, head]
  rw [proposalEq] at scheduled
  obtain ⟨kept, ran, complete⟩ := keep_m_returns
    (fun laneId => ((laneHasLiveDelivery rows laneId).map not).mapError AdvanceError.liveDelivery) _ (by
      intro laneId _
      obtain ⟨live, scanned⟩ := readable laneId
      exact ⟨!live, by rw [scanned]; rfl⟩)
  refine ⟨kept, bind_eq_ok ((map_error_ok).mpr built) (bind_eq_ok ((map_error_ok).mpr accepted) ran), ?_⟩
  refine complete _ (List.mem_filter.mpr ⟨scheduled, by simp [opened]⟩) ?_
  rw [laneIdle]
  rfl

end Selection

end PiAutopilot.Delivery
