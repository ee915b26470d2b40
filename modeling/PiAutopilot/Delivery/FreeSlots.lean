import PiAutopilot.Delivery.Selection

set_option autoImplicit false

/-! # When a turn finds a lane for a free slot

Live lanes count as active implementers and stand in the window as well.  The schedule fills the open
slots before live lanes are removed, so lanes in flight can take slots a second time. -/

namespace PiAutopilot.Delivery

open EventLog Lib

theorem take_capped_take {cappedClass : String} (cappedOpen : Nat) {items : List WorkItem}
    (capped : ∀ item ∈ items, item.capacityClass = cappedClass) :
    takeCapped cappedClass cappedOpen items = (items.take cappedOpen).map WorkItem.id := by
  induction items generalizing cappedOpen with
  | nil => cases cappedOpen <;> rfl
  | cons item rest ih =>
    have restCapped : ∀ other ∈ rest, other.capacityClass = cappedClass := fun other member => capped other (List.mem_cons_of_mem _ member)
    cases cappedOpen with
    | zero => rw [takeCapped, if_pos (capped item List.mem_cons_self), ih 0 restCapped, List.take_zero, List.take_zero]
    | succ cappedOpen =>
      rw [takeCapped, if_pos (capped item List.mem_cons_self), ih cappedOpen restCapped, List.take_succ_cons, List.map_cons]

def laneReady (rows : Rows) (host : HostFacts) (lane : OpenLane) : Bool :=
  gatesMet rows lane.unit && !hasExactRef rows (blockerRef (approvedLaneId lane.index)).text &&
    !hasExactRef rows (unitActiveRef lane.unit.id).text && host.headResolves

def readyBefore (rows : Rows) (host : HostFacts) (window : List OpenLane) (lane : OpenLane) : Nat :=
  window.countP fun other => laneReady rows host other && decide (other.index < lane.index)

section Slots

variable (workstream : Id) (units : List ApprovedUnit) (rows : Rows) (host : HostFacts) (window : List OpenLane)

def laneItem (canonical : OpenLane → CanonicalLane) (lane : OpenLane) : WorkItem :=
  workItem (canonical lane) (laneReadiness units rows host (laneProposal workstream lane))

variable (plan : ApprovedPlan units) (placed : Placed units window) (canonical : OpenLane → CanonicalLane)
  (returned : ∀ lane ∈ window, canonicalLane units (laneProposal workstream lane) = .ok (canonical lane))

include plan placed in
theorem lane_item_ready {lane : OpenLane} (member : lane ∈ window) :
    (laneItem workstream units rows host canonical lane).readiness.allMet = laneReady rows host lane := by
  have facts := lane_readiness_unit workstream units rows host plan (placed_member units window placed member)
  rw [laneItem, facts]
  simp [workItem, ReadinessFacts.allMet, laneReady]

include returned in
theorem lane_item_named (lane : OpenLane) (member : lane ∈ window) :
    (laneItem workstream units rows host canonical lane).id = approvedLaneId lane.index ∧
      (laneItem workstream units rows host canonical lane).launchWave = lane.index := by
  rw [laneItem, workItem, (canonical_lane_proposal units (returned lane member)).1]
  exact ⟨rfl, rfl⟩

include placed returned in
theorem lane_item_key (left right : OpenLane) (leftIn : left ∈ window) (rightIn : right ∈ window) :
    itemKey (laneItem workstream units rows host canonical left) < itemKey (laneItem workstream units rows host canonical right) ↔
      left.index < right.index := by
  have named := lane_item_named workstream units rows host window canonical returned
  by_cases same : left.index = right.index
  · rw [placed_same_index units window placed leftIn rightIn same]
    exact iff_of_false (lt_irrefl _) (lt_irrefl _)
  · rw [itemKey, itemKey, Prod.Lex.toLex_lt_toLex, (named left leftIn).2, (named right rightIn).2]
    exact or_iff_left fun tie => same tie.1

def windowInput [BindingJson] : DispatchInput where
  lanes := window.map canonical
  readiness := laneReadinessFromEvents (window.map (laneProposal workstream)) units rows host
  activeImplementers := activeImplementers rows
  parallelCap := 8
  resources := host.resources

variable [BindingJson]

include placed returned in
theorem window_items : (windowInput workstream units rows host window canonical).lanes.filterMap (fun lane =>
      (readinessOf (windowInput workstream units rows host window canonical).readiness lane.proposal.laneId).map (workItem lane)) =
    window.map (laneItem workstream units rows host canonical) := by
  have items : window.filterMap (fun lane => (readinessOf (windowInput workstream units rows host window canonical).readiness
      (canonical lane).proposal.laneId).map (workItem (canonical lane))) =
      window.filterMap (some ∘ laneItem workstream units rows host canonical) := by
    refine List.filterMap_congr fun lane member => ?_
    rw [(canonical_lane_proposal units (returned lane member)).1]
    exact congrArg (Option.map (workItem (canonical lane))) (readiness_of_window workstream units rows host placed member)
  rw [List.filterMap_eq_map] at items
  exact List.filterMap_map.trans items

-- The waves of the lanes are their places, so the schedule keeps the plan order and takes the first ready lanes.
include plan placed returned in
theorem mem_select_window (laneId : Id) : laneId ∈ selectReadyLanes (windowInput workstream units rows host window canonical) ↔
      ∃ lane ∈ window, laneReady rows host lane = true ∧
        readyBefore rows host window lane < 8 - activeImplementers rows ∧ approvedLaneId lane.index = laneId := by
  have items := window_items workstream units rows host window placed canonical returned
  have permitted : ((window.map (laneItem workstream units rows host canonical)).filter fun item =>
      item.readiness.allMet && resourcesAllow item.pressurePolicy host.resources) =
      (window.filter (laneReady rows host)).map (laneItem workstream units rows host canonical) := by
    rw [List.filter_map]
    refine congrArg _ (List.filter_congr fun lane member => ?_)
    rw [Function.comp_apply, lane_item_ready workstream units rows host window plan placed canonical member]
    exact Bool.and_true _
  have classes : ∀ item ∈ ((window.filter (laneReady rows host)).map
      (laneItem workstream units rows host canonical)).insertionSort (byKey itemKey), item.capacityClass = "implementer" := by
    intro item member
    rw [List.mem_insertionSort] at member
    obtain ⟨lane, laneIn, rfl⟩ := List.mem_map.mp member
    exact (canonical_lane_proposal units (returned lane (List.mem_filter.mp laneIn).1)).2
  have selected : selectReadyLanes (windowInput workstream units rows host window canonical) =
      ((((window.filter (laneReady rows host)).map (laneItem workstream units rows host canonical)).insertionSort
        (byKey itemKey)).take (8 - activeImplementers rows)).map WorkItem.id := by
    rw [selectReadyLanes, dispatchOrder]
    simp only [items]
    rw [← take_capped_take _ classes, ← permitted]
    rfl
  have distinct : (((window.filter (laneReady rows host)).map (laneItem workstream units rows host canonical)).map itemKey).Nodup := by
    rw [List.map_map]
    refine ((List.Nodup.of_map _ placed.distinct).filter _).map_on fun left leftIn right rightIn same => ?_
    have leftIn := (List.mem_filter.mp leftIn).1
    have rightIn := (List.mem_filter.mp rightIn).1
    have ordered := lane_item_key workstream units rows host window placed canonical returned
    refine placed_same_index units window placed leftIn rightIn (le_antisymm ?_ ?_)
    · exact not_lt.mp fun after => absurd ((ordered right left rightIn leftIn).mpr after) (not_lt_of_ge (le_of_eq same))
    · exact not_lt.mp fun after => absurd ((ordered left right leftIn rightIn).mpr after) (not_lt_of_ge (ge_of_eq same))
  have before : ∀ lane ∈ window, ((window.filter (laneReady rows host)).map (laneItem workstream units rows host canonical)).countP
      (fun other => decide (itemKey other < itemKey (laneItem workstream units rows host canonical lane))) =
      readyBefore rows host window lane := by
    intro lane member
    rw [List.countP_map, List.countP_filter]
    refine List.countP_congr fun other otherIn => ?_
    simp only [Function.comp_apply, Bool.and_eq_true, decide_eq_true_eq]
    rw [lane_item_key workstream units rows host window placed canonical returned other lane otherIn member]
    exact and_comm
  rw [selected, List.mem_map]
  constructor
  · rintro ⟨item, taken, named⟩
    rw [mem_take_insertion_sort itemKey distinct] at taken
    obtain ⟨listed, few⟩ := taken
    obtain ⟨lane, laneIn, rfl⟩ := List.mem_map.mp listed
    obtain ⟨inWindow, ready⟩ := List.mem_filter.mp laneIn
    rw [(lane_item_named workstream units rows host window canonical returned lane inWindow).1] at named
    exact ⟨lane, inWindow, ready, before lane inWindow ▸ few, named⟩
  · rintro ⟨lane, inWindow, ready, few, named⟩
    refine ⟨laneItem workstream units rows host canonical lane, ?_, ?_⟩
    · rw [mem_take_insertion_sort itemKey distinct, before lane inWindow]
      exact ⟨List.mem_map_of_mem (List.mem_filter.mpr ⟨inWindow, ready⟩), few⟩
    · rw [← named]
      exact (lane_item_named workstream units rows host window canonical returned lane inWindow).1

include plan placed in
omit [BindingJson] in
theorem window_canonical {lanes : List CanonicalLane}
    (mapped : (window.map (laneProposal workstream)).mapM (canonicalLane units) = .ok lanes) :
    ∃ canonical : OpenLane → CanonicalLane, (∀ lane ∈ window, canonicalLane units (laneProposal workstream lane) = .ok (canonical lane)) ∧
        lanes = window.map canonical := by
  have ran : window.mapM (fun lane => canonicalLane units (laneProposal workstream lane)) = .ok lanes :=
    (mapM_ok_iff _ _).mpr (List.forall₂_map_left_iff.mp ((mapM_ok_iff _ _).mp mapped))
  have inhabited : ∀ lane ∈ window, Nonempty CanonicalLane := fun lane member =>
    (canonical_lane_returns units plan workstream window placed lane member).nonempty
  cases window with
  | nil => exact ⟨fun lane => ⟨laneProposal workstream lane, 0, 0, ""⟩, nofun, Except.ok.inj ran.symm⟩
  | cons first rest =>
    have some_lane := inhabited first List.mem_cons_self
    choose! canonical returned using canonical_lane_returns units plan workstream (first :: rest) placed
    exact ⟨canonical, returned, Except.ok.inj (ran.symm.trans (mapM_ok_map returned))⟩

theorem plan_lane_facts {lane : OpenLane} (member : lane ∈ planLanes units rows) :
    lane.index < units.length ∧ laneClosed rows (approvedLaneId lane.index) = false ∧
      lane.live = laneIsLive rows (approvedLaneId lane.index) := by
  have bound := placed_bound units _ (plan_lanes_placed units rows) member
  obtain ⟨entry, entryIn, rfl⟩ := List.mem_map.mp member
  exact ⟨bound, by simpa using (List.mem_filter.mp entryIn).2, rfl⟩

end Slots

section Turn

variable [BindingJson] (workstream : Id) (units : List ApprovedUnit) (rows : Rows) (host : HostFacts)

structure SlotReached : Prop where
  approved : validateApprovedUnits units = .ok ()
  readable : ∀ lane ∈ planLanes units rows, LaneReadable rows (approvedLaneId lane.index)
  ordered : WindowInOrder units rows
  fits : WindowFits units rows
  reached : ∃ lane ∈ laneWindow rows (planLanes units rows), lane.live = false ∧ laneReady rows host lane = true ∧
    readyBefore rows host (laneWindow rows (planLanes units rows)) lane < 8 - activeImplementers rows

theorem mem_selected_lanes (approved : validateApprovedUnits units = .ok ()) {lanes : List Id}
    (ran : selectedLanes workstream units rows host = .ok lanes) {laneId : Id} (member : laneId ∈ lanes) :
    ∃ lane ∈ laneWindow rows (planLanes units rows), lane.live = false ∧ laneReady rows host lane = true ∧
      readyBefore rows host (laneWindow rows (planLanes units rows)) lane < 8 - activeImplementers rows := by
  obtain ⟨submission, built, ran⟩ := bind_ok ran
  rw [map_error_ok] at built
  obtain ⟨allocation, accepted, ran⟩ := bind_ok ran
  rw [map_error_ok] at accepted
  have plan := validate_approved_units_ok units approved
  have placed := window_placed units rows
  obtain ⟨_, rfl⟩ := (submission_built units rows approved).mp built
  obtain ⟨canonical, returned, lanesEq⟩ := window_canonical workstream units _ plan placed (validate_allocation_lanes units accepted)
  obtain ⟨inOpen, kept⟩ := keep_m_mem _ _ _ ran member
  have scheduled := (List.mem_filter.mp inOpen).1
  rw [lanesEq] at scheduled
  obtain ⟨lane, inWindow, ready, few, rfl⟩ :=
    (mem_select_window workstream units rows host _ plan placed canonical returned laneId).mp scheduled
  refine ⟨lane, inWindow, ?_, ready, few⟩
  rw [map_error_ok] at kept
  obtain ⟨live, scanned, isIdle⟩ := map_ok kept
  have flagged := (plan_lane_facts units rows ((mem_window units rows).mp inWindow).1).2.2
  rw [flagged, ← live_flag scanned]
  simpa using isIdle.symm

/-- A turn has a lane to dispatch exactly when the schedule reaches a lane without a live delivery. -/
theorem free_slot_used_iff :
    (∃ lanes, selectedLanes workstream units rows host = .ok lanes ∧ lanes ≠ []) ↔ SlotReached units rows host := by
  constructor
  · rintro ⟨lanes, ran, some_lane⟩
    obtain ⟨laneId, member⟩ := List.exists_mem_of_ne_nil lanes some_lane
    obtain ⟨submission, built, continued⟩ := bind_ok ran
    rw [map_error_ok] at built
    obtain ⟨allocation, accepted, -⟩ := bind_ok continued
    rw [map_error_ok] at accepted
    have approved : validateApprovedUnits units = .ok () := (bind_ok built).elim fun _ passed => passed.1
    obtain ⟨lane, inWindow, reached⟩ := mem_selected_lanes workstream units rows host approved ran member
    have facts := plan_lane_facts units rows ((mem_window units rows).mp inWindow).1
    obtain ⟨readable, ordered, fits⟩ := (plan_allocated_iff units rows workstream approved ⟨lane.index, facts.1, facts.2.1⟩).mp
      ⟨submission, allocation, built, accepted⟩
    exact ⟨approved, readable, ordered, fits, lane, inWindow, reached⟩
  · rintro ⟨approved, readable, ordered, fits, lane, inWindow, idle, ready, few⟩
    have plan := validate_approved_units_ok units approved
    have placed := window_placed units rows
    have inPlan := ((mem_window units rows).mp inWindow).1
    have facts := plan_lane_facts units rows inPlan
    obtain ⟨submission, allocation, built, accepted⟩ := (plan_allocated_iff units rows workstream approved
      ⟨lane.index, facts.1, facts.2.1⟩).mpr ⟨readable, ordered, fits⟩
    obtain ⟨_, rfl⟩ := (submission_built units rows approved).mp built
    obtain ⟨canonical, returned, lanesEq⟩ := window_canonical workstream units _ plan placed (validate_allocation_lanes units accepted)
    have chosen := mem_select_window workstream units rows host _ plan placed canonical returned
    obtain ⟨kept, ran, complete⟩ := keep_m_returns
      (fun laneId => ((laneHasLiveDelivery rows laneId).map not).mapError AdvanceError.liveDelivery)
      ((selectReadyLanes (windowInput workstream units rows host (laneWindow rows (planLanes units rows)) canonical)).filter
        fun laneId => !laneClosed rows laneId) (by
        intro laneId member
        obtain ⟨other, otherIn, -, -, rfl⟩ := (chosen laneId).mp (List.mem_filter.mp member).1
        obtain ⟨live, scanned⟩ := (lane_readable rows _).mpr (readable other ((mem_window units rows).mp otherIn).1)
        exact ⟨!live, by rw [scanned]; rfl⟩)
    have keptLane := complete (approvedLaneId lane.index)
      (List.mem_filter.mpr ⟨(chosen _).mpr ⟨lane, inWindow, ready, few, rfl⟩, by simp [facts.2.1]⟩) (by
        obtain ⟨live, scanned⟩ := (lane_readable rows _).mpr (readable lane inPlan)
        have isIdle : live = false := by rw [live_flag scanned, ← facts.2.2, idle]
        rw [scanned, isIdle]
        rfl)
    refine ⟨kept, bind_eq_ok ((map_error_ok).mpr built) (bind_eq_ok ((map_error_ok).mpr accepted) ?_), List.ne_nil_of_mem keptLane⟩
    rw [lanesEq]
    exact ran

end Turn

section Sample

attribute [local instance] sampleBindingJson

def sixUnits : List ApprovedUnit :=
  [sampleUnit "a" 1 "a.rs" [], sampleUnit "b" 2 "b.rs" [], sampleUnit "c" 3 "c.rs" [], sampleUnit "d" 4 "d.rs" [],
    sampleUnit "e" 5 "e.rs" [], sampleUnit "f" 6 "f.rs" []]

def dispatchedRow (laneId : Id) : Row where
  kind := ⟨"agent:spawn"⟩
  refs := [bindingRef ⟨"action-" ++ laneId, "assignment-" ++ laneId, 1, "w", "implementer", some laneId⟩]

def fourLive : Rows := ["L1", "L2", "L3", "L4"].map dispatchedRow

def roomyHost : HostFacts where
  headResolves := true
  resources := ⟨0, 0, 0, 0⟩

/-- Four of six lanes are live and two are ready, with four of the eight places taken: the live lanes are
selected again, removed, and nothing is left. -/
theorem four_live_lanes_starve : validateApprovedUnits sixUnits = .ok () ∧ (planLanes sixUnits fourLive).countP OpenLane.live = 4 ∧
      activeImplementers fourLive = 4 ∧
      (∃ lane ∈ laneWindow fourLive (planLanes sixUnits fourLive), lane.live = false ∧ laneReady fourLive roomyHost lane = true) ∧
      selectedLanes "w" sixUnits fourLive roomyHost = .ok [] := by
  decide +kernel

end Sample

end PiAutopilot.Delivery
