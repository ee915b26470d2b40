import PiAutopilot.Delivery.Allocation

set_option autoImplicit false

/-! # When the built submission is accepted

The submission repeats the plan, so all but two checks of the validator pass by construction.  The
lane waves are plan positions, and the cap counts implementers of every workstream: these two checks
can refuse an approved plan. -/

namespace PiAutopilot.Delivery

open EventLog Lib

theorem approved_lane_id_inj (left : Nat) {right : Nat} (same : approvedLaneId left = approvedLaneId right) : left = right := by
  have next := decimal_inj ((append_left_inj).mp same)
  omega

structure Placed (units : List ApprovedUnit) (lanes : List OpenLane) : Prop where
  unit : ∀ lane ∈ lanes, units[lane.index]? = some lane.unit
  distinct : (lanes.map OpenLane.index).Nodup

section Window

variable (units : List ApprovedUnit) (plan : ApprovedPlan units) (workstream : Id) (window : List OpenLane)
  (placed : Placed units window) {lane : OpenLane} {id : Id} {rows : Rows} {edges : List (Id × Id)}

include placed

theorem placed_member (member : lane ∈ window) : lane.unit ∈ units := List.mem_of_getElem? (placed.unit lane member)

theorem placed_bound (member : lane ∈ window) : lane.index < units.length :=
  (List.getElem?_eq_some_iff.mp (placed.unit lane member)).1

theorem placed_same_index {left right : OpenLane} (leftIn : left ∈ window) (rightIn : right ∈ window)
    (same : left.index = right.index) : left = right :=
  List.inj_on_of_nodup_map placed.distinct leftIn rightIn same

omit placed

include plan placed in
theorem placed_same_unit {left right : OpenLane} (leftIn : left ∈ window) (rightIn : right ∈ window)
    (same : left.unit.id = right.unit.id) : left = right := by
  refine placed_same_index units window placed leftIn rightIn ?_
  have bound : left.index < (units.map ApprovedUnit.id).length := by
    rw [List.length_map]
    exact placed_bound units window placed leftIn
  refine (List.getElem?_inj bound plan.distinct).mp ?_
  rw [List.getElem?_map, List.getElem?_map, placed.unit left leftIn, placed.unit right rightIn]
  exact congrArg some same

include plan placed in
theorem placed_ids_nodup : (window.map fun lane => lane.unit.id).Nodup := by
  have nodup := List.Nodup.of_map _ placed.distinct
  exact (List.nodup_map_iff_inj_on nodup).mpr fun left leftIn right rightIn =>
    placed_same_unit units plan window placed leftIn rightIn

def assignment (lane : OpenLane) : Assigned where
  unitId := lane.unit.id
  laneId := approvedLaneId lane.index
  place := 0

theorem assigned_window : assignedUnits (window.map (laneProposal workstream)) = window.map assignment := by
  induction window with
  | nil => rfl
  | cons lane rest ih =>
    rw [List.map_cons, assignedUnits, List.flatMap_cons, ← assignedUnits, ih]
    rfl

include plan placed in
theorem unit_of_window (member : lane ∈ window) : unitOf units lane.unit.id = .ok lane.unit := by
  rw [unitOf, by_id_unit units plan.distinct (placed_member units window placed member)]

theorem unit_of_known (known : id ∈ units.map ApprovedUnit.id) : ∃ unit ∈ units, unit.id = id ∧ unitOf units id = .ok unit := by
  obtain ⟨unit, member, named, found⟩ := by_id_known units known
  exact ⟨unit, member, named, by rw [unitOf, found]⟩

include plan placed in
theorem assignment_map_window : assignmentMap (window.map (laneProposal workstream)) units = .ok (window.map assignment) := by
  rw [assignmentMap, assigned_window]
  refine bind_eq_ok (note_all_succeeds ?_ ?_) rfl
  · rw [List.map_map]
    exact placed_ids_nodup units plan window placed
  · intro entry member
    obtain ⟨lane, laneIn, rfl⟩ := List.mem_map.mp member
    refine ⟨?_, rfl⟩
    show (unitOf units lane.unit.id).map _ = _
    rw [unit_of_window units plan window placed laneIn]
    rfl

include plan placed in
theorem assigned_to_window (member : lane ∈ window) : assignedTo (window.map assignment) lane.unit.id = some (assignment lane) := by
  cases found : assignedTo (window.map assignment) lane.unit.id with
  | none =>
    have missing := List.find?_eq_none.mp found (assignment lane) (List.mem_map_of_mem member)
    simp [assignment] at missing
  | some entry =>
    obtain ⟨other, otherIn, rfl⟩ := List.mem_map.mp (List.mem_of_find?_eq_some found)
    have named := List.find?_some found
    have same : other.unit.id = lane.unit.id := by simpa [assignment] using named
    rw [placed_same_unit units plan window placed otherIn member same]

theorem assigned_to_mem {entry : Assigned} (found : assignedTo (window.map assignment) id = some entry) :
    ∃ lane ∈ window, lane.unit.id = id ∧ entry = assignment lane := by
  obtain ⟨lane, laneIn, same⟩ := List.mem_map.mp (List.mem_of_find?_eq_some found)
  have named := List.find?_some found
  exact ⟨lane, laneIn, by simpa [← same, assignment] using named, same.symm⟩

theorem assigned_to_isSome : (assignedTo (window.map assignment) id).isSome = true ↔ id ∈ window.map fun lane => lane.unit.id := by
  rw [assignedTo, List.find?_isSome, List.mem_map]
  constructor
  · rintro ⟨entry, member, named⟩
    obtain ⟨lane, laneIn, rfl⟩ := List.mem_map.mp member
    exact ⟨lane, laneIn, by simpa [assignment] using named⟩
  · rintro ⟨lane, laneIn, named⟩
    exact ⟨assignment lane, List.mem_map_of_mem laneIn, by simpa [assignment] using named⟩

theorem future_reason_given {index : Nat} : isBlank (futureReason rows index) = false := by
  rw [futureReason]
  split <;> decide

include plan in
theorem future_units_window :
    validateFutureUnits units (window.map assignment) (submissionOf workstream units rows window).futureUnits = .ok () := by
  have listed : (submissionOf workstream units rows window).futureUnits.map FutureUnit.unitId =
      (units.map ApprovedUnit.id).filter fun id => id ∉ window.map fun lane => lane.unit.id := by
    rw [submissionOf, List.map_map, List.filter_map]
    have outOfIndex := congrArg (List.map ApprovedUnit.id) (List.filter_map (l := units.zipIdx) (f := Prod.fst)
      (p := fun unit => decide (unit.id ∉ window.map fun lane => lane.unit.id)))
    rw [List.zipIdx_map_fst] at outOfIndex
    rw [List.map_map] at outOfIndex
    exact outOfIndex.symm
  refine bind_eq_ok (note_all_succeeds ?_ ?_) ?_
  · rw [listed]
    exact plan.distinct.filter _
  · intro item member
    have idIn : item.unitId ∈ (units.map ApprovedUnit.id).filter fun id => id ∉ window.map fun lane => lane.unit.id := by
      rw [← listed]
      exact List.mem_map_of_mem member
    obtain ⟨known, unscheduled⟩ := List.mem_filter.mp idIn
    obtain ⟨entry, _, rfl⟩ := List.mem_map.mp member
    obtain ⟨unit, _, _, found⟩ := unit_of_known units known
    refine ⟨?_, rfl⟩
    refine bind_eq_ok ((refuse_if_ok).mpr (future_reason_given)) (bind_eq_ok found ?_)
    rw [refuse_if_ok, Bool.eq_false_iff, Ne, assigned_to_isSome]
    simpa using unscheduled
  · rw [check_all_ok, listed]
    intro id member
    rw [mem_sorted_set] at member
    rw [refuse_if_ok, Bool.and_eq_false_iff]
    by_cases scheduled : id ∈ window.map fun lane => lane.unit.id
    · left
      rw [Option.isNone_eq_false_iff]
      exact (assigned_to_isSome window).mpr scheduled
    · right
      rw [decide_eq_false_iff_not, Classical.not_not, List.mem_reverse]
      exact List.mem_filter.mpr ⟨member, decide_eq_true scheduled⟩

include plan placed in
theorem lane_content_window : validateLaneContent (window.map (laneProposal workstream)) units = .ok () := by
  rw [validateLaneContent, check_all_ok]
  intro proposal member
  obtain ⟨lane, laneIn, rfl⟩ := List.mem_map.mp member
  have units_eq : (laneProposal workstream lane).orderedUnitIds.mapM (unitOf units) = .ok [lane.unit] := by
    rw [mapM_ok_iff]
    exact .cons (unit_of_window units plan window placed laneIn) .nil
  refine bind_eq_ok units_eq (bind_eq_ok ((refuse_if_ok).mpr ?_) ((refuse_if_ok).mpr ?_))
  · simp [laneProposal]
  · simp [laneProposal]

theorem compare_authority_self (distinct : (units.map ApprovedUnit.id).Nodup) : compareAuthority units units = .ok () := by
  refine bind_eq_ok ((refuse_if_ok).mpr (by simp)) ((check_all_ok).mpr ?_)
  intro unit member
  rw [by_id_unit units distinct member]
  simp

include plan in
theorem unit_authority_plan : validateApprovedUnitAuthority units = .ok () := by
  rw [validateApprovedUnitAuthority, check_all_ok]
  intro unit member
  rw [check_all_ok]
  intro command commandIn
  rw [map_error_ok]
  exact plan.commands unit member command commandIn

include plan in
theorem dependency_depth_returns (rank : Id → Nat) (ordered : Ordered units rank) (fuel : Nat) (id : Id)
    (known : id ∈ units.map ApprovedUnit.id) (enough : rank id < fuel) :
    ∃ depth, dependencyDepth units fuel id = .ok depth := by
  induction fuel generalizing id with
  | zero => exact absurd enough (Nat.not_lt_zero _)
  | succ fuel ih =>
    obtain ⟨unit, member, rfl, found⟩ := unit_of_known units known
    have below : ∀ dependency ∈ unit.dependencies, ∀ best : Nat, ∃ next, (do
        let depth ← dependencyDepth units fuel dependency
        return max best (min (depth + 1) maxU32) : Except AllocationError Nat) = .ok next := by
      intro dependency depends best
      have falls := ordered.falls unit member dependency depends
      obtain ⟨depth, returned⟩ := ih dependency (plan.known unit member dependency depends) (by omega)
      exact ⟨_, bind_eq_ok returned rfl⟩
    obtain ⟨depth, folded⟩ := foldlM_succeeds below 0
    exact ⟨depth, bind_eq_ok found folded⟩

include plan placed in
theorem canonical_lane_returns (lane : OpenLane) (member : lane ∈ window) :
    ∃ canonical, canonicalLane units (laneProposal workstream lane) = .ok canonical := by
  obtain ⟨rank, ordered⟩ := plan.ordered
  have unitIn := placed_member units window placed member
  have few := ordered.bounded lane.unit unitIn
  obtain ⟨depth, returned⟩ := dependency_depth_returns units plan rank ordered (units.length + 1) lane.unit.id
    (List.mem_map_of_mem unitIn) (by omega)
  have unitsEq : (laneProposal workstream lane).orderedUnitIds.mapM (unitOf units) = .ok [lane.unit] := by
    rw [mapM_ok_iff]
    exact .cons (unit_of_window units plan window placed member) .nil
  have depthsEq : (laneProposal workstream lane).orderedUnitIds.mapM (dependencyDepth units (units.length + 1)) = .ok [depth] := by
    rw [mapM_ok_iff]
    exact .cons returned .nil
  exact ⟨_, bind_eq_ok unitsEq (bind_eq_ok rfl (bind_eq_ok depthsEq (bind_eq_ok rfl rfl)))⟩

def DependenciesFirst : Prop := ∀ lane ∈ window, ∀ other ∈ window, other.unit.id ∈ lane.unit.dependencies → other.index < lane.index

theorem capacity_window (policy : AllocationPolicy) : validateCapacity (window.map (laneProposal workstream)) policy = .ok () ↔
      policy.activeImplementers + window.countP (fun lane => !lane.live) ≤ policy.parallelCap := by
  have counted : (window.map (laneProposal workstream)).countP
      (fun lane => lane.continueExistingLogicalLane != some true) = window.countP fun lane => !lane.live := by
    rw [List.countP_map]
    refine List.countP_congr fun lane _ => ?_
    cases live : lane.live <;> simp [laneProposal, live]
  rw [validateCapacity, counted, refuse_if_ok, decide_eq_false_iff_not, Nat.not_lt]

theorem required_wave_window (member : lane ∈ window) :
    requiredWave (window.map (laneProposal workstream)) (approvedLaneId lane.index) = .ok lane.index := by
  rw [requiredWave]
  split
  · rename_i proposal found
    obtain ⟨other, _, rfl⟩ := List.mem_map.mp (List.mem_reverse.mp (List.mem_of_find?_eq_some found))
    have named := List.find?_some found
    have same : approvedLaneId other.index = approvedLaneId lane.index := by simpa [laneProposal] using named
    rw [← approved_lane_id_inj _ same]
    rfl
  · rename_i missing
    have absent := List.find?_eq_none.mp missing (laneProposal workstream lane) (List.mem_reverse.mpr (List.mem_map_of_mem member))
    simp [laneProposal] at absent

def Forward (edge : Id × Id) : Prop :=
  ∃ first ∈ window, ∃ second ∈ window, first.index < second.index ∧
    edge = (approvedLaneId first.index, approvedLaneId second.index)

def edgeStep (lane : OpenLane) (dependency : Id) : Except AllocationError (List (Id × Id)) :=
  orderingEdge (window.map (laneProposal workstream)) (window.map assignment) (assignment lane) dependency

include plan placed in
theorem edge_step_other {other : OpenLane} (member : lane ∈ window) (otherIn : other ∈ window)
    (depends : other.unit.id ∈ lane.unit.dependencies) :
    edgeStep workstream window lane other.unit.id =
      if other.index > lane.index then .error (.laneCycle (approvedLaneId lane.index))
      else .ok [(approvedLaneId other.index, approvedLaneId lane.index)] := by
  obtain ⟨rank, ordered⟩ := plan.ordered
  have falls := ordered.falls lane.unit (placed_member units window placed member) other.unit.id depends
  have apart : (assignment other).laneId ≠ (assignment lane).laneId := by
    intro same
    have position := approved_lane_id_inj _ same
    rw [placed_same_index units window placed otherIn member position] at falls
    exact Nat.lt_irrefl _ falls
  have otherWave := required_wave_window workstream window otherIn
  have laneWave := required_wave_window workstream window member
  rw [edgeStep, orderingEdge, assigned_to_window units plan window placed otherIn]
  simp only [if_neg apart]
  show (requiredWave _ (approvedLaneId other.index) >>= fun dependencyWave =>
    requiredWave _ (approvedLaneId lane.index) >>= fun laneWave => _) = _
  rw [otherWave, laneWave]
  rfl

include plan placed in
theorem edge_step_passes (member : lane ∈ window) {dependency : Id} (depends : dependency ∈ lane.unit.dependencies)
    (first : ∀ other ∈ window, other.unit.id = dependency → other.index < lane.index) :
    ∃ edges, edgeStep workstream window lane dependency = .ok edges ∧ ∀ edge ∈ edges, Forward window edge := by
  cases found : assignedTo (window.map assignment) dependency with
  | none =>
    refine ⟨[], ?_, by simp⟩
    rw [edgeStep, orderingEdge, found]
  | some entry =>
    obtain ⟨other, otherIn, rfl, rfl⟩ := assigned_to_mem window found
    have before := first other otherIn rfl
    refine ⟨_, (edge_step_other units plan workstream window placed member otherIn depends).trans (if_neg (by omega)), ?_⟩
    intro edge edgeIn
    rw [List.mem_singleton.mp edgeIn]
    exact ⟨other, otherIn, lane, member, before, rfl⟩

def laneEdges (entry : Assigned) : Except AllocationError (List (Id × Id)) := do
  let current ← unitOf units entry.unitId
  let found ← current.dependencies.mapM
    (orderingEdge (window.map (laneProposal workstream)) (window.map assignment) entry)
  return found.flatten

include plan placed in
theorem lane_edges_pass (member : lane ∈ window)
    (first : ∀ other ∈ window, other.unit.id ∈ lane.unit.dependencies → other.index < lane.index) :
    ∃ edges, laneEdges units workstream window (assignment lane) = .ok edges ∧ ∀ edge ∈ edges, Forward window edge := by
  have steps : ∀ dependency ∈ lane.unit.dependencies, ∃ edges,
      edgeStep workstream window lane dependency = .ok edges ∧ ∀ edge ∈ edges, Forward window edge := by
    intro dependency depends
    refine edge_step_passes units plan workstream window placed member depends ?_
    rintro other otherIn rfl
    exact first other otherIn depends
  obtain ⟨parts, mapped⟩ := mapM_ok_exists fun dependency depends => (steps dependency depends).imp fun _ => And.left
  have unitFound := unit_of_window units plan window placed member
  refine ⟨parts.flatten, bind_eq_ok unitFound (bind_eq_ok mapped rfl), ?_⟩
  intro edge edgeIn
  obtain ⟨part, partIn, inPart⟩ := List.mem_flatten.mp edgeIn
  obtain ⟨dependency, depends, stepped⟩ := mapM_ok_source mapped part partIn
  obtain ⟨edges, again, forward⟩ := steps dependency depends
  rw [stepped] at again
  cases again
  exact forward edge inPart

include plan placed in
theorem lane_edges_ok (member : lane ∈ window)
    (ran : laneEdges units workstream window (assignment lane) = .ok edges) {other : OpenLane} (otherIn : other ∈ window)
    (depends : other.unit.id ∈ lane.unit.dependencies) : other.index < lane.index := by
  obtain ⟨current, found, continued⟩ := bind_ok ran
  rw [show unitOf units (assignment lane).unitId = .ok lane.unit from unit_of_window units plan window placed member] at found
  cases found
  obtain ⟨parts, mapped, _⟩ := bind_ok continued
  obtain ⟨part, _, stepped⟩ := mapM_ok_mem mapped other.unit.id depends
  have step := edge_step_other units plan workstream window placed member otherIn depends
  rw [edgeStep, stepped] at step
  split at step
  · cases step
  · rename_i notLater
    obtain ⟨rank, ordered⟩ := plan.ordered
    have falls := ordered.falls lane.unit (placed_member units window placed member) other.unit.id depends
    have elsewhere : other.index ≠ lane.index := by
      intro same
      rw [placed_same_index units window placed otherIn member same] at falls
      exact Nat.lt_irrefl _ falls
    omega

include placed in
theorem reject_cycle_forward (forward : ∀ edge ∈ edges, Forward window edge) : rejectCycle units edges = .ok () := by
  have inverse : Function.LeftInverse (Function.invFun approvedLaneId) approvedLaneId := Function.leftInverse_invFun approved_lane_id_inj
  have position : ∀ edge ∈ edges, Function.invFun approvedLaneId edge.1 < Function.invFun approvedLaneId edge.2 ∧
      Function.invFun approvedLaneId edge.2 < units.length := by
    intro edge member
    obtain ⟨first, _, second, secondIn, before, rfl⟩ := forward edge member
    rw [inverse, inverse]
    exact ⟨before, placed_bound units window placed secondIn⟩
  have ranks : Ranks (laneSuccessors edges) (fun lane => units.length - Function.invFun approvedLaneId lane)
      (units.length + 1) (edges.flatMap fun edge => [edge.1, edge.2]) := by
    refine ⟨fun node _ => by omega, fun node _ => ⟨_, rfl, fun child isChild => ?_⟩⟩
    rw [mem_sorted_set, List.mem_map] at isChild
    obtain ⟨edge, filtered, rfl⟩ := isChild
    obtain ⟨edgeIn, source⟩ := List.mem_filter.mp filtered
    have sourceEq : edge.1 = node := by simpa using source
    refine ⟨List.mem_flatMap.mpr ⟨edge, edgeIn, by simp⟩, ?_⟩
    have before := position edge edgeIn
    rw [sourceEq] at before
    omega
  obtain ⟨done, walked⟩ := visit_all_ranked _ _ _ ranks (Nat.le_refl _) (sortedSet (edges.map Prod.fst)) (by
      intro node member
      obtain ⟨edge, edgeIn, rfl⟩ := List.mem_map.mp ((mem_sorted_set).mp member)
      exact List.mem_flatMap.mpr ⟨edge, edgeIn, by simp⟩)
  exact bind_eq_ok walked rfl

include plan placed in
theorem validate_ordering_window : validateOrdering (window.map (laneProposal workstream)) units (window.map assignment) = .ok () ↔
      DependenciesFirst window := by
  have entries : ∀ entry, entry ∈ (sortByKey ((window.map assignment).map fun entry => (entry.unitId, entry))).map Prod.snd ↔
      ∃ lane ∈ window, assignment lane = entry := by
    intro entry
    simp [List.mem_map]
  constructor
  · intro passed lane laneIn other otherIn depends
    obtain ⟨parts, mapped, _⟩ := bind_ok passed
    obtain ⟨part, _, stepped⟩ := mapM_ok_mem mapped (assignment lane) ((entries _).mpr ⟨lane, laneIn, rfl⟩)
    exact lane_edges_ok units plan workstream window placed laneIn stepped otherIn depends
  · intro first
    have steps : ∀ entry ∈ (sortByKey ((window.map assignment).map fun entry => (entry.unitId, entry))).map Prod.snd,
        ∃ edges, laneEdges units workstream window entry = .ok edges ∧ ∀ edge ∈ edges, Forward window edge := by
      intro entry member
      obtain ⟨lane, laneIn, rfl⟩ := (entries entry).mp member
      exact lane_edges_pass units plan workstream window placed laneIn (first lane laneIn)
    obtain ⟨parts, mapped⟩ := mapM_ok_exists fun entry member => (steps entry member).imp fun _ => And.left
    refine bind_eq_ok mapped (reject_cycle_forward units window placed ?_)
    intro edge edgeIn
    obtain ⟨part, partIn, inPart⟩ := List.mem_flatten.mp edgeIn
    obtain ⟨entry, member, stepped⟩ := mapM_ok_source mapped part partIn
    obtain ⟨edges, again, forward⟩ := steps entry member
    rw [stepped] at again
    cases again
    exact forward edge inPart

include plan placed in
theorem validate_allocation_window (rows : Rows) (policy : AllocationPolicy) :
    (∃ allocation, validateAllocation units (submissionOf workstream units rows window) policy = .ok allocation) ↔
      (1 ≤ window.length ∧ window.length ≤ 6) ∧ policy.activeImplementers + window.countP (fun lane => !lane.live) ≤ policy.parallelCap ∧
        DependenciesFirst window := by
  have assigned := assignment_map_window units plan workstream window placed
  constructor
  · rintro ⟨allocation, accepted⟩
    obtain ⟨entries, passed⟩ := validate_allocation_ok _ accepted
    have same : entries = window.map assignment := Except.ok.inj (passed.mapped.symm.trans assigned)
    have ordering := passed.ordering
    rw [same] at ordering
    refine ⟨?_, (capacity_window workstream window policy).mp passed.capacity,
      (validate_ordering_window units plan workstream window placed).mp ordering⟩
    simpa [submissionOf] using passed.counted
  · rintro ⟨counted, capacity, ordering⟩
    obtain ⟨lanes, canonical⟩ := mapM_ok_exists (by
      intro proposal member
      obtain ⟨lane, laneIn, rfl⟩ := List.mem_map.mp member
      exact canonical_lane_returns units plan workstream window placed lane laneIn)
    have authority := unit_authority_plan units plan
    have count : refuseIf (!(1 ≤ (submissionOf workstream units rows window).lanes.length &&
        (submissionOf workstream units rows window).lanes.length ≤ 6))
        (AllocationError.wrongLaneCount (submissionOf workstream units rows window).lanes.length) = .ok () := by
      simpa [refuse_if_ok, submissionOf] using counted
    exact ⟨_, bind_eq_ok rfl <| bind_eq_ok authority <| bind_eq_ok authority <| bind_eq_ok count <|
      bind_eq_ok (compare_authority_self units plan.distinct) <| bind_eq_ok assigned <|
      bind_eq_ok (future_units_window units plan workstream window) <|
      bind_eq_ok (lane_content_window units plan workstream window placed) <|
      bind_eq_ok ((capacity_window workstream window policy).mpr capacity) <|
      bind_eq_ok ((validate_ordering_window units plan workstream window placed).mpr ordering) <|
      bind_eq_ok canonical rfl⟩

end Window

section Run

variable [BindingJson]

def laneIsLive (rows : Rows) (laneId : Id) : Bool := ((refKeys rows).filterMap activityBinding).any (isLiveDelivery rows laneId)

theorem decoded_starts {text : String} {binding : IssuedRunnerBinding}
    (decoded : decodeVersionedBindingRef text = .ok binding) : startsWith text issuedBindingRefPrefix = true := by
  rw [decodeVersionedBindingRef, stripPrefix] at decoded
  by_cases starts : startsWith text issuedBindingRefPrefix = true
  · exact starts
  · simp [starts] at decoded

theorem lane_is_live {rows : Rows} {laneId : Id} : laneIsLive rows laneId = true ↔ ∃ text ∈ bindingRefs rows, LiveRef rows laneId text := by
  rw [laneIsLive, List.any_eq_true]
  constructor
  · rintro ⟨binding, member, live⟩
    obtain ⟨text, textIn, decoded⟩ := List.mem_filterMap.mp member
    have isOk : decodeVersionedBindingRef text = .ok binding := by
      rw [activityBinding] at decoded
      cases attempt : decodeVersionedBindingRef text with
      | error error => simp [attempt, Except.toOption] at decoded
      | ok other => simpa [attempt, Except.toOption] using decoded
    refine ⟨text, ?_, binding, isOk, live⟩
    exact List.mem_filter.mpr ⟨textIn, decoded_starts isOk⟩
  · rintro ⟨text, textIn, binding, decoded, live⟩
    refine ⟨binding, List.mem_filterMap.mpr ⟨text, (List.mem_filter.mp textIn).1, ?_⟩, live⟩
    rw [activityBinding, decoded]
    rfl

theorem live_flag {rows : Rows} {laneId : Id} {live : Bool} (scanned : laneHasLiveDelivery rows laneId = .ok live) :
    live = laneIsLive rows laneId := by
  cases live with
  | true => exact ((lane_is_live).mpr (scan_true rows laneId _ scanned)).symm
  | false =>
    symm
    rw [Bool.eq_false_iff, Ne, lane_is_live]
    rintro ⟨text, textIn, binding, decoded, isLive⟩
    obtain ⟨other, otherDecoded, idle⟩ := scan_false rows laneId _ scanned textIn
    rw [decoded] at otherDecoded
    cases otherDecoded
    rw [isLive] at idle
    cases idle

def planLanes (units : List ApprovedUnit) (rows : Rows) : List OpenLane :=
  (openUnits units rows).map fun entry => ⟨entry.2, entry.1, laneIsLive rows (approvedLaneId entry.2)⟩

variable (units : List ApprovedUnit) (rows : Rows)

theorem plan_lanes_placed : Placed units (planLanes units rows) := by
  refine ⟨?_, ?_⟩
  · intro lane member
    obtain ⟨⟨unit, index⟩, entryIn, rfl⟩ := List.mem_map.mp member
    exact List.mem_zipIdx_iff_getElem?.mp (List.mem_filter.mp entryIn).1
  · rw [planLanes, List.map_map]
    have positions : (units.zipIdx.map Prod.snd).Nodup := by
      rw [List.zipIdx_map_snd]
      exact List.nodup_range'
    exact positions.sublist (List.Sublist.map _ List.filter_sublist)

omit [BindingJson] in
theorem window_perm_sublist (lanes : List OpenLane) : (laneWindow rows lanes).Subperm lanes :=
  (List.take_sublist _ _).subperm.trans (List.perm_insertionSort _ _).subperm

theorem window_placed : Placed units (laneWindow rows (planLanes units rows)) := by
  have placed := plan_lanes_placed units rows
  have within := window_perm_sublist rows (planLanes units rows)
  refine ⟨fun lane member => placed.unit lane (within.subset member), ?_⟩
  obtain ⟨middle, perm, sublist⟩ := within
  exact (perm.map _).nodup_iff.mp (placed.distinct.sublist (sublist.map _))

def InWindow (lane : OpenLane) : Prop :=
  lane ∈ planLanes units rows ∧
    (planLanes units rows).countP (fun other => decide (laneKey rows other < laneKey rows lane)) < 6

instance (lane : OpenLane) : Decidable (InWindow units rows lane) :=
  inferInstanceAs (Decidable (_ ∧ _))

theorem mem_window {lane : OpenLane} : lane ∈ laneWindow rows (planLanes units rows) ↔ InWindow units rows lane := by
  refine mem_take_insertion_sort (laneKey rows) ?_
  have placed := plan_lanes_placed units rows
  refine (List.nodup_map_iff_inj_on (List.Nodup.of_map _ placed.distinct)).mpr ?_
  intro left leftIn right rightIn same
  refine placed_same_index units _ placed leftIn rightIn ?_
  have keys := congrArg (fun key => (ofLex (ofLex key).2).2) same
  exact keys

def WindowInOrder : Prop :=
  ∀ lane other, InWindow units rows lane → InWindow units rows other → other.unit.id ∈ lane.unit.dependencies →
    other.index < lane.index

def WindowFits : Prop :=
  activeImplementers rows + (planLanes units rows).countP (fun lane => decide (InWindow units rows lane) && !lane.live) ≤ 8

theorem window_count : (laneWindow rows (planLanes units rows)).countP (fun lane => !lane.live) =
      (planLanes units rows).countP fun lane => decide (InWindow units rows lane) && !lane.live := by
  have distinct := List.Nodup.of_map _ (plan_lanes_placed units rows).distinct
  have windowDistinct := List.Nodup.of_map _ (window_placed units rows).distinct
  have perm : (laneWindow rows (planLanes units rows)).Perm
      ((planLanes units rows).filter fun lane => decide (InWindow units rows lane)) := by
    refine (List.perm_ext_iff_of_nodup windowDistinct (distinct.filter _)).mpr fun lane => ?_
    rw [mem_window, List.mem_filter, decide_eq_true_iff]
    exact ⟨fun inside => ⟨inside.1, inside⟩, And.right⟩
  rw [perm.countP_eq, List.countP_filter]
  exact List.countP_congr fun lane _ => by rw [Bool.and_comm]

theorem window_length (isOpen : ∃ index < units.length, laneClosed rows (approvedLaneId index) = false) :
    1 ≤ (laneWindow rows (planLanes units rows)).length ∧ (laneWindow rows (planLanes units rows)).length ≤ 6 := by
  obtain ⟨index, bound, opened⟩ := isOpen
  have entryIn : (units[index], index) ∈ openUnits units rows :=
    List.mem_filter.mpr ⟨List.mem_zipIdx_iff_getElem?.mpr (List.getElem?_eq_getElem bound), by simp [opened]⟩
  have some_lane : 0 < (planLanes units rows).length := by
    rw [planLanes, List.length_map]
    exact List.length_pos_of_mem entryIn
  rw [laneWindow, List.length_take, List.length_insertionSort]
  omega

def openLane (entry : ApprovedUnit × Nat) : Except String OpenLane :=
  (laneHasLiveDelivery rows (approvedLaneId entry.2)).map (OpenLane.mk entry.2 entry.1)

theorem open_lanes_readable : (openUnits units rows).mapM (openLane rows) = .ok (planLanes units rows) ↔
      ∀ lane ∈ planLanes units rows, LaneReadable rows (approvedLaneId lane.index) := by
  constructor
  · intro mapped lane member
    obtain ⟨entry, entryIn, rfl⟩ := List.mem_map.mp member
    obtain ⟨found, _, flagged⟩ := mapM_ok_mem mapped entry entryIn
    obtain ⟨live, scanned, _⟩ := map_ok flagged
    exact (lane_readable rows _).mp ⟨live, scanned⟩
  · intro readable
    refine mapM_ok_map fun entry entryIn => ?_
    obtain ⟨live, scanned⟩ := (lane_readable rows _).mpr (readable _ (List.mem_map_of_mem entryIn))
    rw [openLane, scanned, ← live_flag scanned]
    rfl

theorem submission_built {workstream : Id} (approved : validateApprovedUnits units = .ok ()) {submission : AllocationSubmission} :
    allocationSubmissionFromPlan workstream units rows = .ok submission ↔
      (∀ lane ∈ planLanes units rows, LaneReadable rows (approvedLaneId lane.index)) ∧
        submission = submissionOf workstream units rows (laneWindow rows (planLanes units rows)) := by
  constructor
  · intro built
    obtain ⟨⟨⟩, -, continued⟩ := bind_ok built
    obtain ⟨lanes, mapped, returned⟩ := bind_ok continued
    cases returned
    have flagged : ∀ entry ∈ openUnits units rows,
        openLane rows entry = .ok ⟨entry.2, entry.1, laneIsLive rows (approvedLaneId entry.2)⟩ := by
      intro entry entryIn
      obtain ⟨lane, _, opened⟩ := mapM_ok_mem mapped entry entryIn
      obtain ⟨live, scanned, rfl⟩ := map_ok opened
      rw [openLane, scanned, ← live_flag scanned]
      rfl
    have same := mapM_ok_map flagged
    rw [Except.ok.inj (mapped.symm.trans same)]
    exact ⟨(open_lanes_readable units rows).mp same, rfl⟩
  · rintro ⟨readable, rfl⟩
    exact bind_eq_ok approved (bind_eq_ok ((open_lanes_readable units rows).mpr readable) rfl)

/-- An approved plan with an open lane is allocated exactly when its log can be read, its window holds no
dependency behind the unit that names it, and the cap leaves room for the window's new lanes. -/
theorem plan_allocated_iff (workstream : Id) (approved : validateApprovedUnits units = .ok ())
    (isOpen : ∃ index < units.length, laneClosed rows (approvedLaneId index) = false) :
    (∃ submission allocation, allocationSubmissionFromPlan workstream units rows = .ok submission ∧
        validateAllocation units submission (runPolicy rows) = .ok allocation) ↔
      (∀ lane ∈ planLanes units rows, LaneReadable rows (approvedLaneId lane.index)) ∧ WindowInOrder units rows ∧
        WindowFits units rows := by
  have plan := validate_approved_units_ok units approved
  have placed := window_placed units rows
  have checked := validate_allocation_window units plan workstream _ placed rows (runPolicy rows)
  have inOrder : DependenciesFirst (laneWindow rows (planLanes units rows)) ↔ WindowInOrder units rows := by
    constructor
    · intro first lane other laneIn otherIn
      exact first lane ((mem_window units rows).mpr laneIn) other ((mem_window units rows).mpr otherIn)
    · intro ordered lane laneIn other otherIn
      exact ordered lane other ((mem_window units rows).mp laneIn) ((mem_window units rows).mp otherIn)
  have fits : (runPolicy rows).activeImplementers + (laneWindow rows (planLanes units rows)).countP (fun lane => !lane.live) ≤
      (runPolicy rows).parallelCap ↔ WindowFits units rows := by
    rw [window_count]
    rfl
  rw [inOrder, fits] at checked
  constructor
  · rintro ⟨submission, allocation, built, accepted⟩
    obtain ⟨readable, rfl⟩ := (submission_built units rows approved).mp built
    obtain ⟨_, capacity, ordered⟩ := checked.mp ⟨allocation, accepted⟩
    exact ⟨readable, ordered, capacity⟩
  · rintro ⟨readable, ordered, capacity⟩
    obtain ⟨allocation, accepted⟩ := checked.mpr ⟨window_length units rows isOpen, capacity, ordered⟩
    exact ⟨_, allocation, (submission_built units rows approved).mpr ⟨readable, rfl⟩, accepted⟩

end Run

section Sample

attribute [local instance] sampleBindingJson

def sampleCommand : PlanUnitCommand where
  command := "cargo test"
  expected := "passes"
  effect := .noEffect
  generatedPaths := []
  handling := .none
  scopePreservation := "git status stays clean"

def sampleUnit (id : Id) (order : Nat) (file : String) (dependencies : List Id) : ApprovedUnit where
  id := id
  kind := .implementation
  objective := "deliver the unit"
  operatorOrder := order
  decisions := []
  criteria := ["AC-" ++ id ++ "-1"]
  criterionText := [⟨"AC-" ++ id ++ "-1", "the command passes"⟩]
  dependencies := dependencies
  predecessorForwardCriteria := dependencies.map fun dependency => "unit-complete:" ++ dependency
  downstreamReleaseEdges := ["unit:" ++ id]
  files := [file]
  commands := [sampleCommand]
  packageChecks := []

theorem single_unit_allocated : validateApprovedUnits [sampleUnit "a" 1 "a.rs" []] = .ok () ∧ laneClosed [] (approvedLaneId 0) = false ∧
      ∃ submission allocation, allocationSubmissionFromPlan "w" [sampleUnit "a" 1 "a.rs" []] [] = .ok submission ∧
        validateAllocation [sampleUnit "a" 1 "a.rs" []] submission (runPolicy []) = .ok allocation := by
  have approved : validateApprovedUnits [sampleUnit "a" 1 "a.rs" []] = .ok () := by decide +kernel
  have opened : laneClosed [] (approvedLaneId 0) = false := by decide +kernel
  refine ⟨approved, opened, (plan_allocated_iff _ [] "w" approved ⟨0, by decide, opened⟩).mpr ⟨?_, ?_, ?_⟩⟩
  · intro lane _ text member
    cases member
  · intro lane other inside _ depends
    have only : lane ∈ [(⟨0, sampleUnit "a" 1 "a.rs" [], false⟩ : OpenLane)] := inside.1
    rw [List.mem_singleton.mp only] at depends
    cases depends
  · rw [WindowFits]
    decide +kernel

/-- The first unit of the array depends on the second: the plan is approved, and its allocation is refused. -/
theorem reversed_plan_refused : validateApprovedUnits [sampleUnit "a" 1 "a.rs" ["b"], sampleUnit "b" 2 "b.rs" []] = .ok () ∧
      laneClosed [] (approvedLaneId 0) = false ∧
      ∃ submission, allocationSubmissionFromPlan "w" [sampleUnit "a" 1 "a.rs" ["b"], sampleUnit "b" 2 "b.rs" []] [] = .ok submission ∧
        validateAllocation [sampleUnit "a" 1 "a.rs" ["b"], sampleUnit "b" 2 "b.rs" []] submission (runPolicy []) =
          .error (.laneCycle "L1") := by
  have approved : validateApprovedUnits [sampleUnit "a" 1 "a.rs" ["b"], sampleUnit "b" 2 "b.rs" []] = .ok () := by
    decide +kernel
  refine ⟨approved, by decide +kernel, _, (submission_built _ [] approved).mpr ⟨?_, rfl⟩, by decide +kernel⟩
  intro lane _ text member
  cases member

end Sample

end PiAutopilot.Delivery
