import Mathlib.Logic.Relation
import PiAutopilot.Delivery.AllocationAccepted

set_option autoImplicit false

/-! # What an accepted allocation guarantees about its lanes

The validator knows lanes by their ids.  Here lanes are told apart by their position, so that two lanes
with one id are two lanes. -/

namespace PiAutopilot.Delivery

open Lib

section Lanes

variable (approved : List ApprovedUnit) (lanes : List AllocationLaneProposal)

def StandsAt (lane place : Nat) (id : Id) : Prop :=
  ∃ proposal, lanes[lane]? = some proposal ∧ proposal.orderedUnitIds[place]? = some id

def Needs (lane place other otherPlace : Nat) : Prop :=
  ∃ unit ∈ approved, StandsAt lanes lane place unit.id ∧ ∃ dependency ∈ unit.dependencies, StandsAt lanes other otherPlace dependency

def LaneNeeds (lane other : Nat) : Prop := lane ≠ other ∧ ∃ place otherPlace, Needs approved lanes lane place other otherPlace

def SameId (lane other : Nat) : Prop :=
  lanes[lane]?.map AllocationLaneProposal.laneId = lanes[other]?.map AllocationLaneProposal.laneId

def WaveInOrder (lane other : Nat) : Prop :=
  ∀ proposal otherProposal, lanes[lane]? = some proposal → lanes[other]? = some otherProposal →
    otherProposal.launchWave ≤ proposal.launchWave

def Repeated (lane : Nat) : Prop := ∃ other ≠ lane, other < lanes.length ∧ SameId lanes lane other

structure Executable (submission : AllocationSubmission) : Prop where
  placed : ∀ unit ∈ approved,
    (∃! spot : Nat × Nat, StandsAt submission.lanes spot.1 spot.2 unit.id) ∧
        unit.id ∉ submission.futureUnits.map FutureUnit.unitId ∨
      (∀ lane place, ¬StandsAt submission.lanes lane place unit.id) ∧
        unit.id ∈ submission.futureUnits.map FutureUnit.unitId
  acyclic : ∀ lane, ¬Relation.TransGen (LaneNeeds approved submission.lanes) lane lane
  inLane : ∀ lane place other, Needs approved submission.lanes lane place lane other → other < place
  waves : ∀ lane other, LaneNeeds approved submission.lanes lane other → WaveInOrder submission.lanes lane other

structure SharedInOrder : Prop where
  acyclic : ∀ lane, ¬Relation.TransGen (fun lane other => LaneNeeds approved lanes lane other ∧ SameId lanes lane other) lane lane
  waves : ∀ lane other, LaneNeeds approved lanes lane other → Repeated lanes lane ∨ Repeated lanes other →
    WaveInOrder lanes lane other

variable {entry : Assigned} {id : Id} {lane : Nat} {proposal : AllocationLaneProposal}

theorem mem_assigned : entry ∈ assignedUnits lanes ↔
    ∃ proposal ∈ lanes, proposal.laneId = entry.laneId ∧ proposal.orderedUnitIds[entry.place]? = some entry.unitId := by
  simp only [assignedUnits, List.mem_flatMap, List.mem_map]
  constructor
  · rintro ⟨proposal, member, ⟨id, place⟩, found, rfl⟩
    exact ⟨proposal, member, rfl, List.mem_zipIdx_iff_getElem?.mp found⟩
  · rintro ⟨proposal, member, named, found⟩
    exact ⟨proposal, member, (entry.unitId, entry.place), List.mem_zipIdx_iff_getElem?.mpr found, by rw [named]⟩

theorem assigned_ids : (assignedUnits lanes).map Assigned.unitId = lanes.flatMap AllocationLaneProposal.orderedUnitIds := by
  simp only [assignedUnits, List.map_flatMap, List.map_map]
  refine List.flatMap_congr fun proposal _ => ?_
  exact List.zipIdx_map_fst 0 proposal.orderedUnitIds

theorem stands_assigned {place : Nat} (found : lanes[lane]? = some proposal)
    (stands : proposal.orderedUnitIds[place]? = some id) : (⟨id, proposal.laneId, place⟩ : Assigned) ∈ assignedUnits lanes :=
  (mem_assigned lanes).mpr ⟨proposal, List.mem_of_getElem? found, rfl, stands⟩

variable (distinct : ((assignedUnits lanes).map Assigned.unitId).Nodup)

include distinct in
theorem assigned_to_iff : assignedTo (assignedUnits lanes) entry.unitId = some entry ↔ entry ∈ assignedUnits lanes := by
  constructor
  · exact List.mem_of_find?_eq_some
  · intro member
    cases found : assignedTo (assignedUnits lanes) entry.unitId with
    | none => exact absurd (beq_self_eq_true _) (List.find?_eq_none.mp found entry member)
    | some other =>
      have named : other.unitId = entry.unitId := by simpa using List.find?_some found
      rw [List.inj_on_of_nodup_map distinct (List.mem_of_find?_eq_some found) member named]

include distinct in
theorem spot_unique {place other otherPlace : Nat} (stands : StandsAt lanes lane place id)
    (again : StandsAt lanes other otherPlace id) : lane = other ∧ place = otherPlace := by
  rw [assigned_ids, List.nodup_flatMap] at distinct
  obtain ⟨proposal, found, placed⟩ := stands
  obtain ⟨otherProposal, otherFound, otherPlaced⟩ := again
  obtain ⟨bound, atLane⟩ := List.getElem?_eq_some_iff.mp found
  obtain ⟨otherBound, atOther⟩ := List.getElem?_eq_some_iff.mp otherFound
  have inLane := List.mem_of_getElem? placed
  have inOther := List.mem_of_getElem? otherPlaced
  have apart := List.pairwise_iff_getElem.mp distinct.2
  rcases Nat.lt_trichotomy lane other with before | rfl | after
  · have disjoint := apart lane other bound otherBound before
    rw [atLane, atOther] at disjoint
    exact absurd inOther (disjoint inLane)
  · obtain rfl : proposal = otherProposal := Option.some.inj (found.symm.trans otherFound)
    have placeBound := (List.getElem?_eq_some_iff.mp placed).1
    exact ⟨rfl, (List.getElem?_inj placeBound (distinct.1 proposal (List.mem_of_getElem? found))).mp (placed.trans otherPlaced.symm)⟩
  · have disjoint := apart other lane otherBound bound after
    rw [atLane, atOther] at disjoint
    exact absurd inLane (disjoint inOther)

structure EdgeChecked (rank : Id → Nat) (entry other : Assigned) : Prop where
  inLane : other.laneId = entry.laneId → other.place < entry.place
  ranked : other.laneId ≠ entry.laneId → rank entry.laneId < rank other.laneId
  waves : other.laneId ≠ entry.laneId → ∃ dependencyWave laneWave, requiredWave lanes other.laneId = .ok dependencyWave ∧
    requiredWave lanes entry.laneId = .ok laneWave ∧ dependencyWave ≤ laneWave

theorem reject_cycle_ranks {edges : List (Id × Id)} (passed : rejectCycle approved edges = .ok ()) :
    ∃ rank : Id → Nat, ∀ edge ∈ edges, rank edge.2 < rank edge.1 := by
  obtain ⟨done, walked, -⟩ := bind_ok passed
  have left := visit_all_walked walked
  obtain ⟨rank, ranks⟩ := topological_ranks left.ordered
  refine ⟨rank, fun edge member => ?_⟩
  have visited := left.left edge.1 ((mem_sorted_set).mpr (List.mem_map_of_mem member))
  obtain ⟨next, listed, falls⟩ := ranks.falls edge.1 visited
  cases listed
  refine (falls edge.2 ((mem_sorted_set).mpr (List.mem_map.mpr ⟨edge, ?_, rfl⟩))).2
  exact List.mem_filter.mpr ⟨member, beq_self_eq_true _⟩

theorem validate_ordering_checked {assigned : List Assigned} (passed : validateOrdering lanes approved assigned = .ok ()) :
    ∃ rank, ∀ entry ∈ assigned, ∀ unit, unitOf approved entry.unitId = .ok unit → ∀ dependency ∈ unit.dependencies,
      ∀ other, assignedTo assigned dependency = some other → EdgeChecked lanes rank entry other := by
  obtain ⟨edges, mapped, passed⟩ := bind_ok passed
  obtain ⟨rank, falls⟩ := reject_cycle_ranks approved passed
  refine ⟨rank, fun entry member unit named dependency depends other found => ?_⟩
  have inOrder : entry ∈ (sortByKey (assigned.map fun entry => (entry.unitId, entry))).map Prod.snd := by
    simpa [List.mem_map] using member
  obtain ⟨part, partIn, ran⟩ := mapM_ok_mem mapped entry inOrder
  obtain ⟨current, currentNamed, ran⟩ := bind_ok ran
  rw [named] at currentNamed
  cases currentNamed
  obtain ⟨parts, stepped, returned⟩ := bind_ok ran
  cases returned
  obtain ⟨step, stepIn, checked⟩ := mapM_ok_mem stepped dependency depends
  rw [orderingEdge, found] at checked
  by_cases same : other.laneId = entry.laneId
  · simp only [same, if_true] at checked
    obtain ⟨earlier, checked⟩ := refused_ok checked
    exact ⟨fun _ => Nat.not_le.mp earlier, fun apart => absurd same apart, fun apart => absurd same apart⟩
  · simp only [if_neg same] at checked
    obtain ⟨dependencyWave, otherWave, checked⟩ := bind_ok checked
    obtain ⟨laneWave, ownWave, checked⟩ := bind_ok checked
    obtain ⟨notLater, checked⟩ := refused_ok checked
    cases checked
    refine ⟨fun equal => absurd equal same, fun _ => ?_, fun _ => ⟨_, _, otherWave, ownWave, Nat.not_lt.mp notLater⟩⟩
    exact falls (other.laneId, entry.laneId) (List.mem_flatten.mpr ⟨_, partIn, List.mem_flatten.mpr ⟨_, stepIn, by simp⟩⟩)

theorem required_wave_own (found : lanes[lane]? = some proposal)
    (single : ¬Repeated lanes lane) : requiredWave lanes proposal.laneId = .ok proposal.launchWave := by
  rw [requiredWave]
  cases last : lanes.reverse.find? fun other => other.laneId == proposal.laneId with
  | none =>
    have absent := List.find?_eq_none.mp last proposal (List.mem_reverse.mpr (List.mem_of_getElem? found))
    exact absurd (beq_self_eq_true _) absent
  | some other =>
    have named : other.laneId = proposal.laneId := by simpa using List.find?_some last
    obtain ⟨position, atPosition⟩ := List.mem_iff_getElem?.mp (List.mem_reverse.mp (List.mem_of_find?_eq_some last))
    by_cases same : position = lane
    · rw [same, found] at atPosition
      rw [Option.some.inj atPosition]
    · refine absurd ⟨position, same, (List.getElem?_eq_some_iff.mp atPosition).1, ?_⟩ single
      rw [SameId, found, atPosition, Option.map_some, Option.map_some, named]

end Lanes

theorem trans_gen_keyed {ν : Type} {step stays : ν → ν → Prop} {key : ν → Nat}
    (rises : ∀ first second, step first second → key first < key second ∨ key first = key second ∧ stays first second)
    {first last : ν} (chain : Relation.TransGen step first last) :
    key first < key last ∨ key first = key last ∧ Relation.TransGen (fun first second => step first second ∧ stays first second) first last := by
  induction chain with
  | single stepped =>
    rcases rises _ _ stepped with less | ⟨same, stayed⟩
    · exact .inl less
    · exact .inr ⟨same, .single ⟨stepped, stayed⟩⟩
  | tail _ stepped ih =>
    rcases ih with less | ⟨same, chain⟩
    · rcases rises _ _ stepped with more | ⟨equal, -⟩
      · exact .inl (less.trans more)
      · exact .inl (equal ▸ less)
    · rcases rises _ _ stepped with more | ⟨equal, stayed⟩
      · exact .inl (same ▸ more)
      · exact .inr ⟨same.trans equal, chain.tail ⟨stepped, stayed⟩⟩

section Accepted

variable (approved : List ApprovedUnit) (submission : AllocationSubmission)

structure Checked (rank : Id → Nat) : Prop where
  named : ∀ unit ∈ approved, unitOf approved unit.id = .ok unit
  distinct : ((assignedUnits submission.lanes).map Assigned.unitId).Nodup
  future : ∀ item ∈ submission.futureUnits, item.unitId ∉ (assignedUnits submission.lanes).map Assigned.unitId
  covered : ∀ unit ∈ approved, unit.id ∈ (assignedUnits submission.lanes).map Assigned.unitId ∨
    unit.id ∈ submission.futureUnits.map FutureUnit.unitId
  ordered : ∀ entry ∈ assignedUnits submission.lanes, ∀ unit, unitOf approved entry.unitId = .ok unit →
    ∀ dependency ∈ unit.dependencies, ∀ other, assignedTo (assignedUnits submission.lanes) dependency = some other →
      EdgeChecked submission.lanes rank entry other

theorem assigned_to_none {assigned : List Assigned} {id : Id} :
    (assignedTo assigned id).isNone = true ↔ id ∉ assigned.map Assigned.unitId := by
  rw [Option.isNone_iff_eq_none, assignedTo]
  simp [List.mem_map]

theorem accepted_checked {policy : AllocationPolicy} {allocation : CanonicalAllocation}
    (accepted : validateAllocation approved submission policy = .ok allocation) : ∃ rank, Checked approved submission rank := by
  obtain ⟨entries, -, compared, mapped, futures, -, ordering, -⟩ := validate_allocation_ok approved accepted
  obtain ⟨seen, noted, returned⟩ := bind_ok mapped
  cases returned
  obtain ⟨rank, ordered⟩ := validate_ordering_checked approved submission.lanes ordering
  obtain ⟨futureSeen, futureNoted, covered⟩ := bind_ok futures
  obtain ⟨futureIds, -, futureChecked⟩ := note_all_ok futureNoted
  refine ⟨rank, ?_, (note_all_ok noted).2.1, ?_, ?_, ordered⟩
  · -- The echo has one unit for an id, and every approved unit of that id equals it.
    have echoed : ∀ unit ∈ approved, byId submission.authorityEcho unit.id = some unit := by
      obtain ⟨⟨⟩, -, compared⟩ := bind_ok compared
      intro unit member
      have passed := (check_all_ok).mp compared unit member
      simpa [refuse_if_ok] using passed
    intro unit member
    obtain ⟨other, otherIn, sameId, found⟩ := by_id_known approved (List.mem_map_of_mem member)
    have same : other = unit := Option.some.inj ((echoed other otherIn).symm.trans (sameId ▸ echoed unit member))
    rw [unitOf, found, same]
  · intro item member
    obtain ⟨⟨⟩, -, checked⟩ := bind_ok (futureChecked item member).1
    obtain ⟨_, -, unassigned⟩ := bind_ok checked
    rw [refuse_if_ok, Option.isSome_eq_false_iff] at unassigned
    exact (assigned_to_none).mp unassigned
  · intro unit member
    have passed := (check_all_ok).mp covered unit.id ((mem_sorted_set).mpr (List.mem_map_of_mem member))
    rw [refuse_if_ok, Bool.and_eq_false_iff, decide_eq_false_iff_not, Classical.not_not, futureIds, List.mem_reverse] at passed
    refine passed.imp (fun assigned => ?_) id
    exact Classical.not_not.mp fun absent => by simp [(assigned_to_none).mpr absent] at assigned

variable {approved submission} {rank : Id → Nat} (checked : Checked approved submission rank)

include checked in
theorem unit_placed (unit : ApprovedUnit) (member : unit ∈ approved) :
    (∃! spot : Nat × Nat, StandsAt submission.lanes spot.1 spot.2 unit.id) ∧ unit.id ∉ submission.futureUnits.map FutureUnit.unitId ∨
      (∀ lane place, ¬StandsAt submission.lanes lane place unit.id) ∧ unit.id ∈ submission.futureUnits.map FutureUnit.unitId := by
  by_cases assigned : unit.id ∈ (assignedUnits submission.lanes).map Assigned.unitId
  · left
    constructor
    · obtain ⟨entry, entryIn, named⟩ := List.mem_map.mp assigned
      obtain ⟨proposal, proposalIn, -, stands⟩ := (mem_assigned _).mp entryIn
      obtain ⟨lane, found⟩ := List.mem_iff_getElem?.mp proposalIn
      refine ⟨(lane, entry.place), ⟨proposal, found, named ▸ stands⟩, fun spot again => ?_⟩
      obtain ⟨laneEq, placeEq⟩ := spot_unique _ checked.distinct again ⟨proposal, found, named ▸ stands⟩
      exact Prod.ext laneEq placeEq
    · intro inFuture
      obtain ⟨item, itemIn, named⟩ := List.mem_map.mp inFuture
      exact checked.future item itemIn (named ▸ assigned)
  · right
    refine ⟨fun lane place stands => ?_, (checked.covered unit member).resolve_left assigned⟩
    obtain ⟨proposal, found, placed⟩ := stands
    exact assigned (List.mem_map_of_mem (stands_assigned _ found placed))

include checked in
theorem needs_checked {lane place other otherPlace : Nat} (needs : Needs approved submission.lanes lane place other otherPlace)
    {proposal otherProposal : AllocationLaneProposal} (found : submission.lanes[lane]? = some proposal)
    (otherFound : submission.lanes[other]? = some otherProposal) : ∃ entry dependency : Assigned,
      EdgeChecked submission.lanes rank entry dependency ∧ entry.laneId = proposal.laneId ∧ entry.place = place ∧
        dependency.laneId = otherProposal.laneId ∧ dependency.place = otherPlace := by
  obtain ⟨unit, member, ⟨own, ownFound, stands⟩, dependency, depends, needed, neededFound, otherStands⟩ := needs
  obtain rfl : own = proposal := Option.some.inj (ownFound.symm.trans found)
  obtain rfl : needed = otherProposal := Option.some.inj (neededFound.symm.trans otherFound)
  exact ⟨_, _, checked.ordered _ (stands_assigned _ found stands) unit (checked.named unit member)
    dependency depends _ ((assigned_to_iff _ checked.distinct).mpr (stands_assigned _ otherFound otherStands)), rfl, rfl, rfl, rfl⟩

theorem needs_found {lane other : Nat} (needs : LaneNeeds approved submission.lanes lane other) :
    ∃ proposal otherProposal, submission.lanes[lane]? = some proposal ∧ submission.lanes[other]? = some otherProposal := by
  obtain ⟨-, place, otherPlace, unit, -, ⟨proposal, found, -⟩, dependency, -, otherProposal, otherFound, -⟩ := needs
  exact ⟨proposal, otherProposal, found, otherFound⟩

include checked in
theorem single_waves {lane other : Nat} (needs : LaneNeeds approved submission.lanes lane other)
    (single : ¬(Repeated submission.lanes lane ∨ Repeated submission.lanes other)) :
    WaveInOrder submission.lanes lane other := by
  intro proposal otherProposal found otherFound
  obtain ⟨apart, place, otherPlace, unitNeeds⟩ := needs
  obtain ⟨entry, dependency, edge, entryLane, -, dependencyLane, -⟩ := needs_checked checked unitNeeds found otherFound
  have differ : dependency.laneId ≠ entry.laneId := by
    intro same
    rw [entryLane, dependencyLane] at same
    refine single (.inl ⟨other, apart.symm, (List.getElem?_eq_some_iff.mp otherFound).1, ?_⟩)
    rw [SameId, found, otherFound, Option.map_some, Option.map_some, same]
  obtain ⟨dependencyWave, laneWave, otherWave, ownWave, inOrder⟩ := edge.waves differ
  rw [dependencyLane, required_wave_own _ otherFound fun again => single (.inr again)] at otherWave
  rw [entryLane, required_wave_own _ found fun again => single (.inl again)] at ownWave
  cases otherWave
  cases ownWave
  exact inOrder

def laneRank (lanes : List AllocationLaneProposal) (rank : Id → Nat) (lane : Nat) : Nat :=
  (lanes[lane]?.map fun proposal => rank proposal.laneId).getD 0

include checked in
theorem lane_needs_rises (lane other : Nat) (needs : LaneNeeds approved submission.lanes lane other) :
    laneRank submission.lanes rank lane < laneRank submission.lanes rank other ∨
      laneRank submission.lanes rank lane = laneRank submission.lanes rank other ∧ SameId submission.lanes lane other := by
  obtain ⟨proposal, otherProposal, found, otherFound⟩ := needs_found needs
  obtain ⟨-, place, otherPlace, unitNeeds⟩ := needs
  obtain ⟨entry, dependency, edge, entryLane, -, dependencyLane, -⟩ := needs_checked checked unitNeeds found otherFound
  simp only [laneRank, SameId, found, otherFound, Option.map_some, Option.getD_some, Option.some.injEq]
  by_cases same : otherProposal.laneId = proposal.laneId
  · exact .inr ⟨by rw [same], same.symm⟩
  · have ranked := edge.ranked
    rw [entryLane, dependencyLane] at ranked
    exact .inl (ranked same)

end Accepted

/-- An accepted allocation is executable exactly when the lanes that share an id are in order themselves;
with distinct lane ids there are none. -/
theorem accepted_executable_iff (approved : List ApprovedUnit) (submission : AllocationSubmission) (policy : AllocationPolicy)
    (allocation : CanonicalAllocation) (accepted : validateAllocation approved submission policy = .ok allocation) :
    Executable approved submission ↔ SharedInOrder approved submission.lanes := by
  obtain ⟨rank, checked⟩ := accepted_checked approved submission accepted
  constructor
  · intro executable
    refine ⟨fun lane cycle => executable.acyclic lane (Relation.TransGen.mono (fun _ _ => And.left) lane lane cycle), ?_⟩
    exact fun lane other needs _ => executable.waves lane other needs
  · intro shared
    refine ⟨unit_placed checked, ?_, ?_, ?_⟩
    · intro lane cycle
      rcases trans_gen_keyed (lane_needs_rises checked) cycle with less | ⟨-, within⟩
      · exact Nat.lt_irrefl _ less
      · exact shared.acyclic lane within
    · intro lane place other needs
      obtain ⟨unit, -, ⟨proposal, found, -⟩, -⟩ := id needs
      obtain ⟨entry, dependency, edge, entryLane, entryPlace, dependencyLane, dependencyPlace⟩ := needs_checked checked needs found found
      rw [← entryPlace, ← dependencyPlace]
      exact edge.inLane (dependencyLane.trans entryLane.symm)
    · intro lane other needs
      by_cases repeats : Repeated submission.lanes lane ∨ Repeated submission.lanes other
      · exact shared.waves lane other needs repeats
      · exact single_waves checked needs repeats

def sampleLane (units : List ApprovedUnit) (wave : Nat) : AllocationLaneProposal where
  laneId := "L"
  objective := "deliver the units"
  orderedUnitIds := units.map ApprovedUnit.id
  rationale := "one lane"
  deliveryBoundary := "approved-plan-unit"
  predecessorForwardCriteria := units.flatMap ApprovedUnit.predecessorForwardCriteria
  downstreamReleaseEdges := units.flatMap ApprovedUnit.downstreamReleaseEdges
  contextFamilyId := "family"
  contextEstimate := 100
  focusedTests := []
  launchWave := wave
  continueExistingLogicalLane := none

def laneSubmission (lanes : List (List ApprovedUnit × Nat)) : AllocationSubmission where
  lanes := lanes.map fun lane => sampleLane lane.1 lane.2
  futureUnits := []
  authorityEcho := lanes.flatMap Prod.fst
  ownershipClaims := []
  overlapBlocks := []

def independentUnit : ApprovedUnit := sampleUnit "a" 1 "a.rs" []

theorem single_lane_executable : validateAllocation [independentUnit] (laneSubmission [([independentUnit], 0)]) ⟨8, 0⟩ =
        .ok ⟨[⟨sampleLane [independentUnit] 0, 0, 1, "implementer"⟩], []⟩ ∧
      Executable [independentUnit] (laneSubmission [([independentUnit], 0)]) := by
  have accepted : validateAllocation [independentUnit] (laneSubmission [([independentUnit], 0)]) ⟨8, 0⟩ =
      .ok ⟨[⟨sampleLane [independentUnit] 0, 0, 1, "implementer"⟩], []⟩ := by decide +kernel
  have independent : ∀ lane other, ¬LaneNeeds [independentUnit] (laneSubmission [([independentUnit], 0)]).lanes lane other := by
    rintro lane other ⟨-, place, otherPlace, unit, member, -, dependency, depends, -⟩
    rw [List.mem_singleton.mp member] at depends
    cases depends
  refine ⟨accepted, (accepted_executable_iff _ _ _ _ accepted).mpr ⟨fun lane cycle => ?_, fun lane other needs _ => ?_⟩⟩
  · obtain ⟨next, step, -⟩ := Relation.TransGen.head'_iff.mp cycle
    exact independent lane next step.1
  · exact absurd needs (independent lane other)

/-- The lane of `a` and `b` needs the lane of `c` and `d` and the other way round, and the second lane is
launched later.  Both are called `L`, so the validator compares their places only. -/
def crossedLanes : List (List ApprovedUnit × Nat) :=
  [([sampleUnit "a" 1 "a.rs" [], sampleUnit "b" 2 "b.rs" ["c"]], 0),
    ([sampleUnit "c" 3 "c.rs" [], sampleUnit "d" 4 "d.rs" ["a"]], 1)]

theorem crossed_lanes_accepted :
    (∃ allocation, validateAllocation (crossedLanes.flatMap Prod.fst) (laneSubmission crossedLanes) ⟨8, 0⟩ = .ok allocation) ∧
      ¬Executable (crossedLanes.flatMap Prod.fst) (laneSubmission crossedLanes) := by
  refine ⟨⟨⟨[⟨sampleLane [sampleUnit "a" 1 "a.rs" [], sampleUnit "b" 2 "b.rs" ["c"]] 0, 1, 1, "implementer"⟩,
    ⟨sampleLane [sampleUnit "c" 3 "c.rs" [], sampleUnit "d" 4 "d.rs" ["a"]] 1, 1, 3, "implementer"⟩], []⟩, by decide +kernel⟩, ?_⟩
  intro executable
  have needs : LaneNeeds (crossedLanes.flatMap Prod.fst) (laneSubmission crossedLanes).lanes 0 1 :=
    ⟨by decide, 1, 0, sampleUnit "b" 2 "b.rs" ["c"], by simp [crossedLanes], ⟨_, rfl, rfl⟩, "c", by simp [sampleUnit], ⟨_, rfl, rfl⟩⟩
  have late := executable.waves 0 1 needs _ _ rfl rfl
  exact absurd late (by decide)

end PiAutopilot.Delivery
