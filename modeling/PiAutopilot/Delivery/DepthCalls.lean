import Mathlib.Data.Fintype.Card
import Mathlib.Logic.Relation
import PiAutopilot.Delivery.Executable
import PiAutopilot.Lib.Traced

set_option autoImplicit false

/-! # How often an allocation computes dependency depths

`dependency_depth` recurses into every dependency again, so it is called once for each chain of
dependencies rather than once for each unit. -/

namespace PiAutopilot.Delivery

open Lib Lib.Traced

section Calls

variable (approved : List ApprovedUnit)

def dependencyDepthTraced : Nat → Id → Traced Id AllocationError Nat
  | 0, id => do
    call id
    silent (.error (.unknownUnit id))
  | fuel + 1, id => do
    call id
    let unit ← silent (unitOf approved id)
    unit.dependencies.foldlM
      (fun best dependency => do
        let depth ← dependencyDepthTraced fuel dependency
        return max best (min (depth + 1) maxU32)) 0

def canonicalLaneTraced (proposal : AllocationLaneProposal) : Traced Id AllocationError CanonicalLane := do
  let units ← silent (proposal.orderedUnitIds.mapM (unitOf approved))
  let firstOperatorOrder ← silent ((units.map ApprovedUnit.operatorOrder).min?.elim (.error (.missingUnit proposal.laneId)) .ok)
  let depths ← proposal.orderedUnitIds.mapM (dependencyDepthTraced approved (approved.length + 1))
  let remainingDependencyPath ← silent (depths.max?.elim (.error (.missingUnit proposal.laneId)) .ok)
  return {
    proposal := proposal
    remainingDependencyPath := remainingDependencyPath
    firstOperatorOrder := firstOperatorOrder
    capacityClass := "implementer" }

variable (submission : AllocationSubmission) (policy : AllocationPolicy)

def allocationChecks : Except AllocationError Unit := do
  rejectOwnership submission
  validateApprovedUnitAuthority approved
  validateApprovedUnitAuthority submission.authorityEcho
  refuseIf (!(1 ≤ submission.lanes.length && submission.lanes.length ≤ 6)) (.wrongLaneCount submission.lanes.length)
  compareAuthority approved submission.authorityEcho
  let laneByUnit ← assignmentMap submission.lanes approved
  validateFutureUnits approved laneByUnit submission.futureUnits
  validateLaneContent submission.lanes approved
  validateCapacity submission.lanes policy
  validateOrdering submission.lanes approved laneByUnit

def validateAllocationTraced : Traced Id AllocationError CanonicalAllocation := do
  silent (allocationChecks approved submission policy)
  let lanes ← submission.lanes.mapM (canonicalLaneTraced approved)
  return { lanes := lanes, futureUnits := submission.futureUnits }

def depthCalls : Nat := (validateAllocationTraced approved submission policy).calls.length

theorem depth_traced_result (fuel : Nat) (id : Id) :
    (dependencyDepthTraced approved fuel id).result = dependencyDepth approved fuel id := by
  induction fuel generalizing id with
  | zero => rfl
  | succ fuel ih =>
    rw [dependencyDepthTraced]
    simp only [result_bind, result_call, result_silent, result_foldlM, result_pure, ih]
    rfl

theorem validate_traced_result :
    (validateAllocationTraced approved submission policy).result = validateAllocation approved submission policy := by
  have lane : ∀ proposal, (canonicalLaneTraced approved proposal).result = canonicalLane approved proposal := by
    intro proposal
    simp only [canonicalLaneTraced, result_bind, result_silent, result_mapM, result_pure, depth_traced_result]
    rfl
  simp only [validateAllocationTraced, result_bind, result_silent, result_mapM, result_pure, lane, allocationChecks, bind_assoc]
  rfl

def dependenciesOf (id : Id) : List Id := (byId approved id).elim [] ApprovedUnit.dependencies

def isUnknown (id : Id) : Bool := (byId approved id).isNone

/-- The ends of the chains of dependencies that start at a unit, in the order of a walk that goes down first. -/
def chainEnds : Nat → Id → List Id
  | 0, id => [id]
  | fuel + 1, id => id :: (dependenciesOf approved id).flatMap (chainEnds fuel)

/-- The chains that start in the lanes before the first empty lane, up to the first that ends at an unknown unit. -/
def dependencyChains (lanes : List AllocationLaneProposal) : List Id :=
  through (isUnknown approved) ((lanes.takeWhile fun lane => !lane.orderedUnitIds.isEmpty).flatMap fun lane =>
    lane.orderedUnitIds.flatMap (chainEnds approved (approved.length + 1)))

def dependencyEntries : Nat := (approved.map fun unit => unit.dependencies.length).sum

def DependsOnUnit (id dependency : Id) : Prop := ∃ unit ∈ approved, unit.id = id ∧ dependency ∈ unit.dependencies

def AcyclicUnits : Prop := ∀ id, ¬Relation.TransGen (DependsOnUnit approved) id id

variable {approved}

theorem acyclic_of_falls (height : Id → Nat)
    (falls : ∀ unit ∈ approved, ∀ dependency ∈ unit.dependencies, height dependency < height unit.id) :
    AcyclicUnits approved := by
  have lower : ∀ id last, Relation.TransGen (DependsOnUnit approved) id last → height last < height id := by
    intro id last chain
    induction chain with
    | single step =>
      obtain ⟨unit, member, rfl, depends⟩ := step
      exact falls unit member _ depends
    | tail _ step ih =>
      obtain ⟨unit, member, rfl, depends⟩ := step
      exact (falls unit member _ depends).trans ih
  exact fun id cycle => Nat.lt_irrefl _ (lower id id cycle)

-- The height of a unit counts the approved units that it reaches.
open Classical in
theorem acyclic_height (acyclic : AcyclicUnits approved) : ∃ height : Id → Nat, (∀ id, height id ≤ approved.length) ∧
    ∀ unit ∈ approved, ∀ dependency ∈ unit.dependencies, height dependency < height unit.id := by
  let reached : Id → Finset Id := fun id =>
    (approved.map ApprovedUnit.id).toFinset.filter fun other => Relation.ReflTransGen (DependsOnUnit approved) id other
  refine ⟨fun id => (reached id).card, fun id => ?_, fun unit member dependency depends => ?_⟩
  · calc (reached id).card ≤ (approved.map ApprovedUnit.id).toFinset.card := Finset.card_filter_le _ _
      _ ≤ (approved.map ApprovedUnit.id).length := List.toFinset_card_le _
      _ = approved.length := List.length_map _
  · have step : DependsOnUnit approved unit.id dependency := ⟨unit, member, rfl, depends⟩
    refine Finset.card_lt_card (Finset.ssubset_iff_of_subset ?_ |>.mpr ⟨unit.id, ?_, ?_⟩)
    · intro id inside
      obtain ⟨known, chain⟩ := Finset.mem_filter.mp inside
      exact Finset.mem_filter.mpr ⟨known, chain.head step⟩
    · exact Finset.mem_filter.mpr ⟨List.mem_toFinset.mpr (List.mem_map_of_mem member), .refl⟩
    · intro back
      exact acyclic unit.id (.head' step (Finset.mem_filter.mp back).2)

theorem depth_follows (height : Id → Nat) (falls : ∀ unit ∈ approved, ∀ dependency ∈ unit.dependencies, height dependency < height unit.id)
    (fuel : Nat) (id : Id) (enough : height id < fuel) :
    Follows (isUnknown approved) (dependencyDepthTraced approved fuel id) (chainEnds approved fuel id) := by
  induction fuel generalizing id with
  | zero => exact absurd enough (Nat.not_lt_zero _)
  | succ fuel ih =>
    rw [dependencyDepthTraced, chainEnds]
    cases found : byId approved id with
    | none =>
      have unknown : isUnknown approved id = true := by rw [isUnknown, found]; rfl
      have failed : unitOf approved id = .error (.unknownUnit id) := by rw [unitOf, found]
      rw [dependenciesOf, failed]
      refine ⟨?_, iff_of_true ⟨_, rfl⟩ ?_⟩
      · rw [through, if_pos unknown]
        rfl
      · rw [List.any_cons, unknown, Bool.true_or]
    | some unit =>
      obtain ⟨member, rfl⟩ := by_id_mem approved found
      have known : isUnknown approved unit.id = false := by rw [isUnknown, found]; rfl
      have named : unitOf approved unit.id = .ok unit := by rw [unitOf, found]
      rw [dependenciesOf, found, named]
      refine (follows_call known).bind _ fun _ _ => ?_
      refine follows_foldlM _ fun dependency depends best => ?_
      have below := falls unit member dependency depends
      exact (ih dependency (by omega)).last _ fun depth _ => follows_pure

section Lanes

variable (height : Id → Nat) (few : ∀ id, height id ≤ approved.length)
  (falls : ∀ unit ∈ approved, ∀ dependency ∈ unit.dependencies, height dependency < height unit.id)
  {proposal : AllocationLaneProposal}

include few falls in
theorem lane_follows {units : List ApprovedUnit}
    (known : proposal.orderedUnitIds.mapM (unitOf approved) = .ok units) (filled : proposal.orderedUnitIds ≠ []) :
    Follows (isUnknown approved) (canonicalLaneTraced approved proposal)
      (proposal.orderedUnitIds.flatMap (chainEnds approved (approved.length + 1))) := by
  have sameLength := ((mapM_ok_iff _ _).mp known).length_eq
  have first : ∃ order, (units.map ApprovedUnit.operatorOrder).min? = some order := by
    cases units with
    | nil => exact absurd (List.length_eq_zero_iff.mp sameLength) filled
    | cons unit rest => exact ⟨_, rfl⟩
  obtain ⟨order, least⟩ := first
  have depths := follows_mapM _ proposal.orderedUnitIds fun id _ => depth_follows height falls _ id (Nat.lt_succ_of_le (few id))
  rw [canonicalLaneTraced, known]
  show Follows _ (silent ((units.map ApprovedUnit.operatorOrder).min?.elim _ _) >>= _) _
  rw [least]
  refine depths.last _ fun values returned => ?_
  rw [result_mapM] at returned
  have counted := ((mapM_ok_iff _ _).mp returned).length_eq
  cases values with
  | nil => exact absurd (List.length_eq_zero_iff.mp counted) filled
  | cons value rest => exact follows_pure

theorem empty_lane (empty : proposal.orderedUnitIds = []) :
    canonicalLaneTraced approved proposal = ⟨.error (.missingUnit proposal.laneId), []⟩ := by
  rw [canonicalLaneTraced, empty]
  rfl

include few falls in
theorem lanes_calls {lanes : List AllocationLaneProposal}
    (known : ∀ proposal ∈ lanes, ∃ units, proposal.orderedUnitIds.mapM (unitOf approved) = .ok units) :
    (lanes.mapM (canonicalLaneTraced approved)).calls = dependencyChains approved lanes := by
  rw [dependencyChains]
  induction lanes with
  | nil => rfl
  | cons proposal rest ih =>
    have restCalls := ih fun other member => known other (List.mem_cons_of_mem _ member)
    rw [List.mapM_cons]
    by_cases empty : proposal.orderedUnitIds = []
    · rw [empty_lane empty, List.takeWhile_cons_of_neg (by simp [empty])]
      rfl
    · rw [List.takeWhile_cons_of_pos (by simp [empty]), List.flatMap_cons]
      obtain ⟨units, named⟩ := known proposal List.mem_cons_self
      have lane := lane_follows height few falls named empty
      cases returned : (canonicalLaneTraced approved proposal).result with
      | error error =>
        rw [Traced.bind_error returned, through_stopped (lane.fails.mp ⟨error, returned⟩)]
        exact lane.calls
      | ok value =>
        have passed := Bool.eq_false_iff.mpr fun stopped => by
          obtain ⟨error, failed⟩ := lane.fails.mpr stopped
          cases returned.symm.trans failed
        have whole := through_passed [] passed
        rw [List.append_nil] at whole
        rw [Traced.bind_ok returned, through_passed _ passed, ← restCalls, lane.calls, whole]
        cases later : (rest.mapM (canonicalLaneTraced approved)).result with
        | error error => rw [Traced.bind_error later]; simp [through]
        | ok values => rw [Traced.bind_ok later]; simp [through]; rfl

end Lanes

theorem checks_known {submission : AllocationSubmission} {policy : AllocationPolicy}
    (passed : allocationChecks approved submission policy = .ok ()) :
    ∀ proposal ∈ submission.lanes, ∃ units, proposal.orderedUnitIds.mapM (unitOf approved) = .ok units := by
  obtain ⟨⟨⟩, -, passed⟩ := Lib.bind_ok passed
  obtain ⟨⟨⟩, -, passed⟩ := Lib.bind_ok passed
  obtain ⟨⟨⟩, -, passed⟩ := Lib.bind_ok passed
  obtain ⟨⟨⟩, -, passed⟩ := Lib.bind_ok passed
  obtain ⟨⟨⟩, -, passed⟩ := Lib.bind_ok passed
  obtain ⟨_, -, passed⟩ := Lib.bind_ok passed
  obtain ⟨⟨⟩, -, passed⟩ := Lib.bind_ok passed
  obtain ⟨⟨⟩, content, -⟩ := Lib.bind_ok passed
  intro proposal member
  obtain ⟨units, named, -⟩ := Lib.bind_ok ((check_all_ok).mp content proposal member)
  exact ⟨units, named⟩

end Calls

/-- An allocation over acyclic dependencies computes depths at most `(n + E)²` times exactly when its checks
refuse it or its lanes start at most that many chains of dependencies. -/
theorem depth_calls_polynomial_iff (approved : List ApprovedUnit) (submission : AllocationSubmission) (policy : AllocationPolicy)
    (acyclic : AcyclicUnits approved) :
    depthCalls approved submission policy ≤ (approved.length + dependencyEntries approved) ^ 2 ↔
      (allocationChecks approved submission policy = .ok () →
        (dependencyChains approved submission.lanes).length ≤ (approved.length + dependencyEntries approved) ^ 2) := by
  obtain ⟨height, few, falls⟩ := acyclic_height acyclic
  rw [depthCalls, validateAllocationTraced]
  cases checked : allocationChecks approved submission policy with
  | error error => exact iff_of_true (Nat.zero_le _) nofun
  | ok passed =>
    have calls := lanes_calls height few falls (checks_known checked)
    have none : ∀ rest : Unit → Traced Id AllocationError CanonicalAllocation,
        (silent (.ok passed) >>= rest).calls = (rest passed).calls := fun rest => by rw [Traced.bind_ok rfl]; rfl
    rw [none, forall_prop_of_true rfl, ← calls]
    cases returned : (submission.lanes.mapM (canonicalLaneTraced approved)).result with
    | error error => rw [Traced.bind_error returned]
    | ok lanes =>
      rw [Traced.bind_ok returned]
      exact iff_of_eq (congrArg (List.length · ≤ _) (List.append_nil _))

theorem single_unit_few_calls : AcyclicUnits [independentUnit] ∧
    depthCalls [independentUnit] (laneSubmission [([independentUnit], 0)]) ⟨8, 0⟩ ≤
      ([independentUnit].length + dependencyEntries [independentUnit]) ^ 2 := by
  have acyclic : AcyclicUnits [independentUnit] := acyclic_of_falls (fun _ => 0) (by simp [independentUnit, sampleUnit])
  exact ⟨acyclic, (depth_calls_polynomial_iff _ _ _ acyclic).mpr fun _ => by decide +kernel⟩

def pairedNames : List Id := ["a", "b", "c", "d", "e", "f", "g", "h", "i", "j", "k", "l", "m"]

def pairedPlan : List ApprovedUnit :=
  pairedNames.zipIdx.map fun entry =>
    sampleUnit entry.1 (entry.2 + 1) entry.1 ((pairedNames.take entry.2).drop (entry.2 - 2))

theorem paired_plan_exceeds : AcyclicUnits pairedPlan ∧ allocationChecks pairedPlan (laneSubmission [(pairedPlan, 0)]) ⟨8, 0⟩ = .ok () ∧
      (pairedPlan.length + dependencyEntries pairedPlan) ^ 2 = 1296 ∧
      depthCalls pairedPlan (laneSubmission [(pairedPlan, 0)]) ⟨8, 0⟩ = 1581 := by
  refine ⟨acyclic_of_falls (fun id => pairedNames.idxOf id) ?_, ?_, ?_, ?_⟩
  · decide +kernel
  · decide +kernel
  · decide +kernel
  · decide +kernel

end PiAutopilot.Delivery
