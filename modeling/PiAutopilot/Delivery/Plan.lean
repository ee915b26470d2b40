import Mathlib.Data.List.Basic
import PiAutopilot.Lib.Checks
import PiAutopilot.Lib.DepthFirst

set_option autoImplicit false

/-! # Approved plan units and the checks they pass

An approved plan is an array of units.  Its checks read every field below; what the scheduling of
lanes later relies on is collected in `ApprovedPlan`. -/

namespace PiAutopilot.Delivery

open Lib

abbrev Id := String

/-- The Unicode White_Space code points. -/
def isWhitespace (char : Char) : Bool :=
  let code := char.toNat
  (9 ≤ code && code ≤ 13) || code == 32 || code == 0x85 || code == 0xa0 || code == 0x1680 ||
    (0x2000 ≤ code && code ≤ 0x200a) || code == 0x2028 || code == 0x2029 || code == 0x202f || code == 0x205f ||
    code == 0x3000

/-- `trim().is_empty()`. -/
def isBlank (text : String) : Bool := text.toList.all isWhitespace

/-- `trim() == text`. -/
def isTrimmed (text : String) : Bool := !text.toList.head?.any isWhitespace && !text.toList.getLast?.any isWhitespace

def components (path : String) : List String := (path.toList.splitOn '/').map String.ofList

def refusedCodes : List Nat := [0, 92, 42, 63, 91, 93, 123, 125]

-- A text that passes the component checks has only normal path components, so the last conjunct of the
-- source adds nothing on the platforms it runs on.
def approvedPathIsSafe (path : String) : Bool :=
  path != "" && isTrimmed path &&
    !path.toList.any (fun char => char.toNat ∈ refusedCodes) &&
    path.toList.head? != some '/' &&
    (components path).all fun component =>
      component != "" && component != "." && component != ".." && component != ".git" && component != ".pi"

def ancestors (path : String) : List String :=
  (List.range path.toList.length).filterMap fun index =>
    if path.toList[index]? = some '/' then some (String.ofList (path.toList.take index)) else none

def rejectAncestorFileAuthority (paths : List String) : Except String Unit :=
  checkAll (fun descendant =>
    checkAll (fun ancestor => refuseIf (ancestor ∈ paths)
      s!"file authority path {ancestor} is an ancestor/prefix of exact file {descendant}")
      (ancestors descendant)) paths

def validateExactPlanFileUnion (paths : List String) : Except String Unit := do
  refuseIf paths.isEmpty "plan file authority is empty"
  rejectAncestorFileAuthority (sortedSet paths)

def validateExactUnitFileAuthority (paths : List String) : Except String Unit := do
  refuseIf paths.isEmpty "unit file authority must enumerate at least one exact regular-file destination"
  let unsafePath := fun path => s!"unsafe, duplicate, or non-exact regular-file destination: {path}"
  let _ ← noteAll (fun path => refuseIf (!approvedPathIsSafe path) (unsafePath path)) id unsafePath (fun _ => .ok ()) paths
  rejectAncestorFileAuthority (sortedSet paths)

inductive CommandEffect where
  | declaredPredictable
  | noEffect
  | unknownGenerated
deriving DecidableEq

inductive CommandEffectHandling where
  | blockIfCreated
  | exactCleanupBeforeScopeGate
  | none
  | runIsolated
deriving DecidableEq

structure PlanUnitCommand where
  command : String
  expected : String
  effect : CommandEffect
  generatedPaths : List String
  handling : CommandEffectHandling
  scopePreservation : String
deriving DecidableEq

def validatePlanUnitCommandEffectAuthority (command : PlanUnitCommand) : Except String Unit := do
  refuseIf (isBlank command.command || isBlank command.expected || isBlank command.scopePreservation)
    "command, expected, and scope_preservation must be nonempty"
  let unsafePath := fun path => s!"unsafe or duplicate generated path in command authority: {path}"
  let _ ← noteAll (fun path => refuseIf (!approvedPathIsSafe path) (unsafePath path)) id unsafePath (fun _ => .ok ())
    command.generatedPaths
  if !command.generatedPaths.isEmpty then validateExactPlanFileUnion command.generatedPaths
  match command.effect, command.handling with
  | .noEffect, .none =>
    refuseIf (!command.generatedPaths.isEmpty)
      "no-effect command authority requires empty generated_paths and none handling"
  | .noEffect, _ => .error "no-effect command authority requires empty generated_paths and none handling"
  | .declaredPredictable, .none => .error "declared-predictable command authority requires non-none handling"
  | .declaredPredictable, _ =>
    refuseIf command.generatedPaths.isEmpty "declared-predictable command authority requires exact generated_paths"
  | .unknownGenerated, .runIsolated =>
    refuseIf (!command.generatedPaths.isEmpty)
      "unknown-generated command authority requires empty generated_paths and run-isolated handling"
  | .unknownGenerated, _ =>
    .error "unknown-generated command authority requires empty generated_paths and run-isolated handling"

inductive PackageCheckKind where
  | cleanExactPackageTip
deriving DecidableEq

structure PlanUnitPackageCheck where
  checkId : Id
  kind : PackageCheckKind
  criterionOrdinals : List Nat
  expected : String
deriving DecidableEq

def validatePlanUnitPackageChecks (checks : List PlanUnitPackageCheck) (criterionCount : Nat) : Except String Unit := do
  let incomplete :=
    "package checks require unique nonempty ids, expectations, and in-range 1-based criterion ordinals"
  let _ ← noteAll
    (fun check => refuseIf
      (isBlank check.checkId || isBlank check.expected || check.criterionOrdinals.isEmpty ||
        !check.criterionOrdinals.Nodup ||
        check.criterionOrdinals.any fun ordinal => ordinal == 0 || ordinal > criterionCount) incomplete)
    PlanUnitPackageCheck.checkId (fun _ => incomplete) (fun _ => .ok ()) checks
  return ()

inductive PlanUnitKind where
  | implementation
deriving DecidableEq

structure ApprovedCriterion where
  id : Id
  text : String
deriving DecidableEq

structure ApprovedUnit where
  id : Id
  kind : PlanUnitKind
  objective : String
  operatorOrder : Nat
  decisions : List Id
  criteria : List Id
  criterionText : List ApprovedCriterion
  dependencies : List Id
  predecessorForwardCriteria : List Id
  downstreamReleaseEdges : List Id
  files : List String
  commands : List PlanUnitCommand
  packageChecks : List PlanUnitPackageCheck
deriving DecidableEq

variable (units : List ApprovedUnit)

def validatePackageCheckClosureAuthority : Except String Unit := do
  checkAll (fun unit =>
    (validateExactUnitFileAuthority unit.files).mapError fun error =>
      s!"package-check unit {unit.id} has invalid exact file authority: {error}") units
  validateExactPlanFileUnion (units.flatMap ApprovedUnit.files)
  checkAll (fun unit =>
    let missing := (sortedSet (units.flatMap ApprovedUnit.files)).filter fun path => path ∉ unit.files
    let joined := ",".intercalate missing
    refuseIf (!unit.packageChecks.isEmpty && !missing.isEmpty)
      s!"package-check closure unit {unit.id} lacks plan file authority: {joined}") units

def validateCriteria (unit : ApprovedUnit) : Except String Unit := do
  refuseIf (unit.criterionText.map ApprovedCriterion.id != unit.criteria)
    s!"approved unit {unit.id} criteria/criterion_text drift"
  let malformed := fun criterion : ApprovedCriterion => s!"approved unit {unit.id} malformed criterion {criterion.id}"
  let _ ← noteAll (fun criterion => refuseIf (isBlank criterion.text) (malformed criterion)) ApprovedCriterion.id malformed
    (fun _ => .ok ()) unit.criterionText
  return ()

def validateApprovedUnit (unit : ApprovedUnit) : Except String Unit := do
  refuseIf (unit.kind != .implementation || isBlank unit.objective || unit.criteria.isEmpty ||
    unit.criterionText.isEmpty || unit.files.isEmpty || unit.commands.isEmpty) s!"approved unit {unit.id} incomplete"
  (validateExactUnitFileAuthority unit.files).mapError fun error =>
    s!"approved unit {unit.id} has invalid exact file authority: {error}"
  validateCriteria unit
  checkAll (fun dependency => refuseIf (dependency == unit.id) s!"approved unit {unit.id} self dependency")
    unit.dependencies
  checkAll (fun command =>
    (validatePlanUnitCommandEffectAuthority command).mapError fun error =>
      s!"approved unit {unit.id} has malformed command authority: {error}") unit.commands
  (validatePlanUnitPackageChecks unit.packageChecks unit.criteria.length).mapError fun error =>
    s!"approved unit {unit.id} has malformed package-check authority: {error}"

def byId (id : Id) : Option ApprovedUnit := units.reverse.find? fun unit => unit.id == id

def approvedDependencies (id : Id) : Except String (List Id) :=
  match byId units id with
  | none => .error s!"approved unit {id} missing during graph walk"
  | some unit => .ok unit.dependencies

def approvedCycle (id : Id) : String := s!"approved plan dependency cycle at {id}"

-- A path of the walk never holds a unit twice, so one step more than there are units is enough fuel.
def validateApprovedUnits : Except String Unit := do
  refuseIf units.isEmpty "empty approved plan"
  let ids ← noteAll (fun _ => .ok ()) ApprovedUnit.id (fun unit => s!"approved plan duplicate unit {unit.id}")
    validateApprovedUnit units
  validateExactPlanFileUnion (units.flatMap ApprovedUnit.files)
  validatePackageCheckClosureAuthority units
  checkAll (fun unit =>
    checkAll (fun dependency => refuseIf (dependency ∉ ids)
      s!"approved unit {unit.id} depends on unknown unit {dependency}") unit.dependencies) units
  let _ ← visitAll (approvedDependencies units) approvedCycle (units.length + 1) (units.map ApprovedUnit.id)
  return ()

structure Ordered (units : List ApprovedUnit) (rank : Id → Nat) : Prop where
  bounded : ∀ unit ∈ units, rank unit.id < units.length
  falls : ∀ unit ∈ units, ∀ dependency ∈ unit.dependencies, rank dependency < rank unit.id

structure ApprovedPlan (units : List ApprovedUnit) : Prop where
  nonempty : units ≠ []
  distinct : (units.map ApprovedUnit.id).Nodup
  known : ∀ unit ∈ units, ∀ dependency ∈ unit.dependencies, dependency ∈ units.map ApprovedUnit.id
  commands : ∀ unit ∈ units, ∀ command ∈ unit.commands, validatePlanUnitCommandEffectAuthority command = .ok ()
  ordered : ∃ rank, Ordered units rank

variable {id : Id} {unit : ApprovedUnit}

theorem by_id_mem (found : byId units id = some unit) : unit ∈ units ∧ unit.id = id := by
  have member := List.mem_of_find?_eq_some found
  have named := List.find?_some found
  exact ⟨List.mem_reverse.mp member, by simpa using named⟩

theorem by_id_unit (distinct : (units.map ApprovedUnit.id).Nodup) (member : unit ∈ units) : byId units unit.id = some unit := by
  cases found : byId units unit.id with
  | none =>
    have missing := List.find?_eq_none.mp found unit (List.mem_reverse.mpr member)
    simp at missing
  | some other =>
    obtain ⟨otherMember, named⟩ := by_id_mem units found
    rw [List.inj_on_of_nodup_map distinct otherMember member named]

theorem by_id_known (known : id ∈ units.map ApprovedUnit.id) : ∃ unit ∈ units, unit.id = id ∧ byId units id = some unit := by
  cases found : byId units id with
  | none =>
    obtain ⟨unit, member, named⟩ := List.mem_map.mp known
    have missing := List.find?_eq_none.mp found unit (List.mem_reverse.mpr member)
    simp [named] at missing
  | some unit =>
    obtain ⟨member, named⟩ := by_id_mem units found
    exact ⟨unit, member, named, rfl⟩

theorem validate_approved_unit_commands (accepted : validateApprovedUnit unit = .ok ()) :
    ∀ command ∈ unit.commands, validatePlanUnitCommandEffectAuthority command = .ok () := by
  obtain ⟨⟨⟩, -, afterFields⟩ := bind_ok accepted
  obtain ⟨⟨⟩, -, afterFiles⟩ := bind_ok afterFields
  obtain ⟨⟨⟩, -, afterCriteria⟩ := bind_ok afterFiles
  obtain ⟨⟨⟩, -, afterSelf⟩ := bind_ok afterCriteria
  obtain ⟨⟨⟩, commands, -⟩ := bind_ok afterSelf
  intro command member
  have passed := (check_all_ok).mp commands command member
  rwa [map_error_ok] at passed

-- The order comes from the walk: a unit is left only after everything it depends on.
theorem walk_ordered (distinct : (units.map ApprovedUnit.id).Nodup) {fuel : Nat} {done : List Id}
    (walked : visitAll (approvedDependencies units) approvedCycle fuel (units.map ApprovedUnit.id) = .ok done) :
    ∃ rank, Ordered units rank := by
  have within : ∀ id next, approvedDependencies units id = .ok next → id ∈ units.map ApprovedUnit.id := by
    intro id next listed
    rw [approvedDependencies] at listed
    split at listed
    · cases listed
    · rename_i unit found
      obtain ⟨unitMember, named⟩ := by_id_mem units found
      exact List.mem_map.mpr ⟨unit, unitMember, named⟩
  obtain ⟨rank, ranks⟩ := visit_all_ranks within walked
  refine ⟨rank, ?_, ?_⟩
  · intro unit member
    have bound := ranks.bounded unit.id (List.mem_map_of_mem member)
    rwa [List.length_map] at bound
  · intro unit member dependency depends
    obtain ⟨next, listed, falls⟩ := ranks.falls unit.id (List.mem_map_of_mem member)
    rw [approvedDependencies, by_id_unit units distinct member] at listed
    cases listed
    exact (falls dependency depends).2

theorem validate_approved_units_ok (accepted : validateApprovedUnits units = .ok ()) : ApprovedPlan units := by
  obtain ⟨⟨⟩, nonempty, afterEmpty⟩ := bind_ok accepted
  obtain ⟨ids, noted, afterIds⟩ := bind_ok afterEmpty
  obtain ⟨⟨⟩, -, afterUnion⟩ := bind_ok afterIds
  obtain ⟨⟨⟩, -, afterClosure⟩ := bind_ok afterUnion
  obtain ⟨⟨⟩, known, afterKnown⟩ := bind_ok afterClosure
  obtain ⟨done, walked, -⟩ := bind_ok afterKnown
  obtain ⟨listed, distinct, checked⟩ := note_all_ok noted
  refine ⟨?_, distinct, ?_, ?_, walk_ordered units distinct walked⟩
  · rwa [refuse_if_ok, List.isEmpty_eq_false_iff] at nonempty
  · intro unit member dependency depends
    have dependenciesKnown := (check_all_ok).mp ((check_all_ok).mp known unit member) dependency depends
    rw [refuse_if_ok, decide_eq_false_iff_not, Classical.not_not, listed, List.mem_reverse] at dependenciesKnown
    exact dependenciesKnown
  · intro unit member
    exact validate_approved_unit_commands (checked unit member).2

end PiAutopilot.Delivery
