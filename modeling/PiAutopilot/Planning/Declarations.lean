import PiAutopilot.Lib.Assoc
import PiAutopilot.Lib.Checks
import PiAutopilot.Lib.DepthFirst

set_option autoImplicit false

/-! # The planning policy text -/

namespace PiAutopilot.Planning

open Lib

abbrev Text := List Char

inductive PlanningError where
  | assignmentCap (total cap : Nat)
  | badDeclaration (message : Text)
deriving DecidableEq

def isWhite (letter : Char) : Bool :=
  let code := letter.toNat
  (9 ≤ code && code ≤ 13) || code == 32 || code == 0x85 || code == 0xA0 || code == 0x1680 || (0x2000 ≤ code && code ≤ 0x200A) ||
    code == 0x2028 || code == 0x2029 || code == 0x202F || code == 0x205F || code == 0x3000

def trimMatches (strip : Char → Bool) (text : Text) : Text := ((text.dropWhile strip).reverse.dropWhile strip).reverse

variable (text : Text)

def trim : Text := trimMatches isWhite text

def split (separates : Char → Bool) : Text → List Text
  | [] => [[]]
  | letter :: rest =>
    if separates letter then [] :: split separates rest
    else match split separates rest with
      | [] => [[letter]]
      | piece :: pieces => (letter :: piece) :: pieces

def splitOnce (separator : Char) (text : Text) : Option (Text × Text) :=
  match text.dropWhile (· != separator) with
  | [] => none
  | _ :: rest => some (text.takeWhile (· != separator), rest)

def stripPrefix (start text : Text) : Option Text := start.isPrefixOf? text

def lines : List Text :=
  let pieces := split (· == '\n') text
  let terminated := pieces.dropLast.map fun line => if line.getLast? = some '\r' then line.dropLast else line
  match pieces.getLast? with
  | none | some [] => terminated
  | some last => terminated ++ [last]

def splitCsv (raw : Text) : List Text := ((split (· == ',') raw).map trim).filter fun value => !value.isEmpty

inductive ParseIntError where
  | empty
  | invalidDigit
  | posOverflow

def ParseIntError.message : ParseIntError → Text
  | .empty => "cannot parse integer from empty string".toList
  | .invalidDigit => "invalid digit found in string".toList
  | .posOverflow => "number too large to fit in target type".toList

def readDigits (value : Nat) : Text → Except ParseIntError Nat
  | [] => .ok value
  | letter :: rest =>
    if letter.isDigit then
      let next := value * 10 + (letter.toNat - '0'.toNat)
      if 255 < next then .error .posOverflow else readDigits next rest
    else .error .invalidDigit

def parseU8 : Except PlanningError Nat :=
  let read : Except ParseIntError Nat := match text with
    | [] => .error .empty
    | '+' :: digit :: rest => readDigits 0 (digit :: rest)
    | digits => readDigits 0 digits
  read.mapError fun failed => .badDeclaration failed.message

def kdlAttr (attrs name : Text) : Option Text :=
  (split isWhite attrs).findSome? fun word => (stripPrefix name word).map (trimMatches (· == '"'))

def parseAttr (attrs name : Text) : Except PlanningError Text :=
  match kdlAttr attrs name with
  | some value => .ok value
  | none => .error (.badDeclaration name)

structure PhaseDeclaration where
  id : Text
  question : Text
deriving DecidableEq

structure PlanningDeclarations where
  assignmentCap : Nat
  phases : List PhaseDeclaration
deriving DecidableEq

def parseCap (attrs : Text) : Except PlanningError Nat := do
  parseU8 (← parseAttr attrs "default=".toList)

def readDeclaration (read : Option Nat × List PhaseDeclaration) (line : Text) :
    Except PlanningError (Option Nat × List PhaseDeclaration) := do
  let trimmed := trim line
  let cap ← match stripPrefix "assignment_cap ".toList trimmed with
    | some after => some <$> parseCap after
    | none => pure read.1
  match stripPrefix "phase \"".toList trimmed with
  | none => return (cap, read.2)
  | some after =>
    match splitOnce '"' after with
    | none => .error (.badDeclaration trimmed)
    | some (id, attrs) => do
      let question ← parseAttr attrs "question=".toList
      return (cap, read.2 ++ [PhaseDeclaration.mk id question])

def PlanningDeclarations.parse : Except PlanningError PlanningDeclarations := do
  match ← (split (· == '\n') text).foldlM readDeclaration (none, []) with
  | (none, _) => .error (.badDeclaration "missing assignment_cap".toList)
  | (some assignmentCap, phases) => return { assignmentCap, phases }

def parseTopLevelU8 (text start attrName : Text) : Except PlanningError Nat :=
  match (lines text).findSome? fun line => stripPrefix start (trim line) with
  | some attrs => do parseU8 (← parseAttr attrs attrName)
  | none => .error (.badDeclaration ("missing ".toList ++ trim start))

def parseRow {row : Type} (name : Text) (read : Text → Text → Except PlanningError row) (line : Text) : Except PlanningError (Option row) :=
  let trimmed := trim line
  match stripPrefix name trimmed with
  | none => .ok none
  | some _ =>
    match stripPrefix (name ++ ['"']) trimmed with
    | none => .error (.badDeclaration trimmed)
    | some after =>
      match splitOnce '"' after with
      | none => .error (.badDeclaration trimmed)
      | some (id, attrs) => some <$> read id attrs

def parseRows {row : Type} (name : Text) (read : Text → Text → Except PlanningError row) (text : Text) : Except PlanningError (List row) :=
  (fun rows => rows.filterMap id) <$> (lines text).mapM (parseRow name read)

structure PlanningAssignmentRole where
  role : Text
  count : Nat
  mode : Text
  boundaryId : Text
  atomNamespace : Option Text
deriving DecidableEq

def readAssignmentRole (role attrs : Text) : Except PlanningError PlanningAssignmentRole := do
  let count ← parseU8 (← parseAttr attrs "count=".toList)
  refuseIf (count == 0) (.badDeclaration ("zero count for ".toList ++ role))
  let mode ← parseAttr attrs "mode=".toList
  let boundaryId ← parseAttr attrs "boundary=".toList
  return { role, count, mode, boundaryId, atomNamespace := kdlAttr attrs "atom_namespace=".toList }

def parsePlanningAssignmentRoles : Except PlanningError (List PlanningAssignmentRole) := do
  let roles ← parseRows "assignment_role ".toList readAssignmentRole text
  refuseIf roles.isEmpty (.badDeclaration "missing assignment_role rows".toList)
  return roles

structure PlanningWaveDeclaration where
  id : Text
  role : Text
  dependencies : List Text
  ordinals : Option (List Nat)
  activationRef : Option Text
  canonicalOutput : Bool
deriving DecidableEq

def parseOrdinals (raw : Text) : Except PlanningError (List Nat) := do
  let ordinals ← (splitCsv raw).mapM parseU8
  refuseIf ordinals.isEmpty (.badDeclaration "empty ordinals".toList)
  return ordinals

def readCanonicalOutput (id : Text) : Option Text → Except PlanningError Bool
  | none => .ok false
  | some value =>
    if value = "#true".toList ∨ value = "true".toList then .ok true
    else if value = "#false".toList ∨ value = "false".toList then .ok false
    else .error (.badDeclaration ("bad canonical_output for ".toList ++ id ++ ": ".toList ++ value))

def readPlanningWave (id attrs : Text) : Except PlanningError PlanningWaveDeclaration := do
  let dependencies := ((kdlAttr attrs "depends=".toList).map splitCsv).getD []
  let ordinals ← (kdlAttr attrs "ordinals=".toList).mapM parseOrdinals
  let canonicalOutput ← readCanonicalOutput id (kdlAttr attrs "canonical_output=".toList)
  let role ← parseAttr attrs "role=".toList
  return { id, role, dependencies, ordinals, activationRef := kdlAttr attrs "activation_ref=".toList, canonicalOutput }

def parsePlanningWaves : Except PlanningError (List PlanningWaveDeclaration) := do
  let waves ← parseRows "planning_wave ".toList readPlanningWave text
  refuseIf waves.isEmpty (.badDeclaration "missing planning_wave rows".toList)
  return waves

variable (waves : List PlanningWaveDeclaration)

def waveOf (id : Text) : Option PlanningWaveDeclaration := waves.find? fun wave => wave.id == id

/-- The wave ids of a validated policy are known, so that the panic is never reached. -/
def dependenciesByWave (id : Text) : Except PlanningError (List Text) :=
  match waveOf waves id with
  | some wave => .ok wave.dependencies
  | none => .error (.badDeclaration "wave dependency map is built from validated wave ids".toList)

def cycleMessage (stack : List Text) (id : Text) : PlanningError :=
  let cycle := (stack.takeWhile (· != id)).reverse
  .badDeclaration ("planning_wave dependency cycle: ".toList ++ " -> ".toList.intercalate ((id :: cycle) ++ [id]))

def visitPlanningWaveDependency (waves : List PlanningWaveDeclaration) : Nat → List Text → List Text → Text →
    Except PlanningError (List Text)
  | 0, stack, _, id => .error (cycleMessage stack id)
  | fuel + 1, stack, visited, id =>
    if id ∈ visited then .ok visited
    else if id ∈ stack then .error (cycleMessage stack id)
    else do
      let dependencies ← dependenciesByWave waves id
      let visited ← dependencies.foldlM (visitPlanningWaveDependency waves fuel (id :: stack)) visited
      return id :: visited

/-- A path holds distinct waves, so that it is never longer than the fuel. -/
def validatePlanningWaveAcyclic : Except PlanningError Unit := do
  let _ ← (waves.map (·.id)).foldlM (visitPlanningWaveDependency waves (waves.length + 1) []) []

def checkDependency (names : List Text) (wave : PlanningWaveDeclaration) (dependency : Text) : Except PlanningError Unit := do
  refuseIf (dependency == wave.id) (.badDeclaration ("wave ".toList ++ wave.id ++ " depends on itself".toList))
  refuseIf (!names.contains dependency)
    (.badDeclaration ("wave ".toList ++ wave.id ++ " references unknown dependency ".toList ++ dependency))

def validatePlanningWaves (roles : List PlanningAssignmentRole) (waves : List PlanningWaveDeclaration) : Except PlanningError Unit := do
  let names ← noteAll
    (fun wave => refuseIf (!(roles.map (·.role)).contains wave.role)
      (.badDeclaration ("wave ".toList ++ wave.id ++ " references unknown role ".toList ++ wave.role)))
    PlanningWaveDeclaration.id (fun wave => .badDeclaration ("duplicate planning_wave ".toList ++ wave.id)) (fun _ => .ok ()) waves
  checkAll (fun wave => checkAll (checkDependency names wave) wave.dependencies) waves
  validatePlanningWaveAcyclic waves

structure PlanningPolicy where
  assignmentCap : Nat
  planningWaveCap : Nat
  planningMaxAttempts : Nat
  roles : List PlanningAssignmentRole
  waves : List PlanningWaveDeclaration
deriving DecidableEq

def PlanningPolicy.parse : Except PlanningError PlanningPolicy := do
  let declarations ← PlanningDeclarations.parse text
  let roles ← parsePlanningAssignmentRoles text
  let planningWaveCap ← parseTopLevelU8 text "planning_wave_cap ".toList "default=".toList
  refuseIf (planningWaveCap == 0) (.badDeclaration "zero planning_wave_cap".toList)
  let planningMaxAttempts ← parseTopLevelU8 text "planning_launch_attempts ".toList "max=".toList
  refuseIf (planningMaxAttempts == 0) (.badDeclaration "zero planning_launch_attempts".toList)
  let waves ← parsePlanningWaves text
  validatePlanningWaves roles waves
  return { assignmentCap := declarations.assignmentCap, planningWaveCap, planningMaxAttempts, roles, waves }

end PiAutopilot.Planning
