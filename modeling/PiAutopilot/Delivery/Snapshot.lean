import PiAutopilot.Delivery.InFlight

set_option autoImplicit false

/-! # The snapshot of a complete run

A run is complete when nothing is active, queued or open to repair, the approved plan can be read and
every lane of it is closed.  The plan's reader goes through the rows of every workstream. -/

namespace PiAutopilot.Delivery

open EventLog Lib

def planningTransitionKindRefPrefix : String := "planning-transition-kind:"
def submitReceiptConsumedPrefix : String := "submit-receipt-consumed:"
def planningResultConsumedPrefix : String := "planning-result-consumed:"
def receiptConsumedKind : String := "submit:receipt-consumed"
def readyToExecuteKind : String := "planning:ready-to-execute"

def closedPlanningEventKinds : List String :=
  ["agent:result", "planning:recovery-completed", "planning:recovery-required", "recovery:exhausted",
    "recovery:inadmissible", readyToExecuteKind]

def closedPlanningEventKind (value : String) : Except String String :=
  if value ∈ closedPlanningEventKinds then .ok value else .error s!"unknown planning transition kind: {value}"

def refsStarting (row : Row) (start : String) : List Ref := row.refs.filter fun reference => startsWith reference.text start

def receiptProjectedPlanningKind (row : Row) : Except String (Option String) :=
  match refsStarting row planningTransitionKindRefPrefix with
  | [] =>
    if row.kind.text = receiptConsumedKind ∧ refsStarting row planningResultConsumedPrefix ≠ [] then
      .error "receipt planning consumption lacks its transition marker"
    else .ok none
  | marker :: others => do
    refuseIf (row.kind.text ≠ receiptConsumedKind) "planning transition marker appears outside receipt consumption"
    refuseIf (!others.isEmpty) "receipt consumption has duplicate planning transition markers"
    let kind ← ((stripPrefix planningTransitionKindRefPrefix marker.text).elim
      (.error "planning transition marker prefix drift") .ok)
    refuseIf ((refsStarting row submitReceiptConsumedPrefix).length ≠ 1)
      "receipt planning transition lacks one receipt-consumed ref"
    refuseIf ((refsStarting row planningResultConsumedPrefix).length ≠ 1)
      "receipt planning transition lacks one planning-result-consumed ref"
    some <$> closedPlanningEventKind kind

def logicalPlanningEventKind (row : Row) : Except String (Option String) := do
  match ← receiptProjectedPlanningKind row with
  | some kind => return some kind
  | none =>
    if row.kind.text = receiptConsumedKind then return none
    else return closedPlanningEventKinds.find? fun known => known == row.kind.text

def planningReadyEvent (row : Row) : Except String Bool :=
  (logicalPlanningEventKind row).map fun kind => kind == some readyToExecuteKind

structure ReadyRoot where
  schema : String
  workstream : String
  bindingPath : String
  bindingSha256 : String
  approvedPlanSha256 : String
  finalReviewActionId : String
  finalReviewAssignmentId : String
  finalReviewRunRevision : Nat
deriving DecidableEq

/-- The JSON reader and the canonical writer of a root. -/
class ReadyRootJson where
  fromJson : String → Except String ReadyRoot
  canonicalJson : ReadyRoot → String

def readyRootPrefix : String := "approved-plan-v2-ready-root:"
def readyRootSchema : String := "autopilot.approved_plan_v2_ready_root.v1"

def readyRootWorkstreamIsValid (value : String) : Bool :=
  value ≠ "" && decide (value.utf8ByteSize ≤ 128) &&
    value.toList.all fun char => char.isAlphanum || char == '.' || char == '_' || char == '-'

def isLowerHex (char : Char) : Bool := char.isDigit || (decide ('a' ≤ char) && decide (char ≤ 'f'))

def readyRootSha256IsValid (value : String) : Bool := decide (value.utf8ByteSize = 64) && value.toList.all isLowerHex

section Roots

variable [ReadyRootJson]

def parseReadyRoot (reference : Ref) : Except String (Option ReadyRoot) :=
  match stripPrefix readyRootPrefix reference.text with
  | none => .ok none
  | some json => do
    let root ← (ReadyRootJson.fromJson json).mapError fun error => s!"approved-plan-v2 ready root JSON: {error}"
    refuseIf (ReadyRootJson.canonicalJson root ≠ json || root.schema ≠ readyRootSchema ||
        !readyRootWorkstreamIsValid root.workstream || !readyRootSha256IsValid root.bindingSha256 ||
        !readyRootSha256IsValid root.approvedPlanSha256 || isBlank root.bindingPath ||
        isBlank root.finalReviewActionId || isBlank root.finalReviewAssignmentId)
      "approved-plan-v2 ready root is malformed"
    return some root

def eventHasOneRef (row : Row) (value : String) : Bool := row.refs.countP (fun reference => reference.text == value) == 1

def reviewRef (start : String) (root : ReadyRoot) : String :=
  start ++ root.finalReviewActionId ++ ":" ++ root.finalReviewAssignmentId ++ ":" ++ toString root.finalReviewRunRevision

def v2ReadyEventIsComplete (row : Row) (root : ReadyRoot) : Bool :=
  let common := eventHasOneRef row (reviewRef "terminal-consumed:" root) &&
    eventHasOneRef row (reviewRef planningResultConsumedPrefix root)
  if row.kind.text = readyToExecuteKind then
    common && eventHasOneRef row "completion-control:rooted" && eventHasOneRef row "module-wired:watchdog" &&
      (refsStarting row "watchdog-effects:").length == 1 && (refsStarting row "watchdog-semantic-authority:").length == 1
  else common && row.kind.text == receiptConsumedKind

def readyRootsOfRow (workstream : Id) (row : Row) : Except String (List ReadyRoot) := do
  let roots ← (refsStarting row readyRootPrefix).mapM parseReadyRoot
  let ready ← planningReadyEvent row
  refuseIf (!ready && !roots.isEmpty) "approved-plan-v2 ready root appears outside ready event"
  if !ready then return []
  let mine := (roots.filterMap id).filter fun root => root.workstream == workstream
  checkAll (fun root => refuseIf (roots.length ≠ 1 || !v2ReadyEventIsComplete row root)
    "approved-plan-v2 ready root event is incomplete or split") mine
  return mine

def v2ReadyRootForWorkstream (rows : Rows) (workstream : Id) : Except String (Option ReadyRoot) := do
  let found ← rows.mapM (readyRootsOfRow workstream)
  match found.flatten with
  | [] => return none
  | [root] => return some root
  | _ => .error "approved-plan-v2 ready root is ambiguous"

def planPath (workstream : Id) : String := ".pi/autopilot/" ++ workstream ++ "/approved-plan.json"

structure PlanFiles where
  currentDir : String
  readV2 : ReadyRoot → Except String (List ApprovedUnit)
  hasV2 : Bool
  readV1 : Except String (List ApprovedUnit)

def readApprovedPlan (workstream : Id) (files : PlanFiles) (rows : Rows) : Except String (List ApprovedUnit) := do
  match ← v2ReadyRootForWorkstream rows workstream with
  | some root =>
    refuseIf (root.bindingPath ≠ files.currentDir ++ "/.pi/autopilot/" ++ workstream ++ "/approved-plan.v2-binding.json")
      "approved-plan-v2 ready root binding path is not exact"
    files.readV2 root
  | none =>
    refuseIf files.hasV2 "approved-plan-v2 image/binding orphan has no ready-event authority"
    let ready ← keepM planningReadyEvent rows
    refuseIf (!ready.isEmpty && ready.countP (fun row => eventHasOneRef row (planPath workstream)) != 1)
      "approved-plan-v1 ready root lacks exact durable plan path"
    files.readV1

end Roots

def hasRefPrefix (rows : Rows) (start : String) : Bool := (refKeys rows).any fun text => startsWith text start

def queuedCandidates (rows : Rows) : Nat := (refKeys rows).countP fun text => startsWith text "candidate-queued:"

section Snapshot

variable [BindingJson] [ReadyRootJson]

def activeWork (rows : Rows) : Bool :=
  decide (0 < activeImplementers rows) || decide (0 < activeInRole rows "recovery-engineer") ||
    decide (0 < activeInRole rows "validator")

def hasMalformedRunnerBinding (rows : Rows) : Bool := (bindingRefs rows).any fun text => !(decodeVersionedBindingRef text).toBool

def activeOrUnknownWork (rows : Rows) : Bool :=
  activeWork rows || hasMalformedRunnerBinding rows || hasRefPrefix rows "unknown-job:" ||
    hasRefPrefix rows "fixer-active:" || hasRefPrefix rows "validator-unknown:"

def isGitOid (value : String) : Bool := (value.utf8ByteSize == 40 || value.utf8ByteSize == 64) && value.toList.all isLowerHex

inductive ClosureMode where
  | automatic
  | operatorRatified
deriving DecidableEq

structure SnapshotHost where
  files : PlanFiles
  firstTip : Except String String
  secondTip : Except String String
  tree : Except String String
  runId : Except String String
  stateHash : Rows → String
  mode : ClosureMode

structure FinalSnapshot where
  workstream : Id
  runId : String
  tip : String
  tree : String
  revision : Nat
  eventTip : String
  requiredLanes : List Id
  mode : ClosureMode
deriving DecidableEq

def allLanesClosed (rows : Rows) (count : Nat) : Bool := (List.range count).all fun index => laneClosed rows (approvedLaneId index)

def hasOpenWork (rows : Rows) : Bool :=
  activeOrUnknownWork rows || decide (0 < queuedCandidates rows) || hasRefPrefix rows "validation:repair-required" ||
    hasRefPrefix rows "integration:conflict-route" || hasRefPrefix rows "repair-queued:" ||
    hasRefPrefix rows "mandatory-finding:" || hasRefPrefix rows "stale-required-proof:"

def executionCompleteSnapshot (workstream : Id) (host : SnapshotHost) (rows : Rows) : Except String (Option FinalSnapshot) :=
  if hasOpenWork rows then .ok none
  else
    match readApprovedPlan workstream host.files rows with
    | .error _ => .ok none
    | .ok units =>
      if units.length = 0 || !allLanesClosed rows units.length then .ok none
      else
        match host.firstTip with
        | .error _ => .ok none
        | .ok firstTip => do
          let secondTip ← host.secondTip
          if firstTip ≠ secondTip || !isGitOid firstTip then return none
          let tree ← host.tree
          let runId ← host.runId
          return some {
            workstream := workstream
            runId := runId
            tip := firstTip
            tree := tree
            revision := rows.length
            eventTip := "sha256:" ++ host.stateHash rows
            requiredLanes := (List.range units.length).map approvedLaneId
            mode := host.mode }

def blockingStarts : List String :=
  ["unknown-job:", "fixer-active:", "validator-unknown:", "candidate-queued:", "validation:repair-required",
    "integration:conflict-route", "repair-queued:", "mandatory-finding:", "stale-required-proof:"]

omit [BindingJson] [ReadyRootJson] in
theorem has_ref_prefix {rows : Rows} {start : String} :
    hasRefPrefix rows start = true ↔ ∃ reference ∈ carried rows, startsWith reference.text start = true := by
  rw [hasRefPrefix, List.any_eq_true]
  constructor
  · rintro ⟨text, member, begins⟩
    exact ⟨⟨text⟩, (mem_ref_keys rows).mp member, begins⟩
  · rintro ⟨reference, member, begins⟩
    exact ⟨reference.text, (mem_ref_keys rows).mpr member, begins⟩

omit [BindingJson] [ReadyRootJson] in
theorem queued_candidates_decide (rows : Rows) : decide (0 < queuedCandidates rows) = hasRefPrefix rows "candidate-queued:" := by
  rw [Bool.eq_iff_iff, decide_eq_true_iff, queuedCandidates, List.countP_pos_iff, hasRefPrefix, List.any_eq_true]

def DecodedIn (rows : Rows) (binding : IssuedRunnerBinding) : Prop :=
  ∃ reference ∈ carried rows, decodeVersionedBindingRef reference.text = .ok binding

section

omit [ReadyRootJson]

theorem active_in_role_pos (rows : Rows) (roleId : String) : 0 < activeInRole rows roleId ↔
      ∃ binding, DecodedIn rows binding ∧ binding.roleId = roleId ∧ terminalConsumed rows binding = false := by
  rw [activeInRole, List.countP_pos_iff]
  constructor
  · rintro ⟨binding, member, active⟩
    obtain ⟨text, textIn, found⟩ := List.mem_filterMap.mp member
    rw [Bool.and_eq_true, beq_iff_eq, Bool.not_eq_true'] at active
    exact ⟨binding, ⟨⟨text⟩, (mem_ref_keys rows).mp textIn, activity_binding_decoded found⟩, active⟩
  · rintro ⟨binding, ⟨reference, member, decoded⟩, role, live⟩
    refine ⟨binding, List.mem_filterMap.mpr ⟨reference.text, (mem_ref_keys rows).mpr member, ?_⟩, by simp [role, live]⟩
    rw [activityBinding, decoded]
    rfl

theorem active_work_iff (rows : Rows) : activeWork rows = true ↔
      ∃ binding, DecodedIn rows binding ∧ isRunRole binding.roleId = true ∧ terminalConsumed rows binding = false := by
  rw [activeWork, Bool.or_eq_true, Bool.or_eq_true, decide_eq_true_iff, decide_eq_true_iff, decide_eq_true_iff,
    activeImplementers, active_in_role_pos, active_in_role_pos, active_in_role_pos]
  have runRole : ∀ roleId, isRunRole roleId = true ↔ (roleId = "implementer" ∨ roleId = "recovery-engineer") ∨ roleId = "validator" := by
    intro roleId
    rw [isRunRole, isDeliveryRole, Bool.or_eq_true, Bool.or_eq_true, beq_iff_eq, beq_iff_eq, beq_iff_eq]
  constructor
  · rintro ((⟨binding, decoded, role, live⟩ | ⟨binding, decoded, role, live⟩) | ⟨binding, decoded, role, live⟩)
    · exact ⟨binding, decoded, (runRole _).mpr (Or.inl (Or.inl role)), live⟩
    · exact ⟨binding, decoded, (runRole _).mpr (Or.inl (Or.inr role)), live⟩
    · exact ⟨binding, decoded, (runRole _).mpr (Or.inr role), live⟩
  · rintro ⟨binding, decoded, role, live⟩
    rcases (runRole _).mp role with (role | role) | role
    · exact Or.inl (Or.inl ⟨binding, decoded, role, live⟩)
    · exact Or.inl (Or.inr ⟨binding, decoded, role, live⟩)
    · exact Or.inr ⟨binding, decoded, role, live⟩

theorem malformed_binding_iff (rows : Rows) : hasMalformedRunnerBinding rows = true ↔ ∃ reference ∈ carried rows,
      startsWith reference.text issuedBindingRefPrefix = true ∧ ∀ binding, decodeVersionedBindingRef reference.text ≠ .ok binding := by
  rw [hasMalformedRunnerBinding, List.any_eq_true]
  constructor
  · rintro ⟨text, member, fails⟩
    obtain ⟨inRows, begins⟩ := (mem_binding_refs rows).mp member
    refine ⟨⟨text⟩, inRows, begins, fun binding decoded => ?_⟩
    have decodedText : decodeVersionedBindingRef text = .ok binding := decoded
    simp [decodedText, Except.toBool] at fails
  · rintro ⟨reference, member, begins, fails⟩
    refine ⟨reference.text, (mem_binding_refs rows).mpr ⟨member, begins⟩, ?_⟩
    cases decoded : decodeVersionedBindingRef reference.text with
    | error error => rfl
    | ok binding => exact absurd decoded (fails binding)

theorem has_open_work_iff (rows : Rows) : hasOpenWork rows = true ↔
      (∃ start ∈ blockingStarts, ∃ reference ∈ carried rows, startsWith reference.text start = true) ∨
      (∃ reference ∈ carried rows, startsWith reference.text issuedBindingRefPrefix = true ∧
        ∀ binding, decodeVersionedBindingRef reference.text ≠ .ok binding) ∨
      ∃ binding, DecodedIn rows binding ∧ isRunRole binding.roleId = true ∧ terminalConsumed rows binding = false := by
  have blocking : blockingStarts.any (hasRefPrefix rows) = true ↔
      ∃ start ∈ blockingStarts, ∃ reference ∈ carried rows, startsWith reference.text start = true := by
    rw [List.any_eq_true]
    exact exists_congr fun start => and_congr_right fun _ => has_ref_prefix
  rw [← blocking, ← malformed_binding_iff, ← active_work_iff, ← Bool.or_eq_true, ← Bool.or_eq_true, ← Bool.eq_iff_iff]
  rw [hasOpenWork, activeOrUnknownWork, queued_candidates_decide]
  simp only [blockingStarts, List.any_cons, List.any_nil, Bool.or_false]
  ac_rfl

end

def SnapshotHost.Resolves (host : SnapshotHost) : Prop :=
  ∃ tip, host.firstTip = .ok tip ∧ host.secondTip = .ok tip ∧ isGitOid tip = true ∧ (∃ tree, host.tree = .ok tree) ∧
    ∃ runId, host.runId = .ok runId

structure SnapshotOf (workstream : Id) (host : SnapshotHost) (rows : Rows) (snapshot : FinalSnapshot) : Prop where
  quiet : hasOpenWork rows = false
  plan : ∃ units, readApprovedPlan workstream host.files rows = .ok units ∧ units ≠ [] ∧
    allLanesClosed rows units.length = true ∧ snapshot.requiredLanes = (List.range units.length).map approvedLaneId
  named : snapshot.workstream = workstream
  first : host.firstTip = .ok snapshot.tip
  second : host.secondTip = .ok snapshot.tip
  isOid : isGitOid snapshot.tip = true
  tree : host.tree = .ok snapshot.tree
  runId : host.runId = .ok snapshot.runId
  mode : snapshot.mode = host.mode

theorem snapshot_of {workstream : Id} {host : SnapshotHost} {rows : Rows} {snapshot : FinalSnapshot}
    (returned : executionCompleteSnapshot workstream host rows = .ok (some snapshot)) :
    SnapshotOf workstream host rows snapshot := by
  rw [executionCompleteSnapshot] at returned
  split at returned
  · cases returned
  · rename_i quiet
    split at returned
    · cases returned
    · rename_i units readable
      split at returned
      · cases returned
      · rename_i closed
        split at returned
        · cases returned
        · rename_i tip first
          obtain ⟨second, secondOk, returned⟩ := bind_ok returned
          split at returned
          · cases returned
          · rename_i same
            obtain ⟨tree, treeOk, returned⟩ := bind_ok returned
            obtain ⟨runId, runOk, returned⟩ := bind_ok returned
            simp only [Bool.or_eq_true, decide_eq_true_eq, Bool.not_eq_true', not_or, Bool.not_eq_false,
              List.length_eq_zero_iff] at closed same
            obtain ⟨rfl, isOid⟩ := And.imp_left not_ne_iff.mp same
            cases returned
            exact ⟨by simpa using quiet, ⟨units, readable, closed.1, closed.2, rfl⟩, rfl, first, secondOk, isOid, treeOk, runOk, rfl⟩

theorem snapshot_iff (workstream : Id) (host : SnapshotHost) (rows : Rows) :
    (∃ snapshot, executionCompleteSnapshot workstream host rows = .ok (some snapshot)) ↔
      hasOpenWork rows = false ∧ (∃ units, readApprovedPlan workstream host.files rows = .ok units ∧ units ≠ [] ∧
        allLanesClosed rows units.length = true) ∧ host.Resolves := by
  constructor
  · rintro ⟨snapshot, returned⟩
    have found := snapshot_of returned
    obtain ⟨units, readable, nonempty, closed, _⟩ := found.plan
    exact ⟨found.quiet, ⟨units, readable, nonempty, closed⟩, snapshot.tip, found.first, found.second, found.isOid,
      ⟨_, found.tree⟩, _, found.runId⟩
  · rintro ⟨quiet, ⟨units, readable, some, closed⟩, tip, first, second, isOid, ⟨tree, treeOk⟩, runId, runOk⟩
    have nonempty : ¬ (units.length = 0 || !allLanesClosed rows units.length) = true := by simp [some, closed]
    have same : ¬ (decide (tip ≠ tip) || !isGitOid tip) = true := by simp [isOid]
    rw [executionCompleteSnapshot, quiet, readable]
    simp only [nonempty, first]
    exact ⟨_, bind_eq_ok second (by rw [if_neg same]; exact bind_eq_ok treeOk (bind_eq_ok runOk rfl))⟩

end Snapshot

end PiAutopilot.Delivery
