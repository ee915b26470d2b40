import PiAutopilot.Delivery.Plan
import PiAutopilot.Lib.Claims
import PiAutopilot.Lib.KeySort
import PiAutopilot.Receipts.DeadChild

set_option autoImplicit false

/-! # The latch of a blocked report

A blocked report freezes which tasks are cancelled.  The list is derived from the launch acknowledgements
of the log, and two validators then check the latch that carries it. -/

namespace PiAutopilot.Receipts

open EventLog Lib Delivery

structure BlockedCancellationRecord where
  taskId : String
  actionId : String
  assignmentId : String
  cancellationIndex : Nat
  reporter : Bool
deriving DecidableEq

structure BlockedReceipt where
  schema : String
  receiptId : String
  runId : String
  runRevision : Nat
  workstream : String
  actionId : String
  assignmentId : String
  attempt : Nat
  profileId : String
  toolName : String
  requestId : String
  toolCallId : String
  reportDigest : String
  reasonCode : String
  cancellationSetDigest : String

structure BlockedLatch where
  schema : String
  latchId : String
  blockedReceiptId : String
  runId : String
  runRevision : Nat
  workstream : String
  reporterAssignmentId : String
  cancellationSetDigest : String
  cancellations : List BlockedCancellationRecord

def blockedProfileId : String := "autopilot.blocked_report.v1:autopilot_report_blocked"

def blockedToolName : String := "autopilot_report_blocked"

def isLowerHexSha256 (value : String) : Bool :=
  value.toList.length == 64 && value.toList.all fun char => char.isDigit || ('a' ≤ char && char ≤ 'f')

/-- The digest of a text, and the canonical JSON of a list of records. -/
structure LatchHost where
  sha256Hex : String → String
  recordsText : List BlockedCancellationRecord → String
  hex : ∀ text, isLowerHexSha256 (sha256Hex text) = true

def cancellationDigest (host : LatchHost) (records : List BlockedCancellationRecord) : String :=
  host.sha256Hex (host.recordsText records)

def cancellationDrift : String := "blocked cancellation identity/index drift"

def cancellationsApart (entry earlier : BlockedCancellationRecord × Nat) : Except String Unit :=
  refuseIf (entry.1.taskId == earlier.1.taskId || entry.1.actionId == earlier.1.actionId ||
    entry.1.assignmentId == earlier.1.assignmentId) cancellationDrift

def checkCancellation (receipt : BlockedReceipt) (latch : BlockedLatch) (entry : BlockedCancellationRecord × Nat) : Except String Unit := do
  refuseIf (entry.1.cancellationIndex != entry.2 % 2 ^ 32 || isBlank entry.1.taskId || isBlank entry.1.actionId ||
    isBlank entry.1.assignmentId) cancellationDrift
  refuseIf (entry.1.reporter && (entry.2 + 1 != latch.cancellations.length ||
    entry.1.assignmentId != latch.reporterAssignmentId || entry.1.assignmentId != receipt.assignmentId ||
    entry.1.actionId != receipt.actionId)) "blocked reporter ordering/identity drift"

def validateBlockedLatch (host : LatchHost) (receipt : BlockedReceipt) (latch : BlockedLatch) : Except String Unit := do
  refuseIf (receipt.schema != "autopilot.blocked_receipt.v1" || latch.schema != "autopilot.blocked_latch.v1" ||
    isBlank receipt.receiptId || isBlank receipt.requestId || isBlank receipt.toolCallId ||
    receipt.profileId != blockedProfileId || receipt.toolName != blockedToolName || isBlank latch.latchId ||
    latch.blockedReceiptId != receipt.receiptId || latch.runId != receipt.runId ||
    latch.runRevision != receipt.runRevision || latch.workstream != receipt.workstream ||
    latch.cancellationSetDigest != receipt.cancellationSetDigest || !isLowerHexSha256 receipt.reportDigest ||
    !isLowerHexSha256 receipt.cancellationSetDigest || latch.cancellations.isEmpty) "blocked receipt/latch identity drift"
  let _ ← claimAll cancellationsApart (checkCancellation receipt latch) [] latch.cancellations.zipIdx
  refuseIf ((latch.cancellations.filter BlockedCancellationRecord.reporter).length != 1 ||
    cancellationDigest host latch.cancellations != latch.cancellationSetDigest) "blocked cancellation reporter/digest drift"

section Launches

variable [RunnerBindingJson]

def launchAckRefs (task : TaskBindingRef) : List Ref :=
  [⟨task.taskId⟩, ⟨task.actionId⟩, ⟨task.assignmentId⟩, ⟨toString task.runRevision⟩,
    ⟨"task-binding:" ++ RunnerBindingJson.taskBindingText task⟩,
    ⟨s!"launch-ack:{task.actionId}:{task.assignmentId}:{task.runRevision}"⟩]

def exactLaunchAckTaskBinding (row : Row) : Except String (Option TaskBindingRef) :=
  if row.kind.text ≠ "background:launch-ack" then .ok none
  else if row.refs.length ≠ 6 then .error "background launch acknowledgement ref count drift"
  else
    match stripPrefix "task-binding:" (row.refs.getD 4 ⟨""⟩).text with
    | none => .error "background launch acknowledgement lacks task binding"
    | some text =>
      match RunnerBindingJson.taskBindingFromText text with
      | .error failed => .error s!"background launch task binding JSON: {failed}"
      | .ok parsed =>
        if row.refs ≠ launchAckRefs parsed then .error "background launch acknowledgement identity drift"
        else .ok (some parsed)

abbrev LaunchKey := String × String × Nat

def TaskBindingRef.key (task : TaskBindingRef) : LaunchKey := (task.actionId, task.assignmentId, task.runRevision)

def ReceiptV1RunnerBinding.key (binding : ReceiptV1RunnerBinding) : LaunchKey :=
  (binding.actionId, binding.assignmentId, binding.runRevision)

def VersionedRunnerBinding.receipt : VersionedRunnerBinding → Option ReceiptV1RunnerBinding
  | .replayV0 _ => none
  | .receiptV1 binding => some binding

def inScope (runId workstream : String) (bindings : List VersionedRunnerBinding) : List ReceiptV1RunnerBinding :=
  (bindings.filterMap VersionedRunnerBinding.receipt).filter fun binding =>
    binding.runId == runId && binding.workstream == workstream

def scopedBindings (ambiguous runId workstream : String) (rows : Rows) : Except String (List ReceiptV1RunnerBinding) := do
  let bindings ← strictVersionedRunnerBindings rows
  let kept := inScope runId workstream bindings
  refuseIf (!decide (kept.map ReceiptV1RunnerBinding.key).Nodup) ambiguous
  return kept

abbrev Launch := String × ReceiptV1RunnerBinding

variable (bindings : List ReceiptV1RunnerBinding) (skip : ReceiptV1RunnerBinding → Bool)

def gatherRow (duplicate : String) (found : List Launch) (row : Row) : Except String (List Launch) :=
  match exactLaunchAckTaskBinding row with
  | .error failed => .error failed
  | .ok none => .ok found
  | .ok (some task) =>
    match bindings.find? fun binding => binding.key = task.key with
    | none => .ok found
    | some binding =>
      if skip binding then .ok found
      else if task.taskId ∈ found.map Prod.fst then .error duplicate
      else .ok (found ++ [(task.taskId, binding)])

/-- The deriver skips finished children; the validator of the scope skips none. -/
def gatherLaunches (duplicate : String) (rows : Rows) : Except String (List Launch) :=
  rows.foldlM (gatherRow bindings skip duplicate) []

variable (rows : Rows)

def isFinished (binding : ReceiptV1RunnerBinding) : Bool :=
  terminalConsumed rows (receiptV1ValidatorFacade binding).toIssuedRunnerBinding

variable (reporter : ReceiptV1RunnerBinding)

def isReporter (launch : Launch) : Bool := decide (launch.2.key = reporter.key)

def cancellation (launch : Launch) : BlockedCancellationRecord :=
  ⟨launch.1, launch.2.actionId, launch.2.assignmentId, 0, isReporter reporter launch⟩

def numbered (records : List BlockedCancellationRecord) : List BlockedCancellationRecord :=
  records.zipIdx.map fun entry => { entry.1 with cancellationIndex := entry.2 % 2 ^ 32 }

-- The map of launches is walked in the order of its keys, the task ids; sorting it by them again changes nothing.
def deriveBlockedCancellations : Except String (List BlockedCancellationRecord) := do
  let bindings ← scopedBindings "ambiguous receipt_v1 binding in blocked workstream" reporter.runId reporter.workstream rows
  refuseIf (!bindings.any fun binding => decide (binding.key = reporter.key))
    "blocked reporter binding is absent from its durable workstream"
  let found ← gatherLaunches bindings (isFinished rows) "duplicate durable task id in blocked cancellation scope" rows
  let candidates := sortByKey found
  refuseIf ((candidates.filter (isReporter reporter)).length != 1)
    "blocked reporter requires exactly one durable launch acknowledgement"
  match (candidates.filter (isReporter reporter)).getLast? with
  | none => .error "blocked reporter launch acknowledgement disappeared"
  | some last =>
    return numbered ((candidates.filter fun launch => !isReporter reporter launch).map (cancellation reporter) ++
      [cancellation reporter last])

def validateBlockedLatchLaunchScope (receipt : BlockedReceipt) (latch : BlockedLatch) : Except String Unit := do
  let bindings ← scopedBindings "ambiguous blocked launch binding" receipt.runId receipt.workstream rows
  let acknowledgements ← gatherLaunches bindings (fun _ => false) "duplicate task id in durable blocked launch scope" rows
  checkAll
    (fun record =>
      match acknowledgements.find? fun launch => launch.1 = record.taskId with
      | none => .error "blocked cancellation task lacks launch acknowledgement"
      | some launch =>
        refuseIf (launch.2.actionId != record.actionId || launch.2.assignmentId != record.assignmentId)
          "blocked cancellation task/binding drift") latch.cancellations

structure BlockedRequest where
  requestId : String
  toolCallId : String
  raw : String
  reasonCode : String

structure FreshIds where
  receiptId : String
  latchId : String
  receiptNamed : isBlank receiptId = false
  latchNamed : isBlank latchId = false

def blockedReceipt (host : LatchHost) (ids : FreshIds) (request : BlockedRequest) (binding : ReceiptV1RunnerBinding)
    (records : List BlockedCancellationRecord) : BlockedReceipt where
  schema := "autopilot.blocked_receipt.v1"
  receiptId := ids.receiptId
  runId := binding.runId
  runRevision := binding.runRevision
  workstream := binding.workstream
  actionId := binding.actionId
  assignmentId := binding.assignmentId
  attempt := binding.attempt
  profileId := blockedProfileId
  toolName := blockedToolName
  requestId := request.requestId
  toolCallId := request.toolCallId
  reportDigest := host.sha256Hex request.raw
  reasonCode := request.reasonCode
  cancellationSetDigest := cancellationDigest host records

def blockedLatch (host : LatchHost) (ids : FreshIds) (binding : ReceiptV1RunnerBinding)
    (records : List BlockedCancellationRecord) : BlockedLatch where
  schema := "autopilot.blocked_latch.v1"
  latchId := ids.latchId
  blockedReceiptId := ids.receiptId
  runId := binding.runId
  runRevision := binding.runRevision
  workstream := binding.workstream
  reporterAssignmentId := binding.assignmentId
  cancellationSetDigest := cancellationDigest host records
  cancellations := records

def launchOf (row : Row) : List Launch :=
  match exactLaunchAckTaskBinding row with
  | .ok (some task) => ((bindings.find? fun binding => binding.key = task.key).map fun binding => (task.taskId, binding)).toList
  | _ => []

def acknowledgedIn : List Launch := rows.flatMap (launchOf bindings)

def acknowledged : List Launch :=
  acknowledgedIn (inScope reporter.runId reporter.workstream ((strictVersionedRunnerBindings rows).toOption.getD [])) rows

def liveLaunches : List Launch := (acknowledged rows reporter).filter fun launch => !isFinished rows launch.2

theorem launch_of_distinct {row : Row} {keep : Launch → Bool} : (((launchOf bindings row).filter keep).map Prod.fst).Nodup := by
  refine ((List.filter_sublist.map _).nodup) ?_
  rw [launchOf]
  split
  · cases bindings.find? _ with
    | none => exact List.nodup_nil
    | some binding => exact List.nodup_singleton _
  · exact List.nodup_nil

theorem gather_row_ok (duplicate : String) (found after : List Launch) (row : Row) :
    gatherRow bindings skip duplicate found row = .ok after ↔ (∃ parsed, exactLaunchAckTaskBinding row = .ok parsed) ∧
        after = found ++ (launchOf bindings row).filter (fun launch => !skip launch.2) ∧
        ∀ launch ∈ (launchOf bindings row).filter (fun launch => !skip launch.2), launch.1 ∉ found.map Prod.fst := by
  rw [gatherRow, launchOf]
  cases exactLaunchAckTaskBinding row with
  | error failed => simp
  | ok parsed =>
    cases parsed with
    | none => simp [eq_comm]
    | some task =>
      cases known : bindings.find? fun binding => binding.key = task.key with
      | none => simp [known, eq_comm]
      | some binding =>
        simp only [known, Option.map_some, Option.toList_some, Except.ok.injEq, exists_eq', true_and]
        by_cases skipped : skip binding = true
        · simp [skipped, eq_comm]
        · by_cases again : task.taskId ∈ found.map Prod.fst
          · simp [skipped, again, -List.mem_map]
          · simp [skipped, again, -List.mem_map, eq_comm]

theorem gather_ok (duplicate : String) (rows : Rows) (found : List Launch) :
    gatherLaunches bindings skip duplicate rows = .ok found ↔ (∀ row ∈ rows, ∃ parsed, exactLaunchAckTaskBinding row = .ok parsed) ∧
        found = (acknowledgedIn bindings rows).filter (fun launch => !skip launch.2) ∧ (found.map Prod.fst).Nodup := by
  rw [gatherLaunches]
  induction rows using List.reverseRecOn generalizing found with
  | nil =>
    constructor
    · intro same
      cases same
      exact ⟨nofun, rfl, List.nodup_nil⟩
    · rintro ⟨_, rfl, _⟩
      rfl
  | append_singleton rows row ih =>
    rw [foldlM_snoc, List.forall_mem_append, acknowledgedIn, List.flatMap_append, List.filter_append]
    simp only [List.mem_singleton, forall_eq, List.flatMap_singleton, gather_row_ok]
    constructor
    · rintro ⟨middle, gathered, parsed, rfl, fresh⟩
      obtain ⟨parses, rfl, distinct⟩ := (ih middle).mp gathered
      refine ⟨⟨parses, parsed⟩, rfl, ?_⟩
      rw [List.map_append, List.nodup_append]
      refine ⟨distinct, launch_of_distinct bindings, ?_⟩
      rintro taskId earlier _ later rfl
      obtain ⟨launch, isLaunch, rfl⟩ := List.mem_map.mp later
      exact fresh launch isLaunch earlier
    · rintro ⟨⟨parses, parsed⟩, rfl, distinct⟩
      rw [List.map_append, List.nodup_append] at distinct
      refine ⟨_, (ih _).mpr ⟨parses, rfl, distinct.1⟩, parsed, rfl, fun launch isLaunch earlier => ?_⟩
      exact distinct.2.2 _ earlier _ (List.mem_map_of_mem isLaunch) rfl

abbrev Identity := String × String × String

def BlockedCancellationRecord.identity (record : BlockedCancellationRecord) : Identity :=
  (record.taskId, record.actionId, record.assignmentId)

def launchIdentity (launch : Launch) : Identity := (launch.1, launch.2.actionId, launch.2.assignmentId)

omit [RunnerBindingJson] in
theorem numbered_entry (records : List BlockedCancellationRecord) (index : Nat) :
    (numbered records)[index]? = records[index]?.map fun record => { record with cancellationIndex := index % 2 ^ 32 } := by
  rw [numbered, List.getElem?_map, List.getElem?_zipIdx]
  simp [Function.comp_def]

omit [RunnerBindingJson] in
theorem numbered_map {β : Type} {field : BlockedCancellationRecord → β}
    (same : ∀ record index, field { record with cancellationIndex := index } = field record)
    (records : List BlockedCancellationRecord) : (numbered records).map field = records.map field := by
  refine List.ext_getElem? fun index => ?_
  rw [List.getElem?_map, numbered_entry, Option.map_map]
  simp [Function.comp_def, same]

structure Derived (rows : Rows) (reporter : ReceiptV1RunnerBinding) (others : List Launch) (last : Launch)
    (records : List BlockedCancellationRecord) : Prop where
  scope : ∀ ambiguous, scopedBindings ambiguous reporter.runId reporter.workstream rows =
    .ok (inScope reporter.runId reporter.workstream ((strictVersionedRunnerBindings rows).toOption.getD []))
  parses : ∀ row ∈ rows, ∃ parsed, exactLaunchAckTaskBinding row = .ok parsed
  tasks : ((liveLaunches rows reporter).map Prod.fst).Nodup
  covers : (others ++ [last]).Perm (liveLaunches rows reporter)
  sibling : ∀ other ∈ others, isReporter reporter other = false
  own : isReporter reporter last = true
  listed : records = numbered ((others ++ [last]).map (cancellation reporter))

theorem scoped_ok (ambiguous runId workstream : String) (rows : Rows) (kept : List ReceiptV1RunnerBinding) :
    scopedBindings ambiguous runId workstream rows = .ok kept ↔ ∃ bindings, strictVersionedRunnerBindings rows = .ok bindings ∧
      ((inScope runId workstream bindings).map ReceiptV1RunnerBinding.key).Nodup ∧ kept = inScope runId workstream bindings := by
  constructor
  · intro ran
    obtain ⟨bindings, strict, ran⟩ := bind_ok ran
    obtain ⟨_, distinct, returned⟩ := bind_ok ran
    cases returned
    rw [refuse_if_ok] at distinct
    exact ⟨bindings, strict, by simpa using distinct, rfl⟩
  · rintro ⟨bindings, strict, distinct, rfl⟩
    exact bind_eq_ok strict (bind_eq_ok ((refuse_if_ok).mpr (by simpa using distinct)) rfl)

omit [RunnerBindingJson] in
theorem split_last {reporter : ReceiptV1RunnerBinding} {candidates : List Launch} {last : Launch}
    (only : candidates.filter (isReporter reporter) = [last]) :
    ((candidates.filter fun launch => !isReporter reporter launch) ++ [last]).Perm candidates := by
  rw [← only]
  exact List.perm_append_comm.trans (List.filter_append_perm (isReporter reporter) candidates)

theorem derive_ok {rows : Rows} {reporter : ReceiptV1RunnerBinding} {records : List BlockedCancellationRecord}
    (derived : deriveBlockedCancellations rows reporter = .ok records) :
    ∃ others last, Derived rows reporter others last records := by
  obtain ⟨bindings, inside, derived⟩ := bind_ok derived
  obtain ⟨all, strict, distinct, rfl⟩ := (scoped_ok _ _ _ _ _).mp inside
  obtain ⟨_, _, derived⟩ := bind_ok derived
  obtain ⟨found, gathered, derived⟩ := bind_ok derived
  obtain ⟨parses, rfl, tasks⟩ := (gather_ok _ _ _ _ _).mp gathered
  obtain ⟨_, single, derived⟩ := bind_ok derived
  have known : (strictVersionedRunnerBindings rows).toOption.getD [] = all := by
    rw [strict]
    rfl
  have live : (acknowledgedIn (inScope reporter.runId reporter.workstream all) rows).filter (fun launch => !isFinished rows launch.2) =
      liveLaunches rows reporter := by
    rw [liveLaunches, acknowledged, known]
  rw [live] at single derived tasks
  rw [refuse_if_ok] at single
  obtain ⟨last, only⟩ := List.length_eq_one_iff.mp (by simpa using single)
  rw [only] at derived
  cases derived
  refine ⟨_, last, ?_, parses, tasks, (split_last only).trans (sort_by_key_perm _), ?_, ?_, ?_⟩
  · intro ambiguous
    rw [known]
    exact (scoped_ok _ _ _ _ _).mpr ⟨all, strict, distinct, rfl⟩
  · intro other member
    simpa using (List.mem_filter.mp member).2
  · have isLast : last ∈ (sortByKey (liveLaunches rows reporter)).filter (isReporter reporter) := by
      rw [only]
      exact List.mem_cons_self
    exact (List.mem_filter.mp isLast).2
  · rw [List.map_append]
    rfl

structure LatchAccepted (host : LatchHost) (ids : FreshIds) (request : BlockedRequest) (rows : Rows)
    (reporter : ReceiptV1RunnerBinding) (records : List BlockedCancellationRecord) : Prop where
  valid : validateBlockedLatch host (blockedReceipt host ids request reporter records)
    (blockedLatch host ids reporter records) = .ok ()
  launchScope : validateBlockedLatchLaunchScope rows (blockedReceipt host ids request reporter records)
    (blockedLatch host ids reporter records) = .ok ()
  covers : (records.map BlockedCancellationRecord.identity).Perm ((liveLaunches rows reporter).map launchIdentity)
  once : ((liveLaunches rows reporter).map Prod.snd).Nodup
  reporterLast : ∃ others last, records = others ++ [last] ∧ last.reporter = true ∧ last.actionId = reporter.actionId ∧
    last.assignmentId = reporter.assignmentId ∧ ∀ other ∈ others, other.reporter = false

structure Latchable (rows : Rows) (reporter : ReceiptV1RunnerBinding) (request : BlockedRequest) : Prop where
  requestNamed : isBlank request.requestId = false
  callNamed : isBlank request.toolCallId = false
  named : ∀ launch ∈ liveLaunches rows reporter,
    isBlank launch.1 = false ∧ isBlank launch.2.actionId = false ∧ isBlank launch.2.assignmentId = false
  actions : ((liveLaunches rows reporter).map fun launch => launch.2.actionId).Nodup
  assignments : ((liveLaunches rows reporter).map fun launch => launch.2.assignmentId).Nodup
  tasks : ((acknowledged rows reporter).map Prod.fst).Nodup

def Named (identity : Identity) : Prop := isBlank identity.1 = false ∧ isBlank identity.2.1 = false ∧ isBlank identity.2.2 = false

def Apart (left right : Identity) : Prop := left.1 ≠ right.1 ∧ left.2.1 ≠ right.2.1 ∧ left.2.2 ≠ right.2.2

section

omit [RunnerBindingJson]

theorem apart_iff (identities : List Identity) : identities.Pairwise Apart ↔
    (identities.map fun identity => identity.1).Nodup ∧ (identities.map fun identity => identity.2.1).Nodup ∧
      (identities.map fun identity => identity.2.2).Nodup := by
  simp only [List.Nodup, List.pairwise_map, ← List.pairwise_and_iff]
  rfl

theorem validate_ok (host : LatchHost) (ids : FreshIds) (request : BlockedRequest) (binding : ReceiptV1RunnerBinding)
    (records : List BlockedCancellationRecord) :
    validateBlockedLatch host (blockedReceipt host ids request binding records) (blockedLatch host ids binding records) = .ok () ↔
      (isBlank request.requestId = false ∧ isBlank request.toolCallId = false ∧ records ≠ []) ∧ Claimable cancellationsApart
          (checkCancellation (blockedReceipt host ids request binding records) (blockedLatch host ids binding records)) []
          records.zipIdx ∧ (records.filter BlockedCancellationRecord.reporter).length = 1 := by
  have digests : isLowerHexSha256 (cancellationDigest host records) = true := host.hex _
  rw [validateBlockedLatch, then_ok]
  refine and_congr ?_ ?_
  · simp [blockedReceipt, blockedLatch, ids.receiptNamed, ids.latchNamed, host.hex, digests, and_assoc]
  · constructor
    · intro ran
      obtain ⟨held, claimed, last⟩ := bind_ok ran
      exact ⟨((claim_all_ok _ _ _ _ _).mp claimed).2, by simpa [blockedLatch] using last⟩
    · rintro ⟨claimable, single⟩
      refine bind_eq_ok ((claim_all_ok _ _ _ _ _).mpr ⟨rfl, claimable⟩) ((refuse_if_ok).mpr ?_)
      simpa [blockedLatch] using single

theorem apart_ok (entry earlier : BlockedCancellationRecord × Nat) :
    cancellationsApart entry earlier = .ok () ↔ Apart earlier.1.identity entry.1.identity := by
  rw [cancellationsApart, refuse_if_ok, Apart, ne_comm, ne_comm (a := earlier.1.identity.2.1), ne_comm (a := earlier.1.identity.2.2)]
  simp [BlockedCancellationRecord.identity, and_assoc]

end

variable {rows : Rows} {reporter : ReceiptV1RunnerBinding} {others : List Launch} {last : Launch} {records : List BlockedCancellationRecord}
  (derived : Derived rows reporter others last records)

include derived

theorem derived_entry (index : Nat) (record : BlockedCancellationRecord) (listed : records[index]? = some record) :
    record.cancellationIndex = index % 2 ^ 32 ∧ (record.reporter = true → index + 1 = records.length ∧
      record.actionId = reporter.actionId ∧ record.assignmentId = reporter.assignmentId) := by
  have length : records.length = others.length + 1 := by
    rw [derived.listed, ← List.length_map (f := BlockedCancellationRecord.taskId), numbered_map (fun _ _ => rfl)]
    simp
  rw [derived.listed, numbered_entry, List.getElem?_map, Option.map_map, Option.map_eq_some_iff] at listed
  obtain ⟨launch, isLaunch, rfl⟩ := listed
  refine ⟨rfl, fun isOwn => ?_⟩
  have own : isReporter reporter launch = true := isOwn
  have keys : launch.2.key = reporter.key := of_decide_eq_true own
  refine ⟨?_, congrArg (fun key => key.1) keys, congrArg (fun key => key.2.1) keys⟩
  rcases Nat.lt_or_ge index others.length with early | late
  · rw [List.getElem?_append_left early] at isLaunch
    rw [derived.sibling launch (List.mem_of_getElem? isLaunch)] at own
    cases own
  · have bound := (List.getElem?_eq_some_iff.mp isLaunch).1
    rw [List.length_append, List.length_singleton] at bound
    omega

theorem derived_identities :
    (records.map BlockedCancellationRecord.identity).Perm ((liveLaunches rows reporter).map launchIdentity) := by
  rw [derived.listed, numbered_map (fun _ _ => rfl), List.map_map]
  exact derived.covers.map launchIdentity

theorem derived_reporters : records.map BlockedCancellationRecord.reporter = List.replicate others.length false ++ [true] := by
  rw [derived.listed, numbered_map (fun _ _ => rfl), List.map_map, List.map_append]
  refine congrArg₂ (· ++ ·) (List.eq_replicate_iff.mpr ⟨List.length_map _, ?_⟩) (congrArg (fun own => [own]) derived.own)
  intro flag member
  obtain ⟨other, isOther, rfl⟩ := List.mem_map.mp member
  exact derived.sibling other isOther

theorem derived_valid (host : LatchHost) (ids : FreshIds) (request : BlockedRequest) :
    validateBlockedLatch host (blockedReceipt host ids request reporter records) (blockedLatch host ids reporter records) = .ok () ↔
      (isBlank request.requestId = false ∧ isBlank request.toolCallId = false) ∧
        (∀ launch ∈ liveLaunches rows reporter, Named (launchIdentity launch)) ∧
        ((liveLaunches rows reporter).map launchIdentity).Pairwise Apart := by
  have flags := derived_reporters derived
  have nonempty : records ≠ [] := by
    rintro rfl
    simp at flags
  have single : (records.filter BlockedCancellationRecord.reporter).length = 1 := by
    have counted := congrArg (List.countP id) flags
    rw [← List.countP_eq_length_filter]
    simpa [List.countP_append, List.countP_replicate] using counted
  have checks : ∀ entry ∈ records.zipIdx,
      (checkCancellation (blockedReceipt host ids request reporter records) (blockedLatch host ids reporter records) entry = .ok () ↔
        Named entry.1.identity) := by
    rintro ⟨record, index⟩ member
    obtain ⟨indexed, own⟩ := derived_entry derived index record (List.mem_zipIdx_iff_getElem?.mp member)
    rw [checkCancellation, then_ok, refuse_if_ok, Named]
    by_cases isOwn : record.reporter = true
    · obtain ⟨atEnd, action, assignment⟩ := own isOwn
      simp [indexed, blockedLatch, blockedReceipt, atEnd, action, assignment, and_assoc, BlockedCancellationRecord.identity]
    · simp [indexed, isOwn, and_assoc, BlockedCancellationRecord.identity]
  have identities := derived_identities derived
  have zipped : (records.zipIdx.map fun entry => entry.1.identity).Perm ((liveLaunches rows reporter).map launchIdentity) := by
    rw [← List.zipIdx_map_fst 0 records, List.map_map] at identities
    exact identities
  have named : (∀ entry ∈ records.zipIdx, Named entry.1.identity) ↔
      ∀ launch ∈ liveLaunches rows reporter, Named (launchIdentity launch) := by
    constructor
    · intro all launch member
      obtain ⟨entry, isEntry, same⟩ := List.mem_map.mp (zipped.mem_iff.mpr (List.mem_map_of_mem member))
      rw [← same]
      exact all entry isEntry
    · intro all entry member
      obtain ⟨launch, isLaunch, same⟩ := List.mem_map.mp (zipped.mem_iff.mp (List.mem_map_of_mem member))
      rw [← same]
      exact all launch isLaunch
  have apart : (records.zipIdx.Pairwise fun earlier later => cancellationsApart later earlier = .ok ()) ↔
      ((liveLaunches rows reporter).map launchIdentity).Pairwise Apart := by
    simp only [apart_ok]
    rw [← zipped.pairwise_iff fun swapped => ⟨swapped.1.symm, swapped.2.1.symm, swapped.2.2.symm⟩, List.pairwise_map]
  rw [validate_ok]
  constructor
  · rintro ⟨⟨request, call, _⟩, claimable, _⟩
    refine ⟨⟨request, call⟩, named.mp fun entry member => ?_, apart.mp claimable.pairs⟩
    exact (checks entry member).mp (claimable.checked entry member)
  · rintro ⟨⟨request, call⟩, allNamed, allApart⟩
    refine ⟨⟨request, call, nonempty⟩, ⟨fun entry member => ?_, nofun, apart.mpr allApart⟩, single⟩
    exact (checks entry member).mpr (named.mpr allNamed entry member)

theorem scope_tasks {host : LatchHost} {ids : FreshIds} {request : BlockedRequest} :
    validateBlockedLatchLaunchScope rows (blockedReceipt host ids request reporter records) (blockedLatch host ids reporter records) =
      .ok () ↔ ((acknowledged rows reporter).map Prod.fst).Nodup := by
  have gathered : ∀ duplicate launches, gatherLaunches
      (inScope reporter.runId reporter.workstream ((strictVersionedRunnerBindings rows).toOption.getD [])) (fun _ => false)
        duplicate rows = .ok launches ↔ launches = acknowledged rows reporter ∧ ((acknowledged rows reporter).map Prod.fst).Nodup := by
    intro duplicate launches
    rw [gather_ok]
    simp only [Bool.not_false, List.filter_true]
    constructor
    · rintro ⟨_, rfl, distinct⟩
      exact ⟨rfl, distinct⟩
    · rintro ⟨rfl, distinct⟩
      exact ⟨derived.parses, rfl, distinct⟩
  constructor
  · intro ran
    obtain ⟨bindings, inside, ran⟩ := bind_ok ran
    rw [blockedReceipt, derived.scope] at inside
    cases inside
    obtain ⟨launches, found, _⟩ := bind_ok ran
    exact ((gathered _ _).mp found).2
  · intro distinct
    refine bind_eq_ok (derived.scope _) (bind_eq_ok ((gathered _ _).mpr ⟨rfl, distinct⟩) ?_)
    rw [check_all_ok]
    intro record member
    obtain ⟨launch, isLaunch, same⟩ :=
      List.mem_map.mp ((derived_identities derived).mem_iff.mp (List.mem_map_of_mem (f := BlockedCancellationRecord.identity) member))
    have listed : launch ∈ acknowledged rows reporter := List.mem_of_mem_filter isLaunch
    have taskId : launch.1 = record.taskId := congrArg (fun identity => identity.1) same
    have actionId : launch.2.actionId = record.actionId := congrArg (fun identity => identity.2.1) same
    have assignmentId : launch.2.assignmentId = record.assignmentId := congrArg (fun identity => identity.2.2) same
    cases found : (acknowledged rows reporter).find? fun launch => launch.1 = record.taskId with
    | none =>
      have missing := List.find?_eq_none.mp found launch listed
      simp [taskId] at missing
    | some other =>
      have sameTask : other.1 = launch.1 := by
        have matched := List.find?_some found
        rw [taskId]
        exact of_decide_eq_true matched
      obtain rfl := List.inj_on_of_nodup_map distinct (List.mem_of_find?_eq_some found) listed sameTask
      simp [actionId, assignmentId]

theorem derived_reporter_last :
    ∃ front final, records = front ++ [final] ∧ final.reporter = true ∧ final.actionId = reporter.actionId ∧
      final.assignmentId = reporter.assignmentId ∧ ∀ other ∈ front, other.reporter = false := by
  have flags := derived_reporters derived
  rcases List.eq_nil_or_concat' records with rfl | ⟨front, final, rfl⟩
  · simp at flags
  · rw [List.map_append] at flags
    obtain ⟨siblings, own⟩ := List.append_inj' flags rfl
    have isOwn : final.reporter = true := (List.cons.inj own).1
    obtain ⟨_, identity⟩ := derived_entry derived front.length final (by simp)
    refine ⟨front, final, rfl, isOwn, (identity isOwn).2.1, (identity isOwn).2.2, fun other member => ?_⟩
    have flag : other.reporter ∈ front.map BlockedCancellationRecord.reporter := List.mem_map_of_mem member
    rw [siblings] at flag
    exact List.eq_of_mem_replicate flag

omit derived

theorem derived_latch_accepted_iff (host : LatchHost) (ids : FreshIds) (request : BlockedRequest) (rows : Rows)
    (reporter : ReceiptV1RunnerBinding) (records : List BlockedCancellationRecord)
    (derived : deriveBlockedCancellations rows reporter = .ok records) :
    LatchAccepted host ids request rows reporter records ↔ Latchable rows reporter request := by
  obtain ⟨others, last, facts⟩ := derive_ok derived
  have tasks : ((liveLaunches rows reporter).map launchIdentity).map (fun identity => identity.1) =
      (liveLaunches rows reporter).map Prod.fst := by
    rw [List.map_map]
    rfl
  have valid := derived_valid facts host ids request
  rw [apart_iff, tasks, List.map_map, List.map_map] at valid
  constructor
  · intro accepted
    obtain ⟨⟨request, call⟩, named, _, actions, assignments⟩ := valid.mp accepted.valid
    exact ⟨request, call, named, actions, assignments, (scope_tasks facts).mp accepted.launchScope⟩
  · intro latchable
    refine ⟨valid.mpr ⟨⟨latchable.requestNamed, latchable.callNamed⟩, latchable.named, facts.tasks, latchable.actions,
      latchable.assignments⟩, (scope_tasks facts).mpr latchable.tasks, derived_identities facts, ?_, ?_⟩
    · refine List.Nodup.of_map (fun binding => binding.actionId) ?_
      rw [List.map_map]
      exact latchable.actions
    · exact derived_reporter_last facts

theorem exact_launch_ack (task : TaskBindingRef)
    (reads : RunnerBindingJson.taskBindingFromText (RunnerBindingJson.taskBindingText task) = .ok task) :
    exactLaunchAckTaskBinding ⟨⟨"background:launch-ack"⟩, launchAckRefs task⟩ = .ok (some task) := by
  have text : ((launchAckRefs task).getD 4 ⟨""⟩).text = "task-binding:" ++ RunnerBindingJson.taskBindingText task := rfl
  simp only [exactLaunchAckTaskBinding, text, strip_prefix_append, reads]
  rw [if_neg (not_not.mpr rfl), if_neg (not_not.mpr rfl)]
  exact if_neg (not_not.mpr rfl)

theorem other_row (kind : String) (refs : List Ref) (other : kind ≠ "background:launch-ack") :
    exactLaunchAckTaskBinding ⟨⟨kind⟩, refs⟩ = .ok none :=
  if_pos other

theorem strict_of_issued {rows : Rows} {issued : List VersionedRunnerBinding}
    (carries : ∀ reference ∈ carried rows, startsWith reference.text issuedBindingRefPrefix = true →
      ∃ binding ∈ issued, reference = versionedRef binding)
    (roots : ∀ binding ∈ issued, versionedRef binding ∈ carried rows) :
    ∃ bindings, strictVersionedRunnerBindings rows = .ok bindings ∧ bindings.Nodup ∧ ∀ binding, binding ∈ bindings ↔ binding ∈ issued := by
  have decodes : ∀ text ∈ bindingRefs rows, ∃ binding ∈ issued, text = (versionedRef binding).text := by
    intro text member
    obtain ⟨here, starts⟩ := (mem_binding_refs _).mp member
    obtain ⟨binding, isIssued, same⟩ := carries _ here starts
    exact ⟨binding, isIssued, congrArg Ref.text same⟩
  obtain ⟨bindings, strict⟩ : ∃ bindings, strictVersionedRunnerBindings rows = .ok bindings := by
    refine mapM_ok_exists fun text member => ?_
    obtain ⟨binding, _, rfl⟩ := decodes text member
    exact ⟨binding, congrArg (Except.mapError _) (decode_versioned_ref binding)⟩
  have texts : bindingRefs rows = bindings.map fun binding => (versionedRef binding).text := by
    have decoded := (mapM_ok_iff _ _).mp strict
    clear strict
    revert decodes
    generalize bindingRefs rows = refs at decoded
    intro decodes
    induction decoded with
    | nil => rfl
    | cons first _ ih =>
      obtain ⟨source, _, rfl⟩ := decodes _ List.mem_cons_self
      rw [decode_versioned_ref] at first
      cases first
      rw [List.map_cons, ← ih fun text member => decodes text (List.mem_cons_of_mem _ member)]
  have distinct : (bindingRefs rows).Nodup := (sorted_set_nodup).filter _
  rw [texts] at distinct
  refine ⟨bindings, strict, .of_map _ distinct, fun binding => ⟨fun member => ?_, fun isIssued => ?_⟩⟩
  · obtain ⟨source, isSource, same⟩ := decodes _ (texts ▸ List.mem_map_of_mem member)
    have decoded := decode_versioned_ref source
    rw [← same, decode_versioned_ref] at decoded
    cases decoded
    exact isSource
  · have listed : (versionedRef binding).text ∈ bindingRefs rows := (mem_binding_refs _).mpr ⟨roots binding isIssued, starts_with_append⟩
    rw [texts] at listed
    obtain ⟨source, isSource, same⟩ := List.mem_map.mp listed
    have decoded := decode_versioned_ref source
    rw [same, decode_versioned_ref] at decoded
    cases decoded
    exact isSource

end Launches

section Sample

def taskFields (task : TaskBindingRef) : List (List Char) :=
  [task.taskId.toList, task.actionId.toList, task.assignmentId.toList, List.replicate task.runRevision '1']

def fieldsTask : List (List Char) → Except String TaskBindingRef
  | [taskId, action, assignment, revision] =>
    .ok ⟨String.ofList taskId, String.ofList action, String.ofList assignment, revision.length⟩
  | _ => .error "missing field"

@[reducible] def sampleTaskJson : RunnerBindingJson where
  __ := sampleRunnerBindingJson
  taskBindingText := fun task => fieldsText (taskFields task)
  taskBindingFromText := textFields fieldsTask

attribute [local instance] sampleTaskJson

theorem sample_task_reads (task : TaskBindingRef) :
    RunnerBindingJson.taskBindingFromText (RunnerBindingJson.taskBindingText task) = .ok task := by
  change textFields fieldsTask (fieldsText (taskFields task)) = .ok task
  rw [text_fields (by simp [taskFields])]
  simp [taskFields, fieldsTask]

def child (id : String) : ReceiptV1RunnerBinding := { sampleBinding id with roleId := "implementer", laneId := none }

def task (taskId id : String) : TaskBindingRef := ⟨taskId, id, id, 1⟩

variable (first : String)

-- A child that has ended, and a second one that reports; both were acknowledged.
def reportLog : Rows :=
  [⟨⟨"agent:issued"⟩, [versionedRef (.receiptV1 (child "f"))]⟩, ⟨⟨"agent:issued"⟩, [versionedRef (.receiptV1 (child "r"))]⟩,
    ⟨⟨"background:launch-ack"⟩, launchAckRefs (task first "f")⟩,
    ⟨⟨"background:terminal"⟩, [terminalConsumedRef (receiptV1ValidatorFacade (child "f")).toIssuedRunnerBinding]⟩,
    ⟨⟨"background:launch-ack"⟩, launchAckRefs (task "t" "r")⟩]

theorem starts_otherwise {space name : String} {rest : String} (apart : name.toList.isPrefixOf space.toList = false)
    (apart' : space.toList.isPrefixOf name.toList = false) : startsWith (name ++ rest) space = false := by
  rw [Bool.eq_false_iff, Ne, startsWith, List.isPrefixOf_iff_prefix]
  rintro ⟨tail, same⟩
  refine append_ne_append rest (String.ofList tail) apart apart' (String.toList_inj.mp ?_)
  rw [← same, String.toList_append, String.toList_ofList]

def namespaces : List String := [issuedBindingRefPrefix, "terminal-consumed:"]

theorem ack_refs_outside {space : String} (isSpace : space ∈ namespaces) {taskId id : String}
    (taskOutside : startsWith taskId space = false) (idOutside : startsWith id space = false) :
    ∀ reference ∈ launchAckRefs (task taskId id), startsWith reference.text space = false := by
  obtain ⟨rest, text⟩ : ∃ rest, s!"launch-ack:{id}:{id}:{1}" = "launch-ack:" ++ rest :=
    ⟨id ++ (":" ++ (id ++ (":" ++ toString 1))), by simp only [toString, String.append_assoc]⟩
  simp only [launchAckRefs, task, List.mem_cons, List.not_mem_nil, or_false, forall_eq_or_imp, forall_eq, text]
  simp only [namespaces, List.mem_cons, List.not_mem_nil, or_false] at isSpace
  refine ⟨taskOutside, idOutside, idOutside, ?_⟩
  rcases isSpace with rfl | rfl
  · exact ⟨by decide, starts_otherwise (by decide) (by decide), starts_otherwise (by decide) (by decide)⟩
  · exact ⟨by decide, starts_otherwise (by decide) (by decide), starts_otherwise (by decide) (by decide)⟩

theorem find_key (bindings : List ReceiptV1RunnerBinding) (distinct : (bindings.map ReceiptV1RunnerBinding.key).Nodup)
    {binding : ReceiptV1RunnerBinding} (member : binding ∈ bindings) (key : LaunchKey) (named : binding.key = key) :
    (bindings.find? fun other => other.key = key) = some binding := by
  subst named
  cases found : bindings.find? fun other => other.key = binding.key with
  | none =>
    have missing := List.find?_eq_none.mp found binding member
    simp at missing
  | some other =>
    have matched := List.find?_some found
    rw [List.inj_on_of_nodup_map distinct (List.mem_of_find?_eq_some found) member (of_decide_eq_true matched)]

theorem terminal_text (id : String) : ∃ rest,
    (terminalConsumedRef (receiptV1ValidatorFacade (child id)).toIssuedRunnerBinding).text = "terminal-consumed:" ++ (id ++ rest) :=
  ⟨":" ++ (id ++ (":" ++ toString 1)), by
    unfold terminalConsumedRef
    simp only [toString, String.append_assoc]
    rfl⟩

variable (outside : ∀ space ∈ namespaces, startsWith first space = false)

include outside

theorem report_log_bindings : ∃ bindings, strictVersionedRunnerBindings (reportLog first) = .ok bindings ∧ bindings.Nodup ∧
      ∀ binding, binding ∈ bindings ↔ binding ∈ [.receiptV1 (child "f"), .receiptV1 (child "r")] := by
  refine strict_of_issued ?_ ?_
  · intro reference member starts
    simp only [reportLog, carried, List.flatMap_cons, List.flatMap_nil, List.append_nil, List.mem_append, List.mem_singleton] at member
    rcases member with rfl | rfl | acked | rfl | acked
    · exact ⟨_, List.mem_cons_self, rfl⟩
    · exact ⟨_, List.mem_cons_of_mem _ List.mem_cons_self, rfl⟩
    · rw [ack_refs_outside List.mem_cons_self (outside _ List.mem_cons_self) (by decide) reference acked] at starts
      cases starts
    · obtain ⟨name, text⟩ := terminal_consumed_text
      rw [text, starts_otherwise (by decide) (by decide)] at starts
      cases starts
    · rw [ack_refs_outside List.mem_cons_self (by decide) (by decide) reference acked] at starts
      cases starts
  · intro binding member
    simp only [reportLog, carried, List.flatMap_cons, List.mem_append, List.mem_singleton]
    rcases List.mem_cons.mp member with rfl | isSecond
    · exact Or.inl rfl
    · rw [List.mem_singleton.mp isSecond]
      exact Or.inr (Or.inl rfl)

theorem report_log_acknowledged :
    ∃ kept, (∀ ambiguous, scopedBindings ambiguous "r" "w" (reportLog first) = .ok kept) ∧ child "r" ∈ kept ∧
      acknowledgedIn kept (reportLog first) = [(first, child "f"), ("t", child "r")] ∧
      acknowledged (reportLog first) (child "r") = acknowledgedIn kept (reportLog first) := by
  obtain ⟨bindings, strict, nodup, only⟩ := report_log_bindings first outside
  have members : ∀ binding, binding ∈ inScope "r" "w" bindings ↔ binding = child "f" ∨ binding = child "r" := by
    intro binding
    simp only [inScope, List.mem_filter, List.mem_filterMap, only, List.mem_cons, List.not_mem_nil, or_false]
    constructor
    · rintro ⟨⟨_, rfl | rfl, same⟩, _⟩
      · exact Or.inl (Option.some.inj same).symm
      · exact Or.inr (Option.some.inj same).symm
    · rintro (rfl | rfl)
      · exact ⟨⟨_, Or.inl rfl, rfl⟩, by decide⟩
      · exact ⟨⟨_, Or.inr rfl, rfl⟩, by decide⟩
  have distinct : ((inScope "r" "w" bindings).map ReceiptV1RunnerBinding.key).Nodup := by
    refine List.Nodup.map_on ?_ ((nodup.filterMap ?_).filter _)
    · intro left isLeft right isRight same
      rcases (members left).mp isLeft with rfl | rfl
      · rcases (members right).mp isRight with rfl | rfl
        · rfl
        · exact absurd same (by decide)
      · rcases (members right).mp isRight with rfl | rfl
        · exact absurd same (by decide)
        · rfl
    · intro left right found isLeft isRight
      cases left with
      | replayV0 other => cases isLeft
      | receiptV1 binding =>
        cases right with
        | replayV0 other => cases isRight
        | receiptV1 other => rw [Option.some.inj isLeft, Option.some.inj isRight]
  have finished := find_key _ distinct ((members _).mpr (Or.inl rfl)) (task first "f").key rfl
  have reports := find_key _ distinct ((members _).mpr (Or.inr rfl)) (task "t" "r").key rfl
  refine ⟨_, fun _ => (scoped_ok _ _ _ _ _).mpr ⟨bindings, strict, distinct, rfl⟩, (members _).mpr (Or.inr rfl), ?_, ?_⟩
  · simp only [acknowledgedIn, reportLog, List.flatMap_cons, List.flatMap_nil, launchOf, exact_launch_ack _ (sample_task_reads _),
      finished, reports, other_row "agent:issued" _ (by decide), other_row "background:terminal" _ (by decide)]
    rfl
  · rw [acknowledged, strict]
    rfl

theorem report_log_live : isFinished (reportLog first) (child "f") = true ∧ isFinished (reportLog first) (child "r") = false := by
  constructor
  · rw [isFinished, terminalConsumed, has_exact_ref]
    simp [reportLog, carried]
  · obtain ⟨rest, text⟩ := terminal_text "r"
    obtain ⟨other, otherText⟩ := terminal_text "f"
    have starts : startsWith ("terminal-consumed:" ++ ("r" ++ rest)) "terminal-consumed:" = true := starts_with_append
    have isSpace : "terminal-consumed:" ∈ namespaces := List.mem_cons_of_mem _ List.mem_cons_self
    rw [isFinished, terminalConsumed, Bool.eq_false_iff, Ne, has_exact_ref, text]
    simp only [reportLog, carried, List.flatMap_cons, List.flatMap_nil, List.append_nil, List.mem_append, List.mem_singleton]
    rintro (same | same | acked | same | acked)
    · exact append_ne_append _ _ (by decide) (by decide) (congrArg Ref.text same)
    · exact append_ne_append _ _ (by decide) (by decide) (congrArg Ref.text same)
    · rw [ack_refs_outside isSpace (outside _ isSpace) (by decide) _ acked] at starts
      cases starts
    · have texts := congrArg Ref.text same
      rw [otherText] at texts
      exact append_ne_append _ _ (by decide) (by decide) ((append_left_inj).mp texts)
    · rw [ack_refs_outside isSpace (by decide) (by decide) _ acked] at starts
      cases starts

theorem report_log_derives : acknowledged (reportLog first) (child "r") = [(first, child "f"), ("t", child "r")] ∧
      liveLaunches (reportLog first) (child "r") = [("t", child "r")] ∧
      deriveBlockedCancellations (reportLog first) (child "r") = .ok [⟨"t", "r", "r", 0, true⟩] := by
  obtain ⟨kept, inside, reports, listed, same⟩ := report_log_acknowledged first outside
  obtain ⟨ended, runs⟩ := report_log_live first outside
  have live : ([(first, child "f"), ("t", child "r")] : List Launch).filter (fun launch => !isFinished (reportLog first) launch.2) =
      [("t", child "r")] := by
    simp [ended, runs]
  refine ⟨same.trans listed, by rw [liveLaunches, same, listed, live], ?_⟩
  have gathered : gatherLaunches kept (isFinished (reportLog first)) "duplicate durable task id in blocked cancellation scope"
      (reportLog first) = .ok [("t", child "r")] := by
    rw [gather_ok, listed, live]
    refine ⟨?_, rfl, List.nodup_singleton _⟩
    simp only [reportLog, List.forall_mem_cons, exact_launch_ack _ (sample_task_reads _), other_row "agent:issued" _ (by decide),
      other_row "background:terminal" _ (by decide)]
    exact ⟨⟨_, rfl⟩, ⟨_, rfl⟩, ⟨_, rfl⟩, ⟨_, rfl⟩, ⟨_, rfl⟩, nofun⟩
  refine bind_eq_ok (inside _) (bind_eq_ok ((refuse_if_ok).mpr ?_) (bind_eq_ok gathered rfl))
  simpa using ⟨child "r", reports, rfl⟩

omit outside

def sampleLatchHost : LatchHost where
  sha256Hex _ := String.ofList (List.replicate 64 '0')
  recordsText _ := ""
  hex _ := by decide

def sampleIds : FreshIds := ⟨"receipt", "latch", by decide, by decide⟩

def sampleRequest : BlockedRequest := ⟨"request", "call", "", ""⟩

theorem distinct_tasks_latch :
    LatchAccepted sampleLatchHost sampleIds sampleRequest (reportLog "s") (child "r") [⟨"t", "r", "r", 0, true⟩] := by
  obtain ⟨acks, live, derived⟩ := report_log_derives "s" (by decide)
  refine (derived_latch_accepted_iff sampleLatchHost sampleIds sampleRequest _ _ _ derived).mpr ?_
  refine ⟨by decide, by decide, ?_, ?_, ?_, ?_⟩
  · rw [live]
    decide
  · rw [live]
    exact List.nodup_singleton _
  · rw [live]
    exact List.nodup_singleton _
  · rw [acks]
    decide

/-- The Host gave the task id of a child that has ended a second time: the deriver no longer sees the first
acknowledgement, the validator of the scope does. -/
theorem reused_task_unlatchable : deriveBlockedCancellations (reportLog "t") (child "r") = .ok [⟨"t", "r", "r", 0, true⟩] ∧
      validateBlockedLatchLaunchScope (reportLog "t")
        (blockedReceipt sampleLatchHost sampleIds sampleRequest (child "r") [⟨"t", "r", "r", 0, true⟩])
        (blockedLatch sampleLatchHost sampleIds (child "r") [⟨"t", "r", "r", 0, true⟩]) ≠ .ok () := by
  obtain ⟨acks, _, derived⟩ := report_log_derives "t" (by decide)
  obtain ⟨others, last, facts⟩ := derive_ok derived
  refine ⟨derived, fun accepted => ?_⟩
  have distinct := (scope_tasks facts).mp accepted
  rw [acks] at distinct
  exact absurd distinct (by decide)

end Sample

end PiAutopilot.Receipts
