import PiAutopilot.Receipts.SampleReceipts
import PiAutopilot.Receipts.TaskCompleted

set_option autoImplicit false

/-! # When a dead child stops counting -/

namespace PiAutopilot.Receipts

open EventLog Lib Delivery

section Counted

variable [RunnerBindingJson]

structure Uncounted (rows : Rows) (binding : IssuedRunnerBinding) : Prop where
  delivery : ∀ laneId, isLiveDelivery rows laneId binding = false
  work : ∀ roleId, (binding.roleId == roleId && !terminalConsumed rows binding) = false
  planning : ∀ workstream refs, planningRefsFromState workstream rows = .ok refs →
    ∀ active ∈ Planning.activeRefsForAssignment binding.assignmentId.toList refs, active.toAttemptRef ≠ attemptRef binding

def Ended (refs : Planning.PlanningRefs) (attempt : Planning.AttemptRef) : Prop :=
  attempt ∈ refs.accepted ∨ ∃ failure ∈ refs.terminalFailures, failure.toAttemptRef = attempt

variable {refs : Planning.PlanningRefs} {rows : Rows} {workstream : String}

omit [RunnerBindingJson] in
theorem ended_inactive {attempt : Planning.AttemptRef} (ended : Ended refs attempt)
    {assignmentId : Planning.Text} : ∀ active ∈ Planning.activeRefsForAssignment assignmentId refs, active.toAttemptRef ≠ attempt := by
  intro active member same
  obtain ⟨issued, listed, rfl⟩ := List.mem_map.mp member
  obtain ⟨_, open_⟩ := List.mem_filter.mp listed
  have isAttempt : issued = attempt := same
  rw [isAttempt, Bool.and_eq_true, Bool.and_eq_true, Bool.not_eq_true', Bool.not_eq_true'] at open_
  rcases ended with accepted | ⟨failure, failed, named⟩
  · rw [Planning.acceptedExact, List.contains_iff_mem.mpr accepted] at open_
    cases open_.1.2
  · rw [Planning.terminalFailureExact, List.any_eq_false] at open_
    exact open_.2 failure failed (beq_iff_eq.mpr named)

omit [RunnerBindingJson] in
theorem terminal_consumed_attempt {binding other : IssuedRunnerBinding} (same : attemptRef other = attemptRef binding) :
    terminalConsumed rows other = terminalConsumed rows binding := by
  simp only [attemptRef, Planning.AttemptRef.mk.injEq, String.toList_inj] at same
  obtain ⟨assignment, action, revision⟩ := same
  have sameRef : terminalConsumedRef other = terminalConsumedRef binding := by
    unfold terminalConsumedRef
    rw [assignment, action, revision]
  unfold terminalConsumed
  rw [sameRef]

variable {binding : IssuedRunnerBinding}

omit [RunnerBindingJson] in
theorem noted_ended {taskBindings : List TaskBindingRef} {after : Planning.PlanningRefs}
    {noted : ReplayBinding} (consumed : terminalConsumed rows binding = true)
    (before : attemptRef binding ∈ refs.issued → Ended refs (attemptRef binding))
    (ran : notePlanningBinding workstream rows taskBindings refs noted = .ok after) :
    attemptRef binding ∈ after.issued → Ended after (attemptRef binding) := by
  unfold notePlanningBinding at ran
  split at ran
  · cases ran
    exact before
  · obtain ⟨acked, _, ran⟩ := bind_ok ran
    -- Accepted attempts and failures only grow; the noted attempt ends when it is the binding's own.
    have ends : ∀ grown : Planning.PlanningRefs, grown.issued = refs.issued ++ [attemptRef noted.toIssuedRunnerBinding] →
        (∀ attempt ∈ refs.accepted, attempt ∈ grown.accepted) →
        (∀ failure ∈ refs.terminalFailures, failure ∈ grown.terminalFailures) →
        (terminalConsumed rows noted.toIssuedRunnerBinding = true → Ended grown (attemptRef noted.toIssuedRunnerBinding)) →
        attemptRef binding ∈ grown.issued → Ended grown (attemptRef binding) := by
      intro grown issued accepted failures ended listed
      rw [issued] at listed
      rcases List.mem_append.mp listed with earlier | last
      · rcases before earlier with wasAccepted | ⟨failure, failed, named⟩
        · exact .inl (accepted _ wasAccepted)
        · exact .inr ⟨failure, failures failure failed, named⟩
      · have same := List.mem_singleton.mp last
        rw [same]
        exact ended ((terminal_consumed_attempt same.symm).trans consumed)
    split at ran
    · cases ran
      exact ends _ rfl (fun _ member => List.mem_append_left _ member) (fun _ member => member) fun _ => .inl (by simp)
    · split at ran
      · cases ran
        refine ends _ rfl (fun _ member => member) (fun _ member => List.mem_append_left _ member) fun _ => .inr ?_
        exact ⟨{ attemptRef noted.toIssuedRunnerBinding with status := "terminal-without-planning-result".toList },
          List.mem_append_right _ List.mem_cons_self, rfl⟩
      · rename_i live
        split at ran
        · cases ran
          exact ends _ rfl (fun _ member => member) (fun _ member => List.mem_append_left _ member) fun ended => absurd ended live
        · cases ran
          exact ends _ rfl (fun _ member => member) (fun _ member => member) fun ended => absurd ended live

theorem planning_ended (consumed : terminalConsumed rows binding = true) (ran : planningRefsFromState workstream rows = .ok refs) :
    attemptRef binding ∈ refs.issued → Ended refs (attemptRef binding) := by
  obtain ⟨_, _, ran⟩ := bind_ok ran
  obtain ⟨read, _, ran⟩ := bind_ok ran
  obtain ⟨noted, folded, ran⟩ := bind_ok ran
  obtain ⟨activations, _, ran⟩ := bind_ok ran
  cases ran
  have kept := foldlM_keeps (fun (_ : List ReplayBinding) (refs : Planning.PlanningRefs) =>
    attemptRef binding ∈ refs.issued → Ended refs (attemptRef binding)) ?_ _ [] _ noted (by simp) folded
  · exact kept
  · intro _ before other after holds stepped
    exact noted_ended consumed holds stepped

theorem uncounted_of_consumed (consumed : terminalConsumed rows binding = true) : Uncounted rows binding := by
  refine ⟨fun laneId => ?_, fun roleId => ?_, fun workstream refs ran active member same => ?_⟩
  · rw [isLiveDelivery, consumed]
    simp
  · rw [consumed]
    simp
  · obtain ⟨issued, listed, rfl⟩ := List.mem_map.mp member
    have isAttempt : issued = attemptRef binding := same
    have inIssued : attemptRef binding ∈ refs.issued := isAttempt ▸ List.mem_of_mem_filter listed
    exact ended_inactive (planning_ended consumed ran inIssued) _ member same

end Counted

section Lookup

variable [RunnerBindingJson]

theorem decode_versioned_ref (binding : VersionedRunnerBinding) : decodeRunnerBinding (versionedRef binding).text = .ok binding := by
  rw [decodeRunnerBinding, versionedRef, strip_prefix_append]
  exact RunnerBindingJson.from_to binding

variable {actionId assignmentId : String}

omit [RunnerBindingJson] in
theorem the_only_ok {α : Type} {found : List α} {binding : α}
    (only : theOnly actionId assignmentId found = .ok binding) : found = [binding] := by
  unfold theOnly at only
  split at only
  · cases only
    rfl
  · cases only
  · cases only

theorem versioned_binding_is {rows : Rows} {binding found : VersionedRunnerBinding}
    (issued : versionedRef binding ∈ carried rows) (named : isFor actionId assignmentId binding = true)
    (looked : versionedBindingFor rows actionId assignmentId = .ok found) : found = binding := by
  obtain ⟨bindings, decoded, looked⟩ := bind_ok looked
  have listed : (versionedRef binding).text ∈ bindingRefs rows := (mem_binding_refs _).mpr ⟨issued, starts_with_append⟩
  obtain ⟨result, member, isResult⟩ := mapM_ok_mem decoded _ listed
  rw [decode_versioned_ref] at isResult
  cases isResult
  have kept : binding ∈ bindings.filter (isFor actionId assignmentId) := List.mem_filter.mpr ⟨member, named⟩
  rw [the_only_ok looked] at kept
  exact (List.mem_singleton.mp kept).symm

theorem replay_binding_for {rows : Rows} {binding : ReplayBinding}
    (looked : versionedBindingFor rows actionId assignmentId = .ok (.replayV0 binding)) :
    bindingFor rows actionId assignmentId = .ok binding := by
  obtain ⟨bindings, decoded, looked⟩ := bind_ok looked
  have only := the_only_ok looked
  refine bind_eq_ok decoded ?_
  have same : (bindings.filterMap VersionedRunnerBinding.replay).filter
        (fun binding => binding.actionId == actionId && binding.assignmentId == assignmentId) =
      (bindings.filter (isFor actionId assignmentId)).filterMap VersionedRunnerBinding.replay := by
    rw [List.filter_filterMap, List.filterMap_filter]
    congr 1
    funext candidate
    cases candidate with
    | replayV0 replay => exact Option.filter_some
    | receiptV1 receipt => simp [VersionedRunnerBinding.replay]
  rw [same, only]
  rfl

end Lookup

section Frame

variable [RunnerBindingJson] [ReceiptJson] (host : ReceiptHost) (frame : FrameHost)

structure RootedReceipt (rows : Rows) (binding : ReceiptBinding) (receipt : SubmitReceipt) : Prop where
  located : ∃ path, submitReceiptPath host binding = .ok path ∧ frame.files path = some receipt
  identity : completionIdentity host binding receipt = true
  sealed_ : ∃ transition, sealedOf host binding receipt = .ok transition
  rooted : ∃ event, verifyRootedSubmitReceipt host rows receipt = .ok event
  continues : host.continuation receipt binding = .ok ()

structure ChildSettled (rows after : Rows) (binding : VersionedRunnerBinding) : Prop where
  recorded : terminalConsumed after binding.facade.toIssuedRunnerBinding = true
  uncounted : Uncounted after binding.facade.toIssuedRunnerBinding
  consumed : ∀ receiptBinding receipt, binding = .receiptV1 receiptBinding →
    RootedReceipt host frame rows receiptBinding.toReceiptBinding receipt → consumedRef receipt ∈ carried after

/-- The binding is the only one of its action and assignment.  A replay child that completed left a carrier that is
admitted; a receipt child completed, and its rooted receipt is not named as consumed. -/
def Settles (rows : Rows) (status : String) (binding : VersionedRunnerBinding) : Prop :=
  versionedBindingFor rows binding.facade.actionId binding.facade.assignmentId = .ok binding ∧
    match binding with
    | .replayV0 replay => status = "completed" → ∃ admitted, frame.carrier replay = .ok admitted
    | .receiptV1 receiptBinding => status = "completed" ∧ ∃ receipt,
        RootedReceipt host frame rows receiptBinding.toReceiptBinding receipt ∧ consumedRef receipt ∉ carried rows

omit [ReceiptJson] in
theorem replay_recorded (payload : TaskCompletedPayload) (binding : ReplayBinding) (rows later : Rows) :
    terminalConsumed (rows ++ [terminalEvent payload binding] ++ later) binding.toIssuedRunnerBinding = true := by
  rw [terminalConsumed, has_exact_ref, carried_append, carried_append]
  simp [terminalEvent]

variable {rows : Rows} {receipt : SubmitReceipt}

omit [ReceiptJson] in
theorem replay_settles {payload : TaskCompletedPayload} {binding : ReplayBinding}
    (live : terminalConsumed rows binding.toIssuedRunnerBinding = false) (allowed : terminalStatusAllowed payload.status = true) :
    terminalConsumed (routeReplayTaskCompleted frame payload binding rows).1 binding.toIssuedRunnerBinding = true ↔
      (payload.status = "completed" → ∃ admitted, frame.carrier binding = .ok admitted) := by
  have recorded := replay_recorded payload binding rows []
  rw [List.append_nil] at recorded
  unfold routeReplayTaskCompleted
  rw [live, allowed, if_neg Bool.false_ne_true, if_neg (by decide)]
  by_cases completed : payload.status = "completed"
  · rw [if_neg (fun apart => apart completed)]
    cases admission : frame.carrier binding with
    | error refused =>
      constructor
      · intro settled
        rw [live] at settled
        cases settled
      · intro admitted
        obtain ⟨_, found⟩ := admitted completed
        cases found
    | ok admitted => exact ⟨fun _ _ => ⟨admitted, rfl⟩, fun _ => replay_recorded payload binding rows admitted⟩
  · rw [if_pos completed]
    refine ⟨fun _ isCompleted => absurd isCompleted completed, fun _ => ?_⟩
    split <;> exact recorded

omit [RunnerBindingJson] in
theorem consumption_terminal (binding : ReceiptBinding) (receipt : SubmitReceipt) (event : SubmitReceiptEventRef)
    (transition : Option (Family × SealedTransition)) :
    consumedRef receipt ∈ consumptionRefs host binding receipt event transition ∧
      childRef "terminal-consumed:" binding ∈ consumptionRefs host binding receipt event transition := by
  exact ⟨List.mem_cons_self, List.mem_cons_of_mem _ List.mem_cons_self⟩

omit [RunnerBindingJson] [ReceiptJson] in
theorem unconsumed_unnamed {family : Option Family} {expected : List Ref}
    (asked : isConsumed family rows receipt expected = .ok false) : consumedRef receipt ∉ carried rows := by
  have unnamed : hasExactRef rows (consumedRef receipt).text = false → consumedRef receipt ∉ carried rows := by
    intro absent named
    have present : hasExactRef rows (consumedRef receipt).text = true := (has_exact_ref _).mpr named
    rw [absent] at present
    cases present
  have exactly : ∀ lacks duplicate drift, exactlyConsumed lacks duplicate drift rows receipt expected = .ok false →
      consumedRef receipt ∉ carried rows := by
    intro lacks duplicate drift found
    unfold exactlyConsumed at found
    split at found
    · obtain ⟨absent, found⟩ := refused_ok found
      exact unnamed (Bool.eq_false_iff.mpr absent)
    · split at found <;> cases found
    · cases found
  rcases family with _ | family
  · exact unnamed (Except.ok.inj asked)
  · cases family with
    | planning =>
      obtain ⟨consumed, found, asked⟩ := bind_ok asked
      obtain ⟨_, _, asked⟩ := bind_ok asked
      cases asked
      exact exactly _ _ _ found
    | delivery => exact exactly _ _ _ asked
    | validation => exact exactly _ _ _ asked

omit [RunnerBindingJson] in
theorem rooted_consumes {binding : ReceiptBinding}
    (rooted : RootedReceipt host frame rows binding receipt) (unnamed : consumedRef receipt ∉ carried rows) :
    ∃ event transition, consume host frame.files binding rows =
      .ok (receipt, [⟨consumedKind, consumptionRefs host binding receipt event transition⟩]) := by
  obtain ⟨path, located, file⟩ := rooted.located
  obtain ⟨transition, isSealed⟩ := rooted.sealed_
  obtain ⟨event, isRooted⟩ := rooted.rooted
  refine ⟨event, transition, (consume_ok host).mpr ⟨path, event, transition, false, ?_, rfl⟩⟩
  exact ⟨located, file, rooted.identity, isSealed, isRooted, rooted.continues, is_consumed_none _ _ unnamed⟩

omit [RunnerBindingJson] in
theorem receipt_settles {binding : ReceiptV1RunnerBinding} (status : String)
    (live : terminalConsumed rows (receiptV1ValidatorFacade binding).toIssuedRunnerBinding = false) :
    terminalConsumed (routeReceiptV1TaskCompleted host frame.posture frame.files binding.toReceiptBinding status rows).1
        (receiptV1ValidatorFacade binding).toIssuedRunnerBinding = true ↔
      status = "completed" ∧ ∃ receipt, RootedReceipt host frame rows binding.toReceiptBinding receipt ∧
        consumedRef receipt ∉ carried rows := by
  unfold routeReceiptV1TaskCompleted
  by_cases completed : status = "completed"
  · rw [if_neg (fun apart => apart completed)]
    constructor
    · intro settled
      refine ⟨completed, ?_⟩
      cases consumption : consume host frame.files binding.toReceiptBinding rows with
      | error refused =>
        rw [consumption, live] at settled
        cases settled
      | ok found =>
        obtain ⟨receipt, appended⟩ := found
        obtain ⟨path, event, transition, consumed, found, added⟩ := (consume_ok host).mp consumption
        cases consumed with
        | true =>
          rw [consumption, added, if_pos rfl] at settled
          simp only [List.append_nil, live] at settled
          cases settled
        | false =>
          refine ⟨receipt, ?_, unconsumed_unnamed found.asked⟩
          exact ⟨⟨path, found.located, found.file⟩, found.identity, ⟨transition, found.sealed_⟩, ⟨event, found.rooted⟩, found.continues⟩
    · rintro ⟨_, receipt, rooted, unnamed⟩
      obtain ⟨event, transition, consumption⟩ := rooted_consumes host frame rooted unnamed
      rw [consumption, terminalConsumed, has_exact_ref, carried_append, carried_singleton, List.mem_append]
      right
      have named := (consumption_terminal host binding.toReceiptBinding receipt event transition).2
      exact named
  · rw [if_pos completed, live]
    constructor
    · intro settled
      cases settled
    · exact fun settled => absurd settled.1 completed

/-- The terminal of a launched child settles it exactly when the frame finds its only binding, a replay child did not
complete or left an admitted carrier, and a receipt child completed with a rooted receipt. -/
theorem dead_child_settled_iff (payload : TaskCompletedPayload) (rows : Rows) (binding : VersionedRunnerBinding)
    (issued : versionedRef binding ∈ carried rows)
    (live : terminalConsumed rows binding.facade.toIssuedRunnerBinding = false)
    (allowed : terminalStatusAllowed payload.status = true) (isAction : payload.actionId = binding.facade.actionId)
    (isAssignment : payload.assignmentId = binding.facade.assignmentId) :
    ChildSettled host frame rows (routeTaskCompleted host frame payload rows).1 binding ↔
      Settles host frame rows payload.status binding := by
  have named : isFor payload.actionId payload.assignmentId binding = true := by
    rw [isFor, isAction, isAssignment, beq_self_eq_true, beq_self_eq_true]
    rfl
  unfold routeTaskCompleted Settles
  rw [← isAction, ← isAssignment]
  cases looked : versionedBindingFor rows payload.actionId payload.assignmentId with
  | error failed =>
    constructor
    · intro settled
      have recorded := settled.recorded
      rw [live] at recorded
      cases recorded
    · rintro ⟨found, _⟩
      cases found
  | ok found =>
    have isBinding := versioned_binding_is issued named looked
    subst isBinding
    cases found with
    | replayV0 replay =>
      rw [replay_binding_for looked]
      have settles := replay_settles frame live allowed
      constructor
      · exact fun settled => ⟨rfl, settles.mp settled.recorded⟩
      · rintro ⟨_, admitted⟩
        have recorded := settles.mpr admitted
        exact ⟨recorded, uncounted_of_consumed recorded, fun _ _ other => by cases other⟩
    | receiptV1 receiptBinding =>
      have settles := receipt_settles host frame payload.status live
      constructor
      · exact fun settled => ⟨rfl, settles.mp settled.recorded⟩
      · rintro ⟨_, completed, receipt, rooted, unnamed⟩
        have recorded := settles.mpr ⟨completed, receipt, rooted, unnamed⟩
        refine ⟨recorded, uncounted_of_consumed recorded, ?_⟩
        intro _ other isOwn otherRooted
        cases isOwn
        have same : other = receipt := by
          obtain ⟨path, located, file⟩ := rooted.located
          obtain ⟨otherPath, otherLocated, otherFile⟩ := otherRooted.located
          rw [located] at otherLocated
          cases otherLocated
          rw [file] at otherFile
          exact (Option.some.inj otherFile).symm
        obtain ⟨event, transition, consumption⟩ := rooted_consumes host frame rooted unnamed
        show consumedRef other ∈ carried (routeReceiptV1TaskCompleted host frame.posture frame.files
          receiptBinding.toReceiptBinding payload.status rows).1
        rw [routeReceiptV1TaskCompleted, if_neg (fun apart => apart completed), consumption, same]
        rw [carried_append, carried_singleton, List.mem_append]
        exact .inr (consumption_terminal host _ receipt event transition).1

end Frame

section Launched

variable [RunnerBindingJson]

def launchedRows (binding : VersionedRunnerBinding) : Rows :=
  [⟨⟨"agent:issued"⟩, [versionedRef binding]⟩, ⟨⟨"background:launch-ack"⟩, [launchAckRef binding.facade.toIssuedRunnerBinding]⟩]

omit [RunnerBindingJson] in
theorem launch_ack_text {binding : IssuedRunnerBinding} : ∃ name, (launchAckRef binding).text = "launch-ack:" ++ name := by
  refine ⟨binding.actionId ++ (":" ++ (binding.assignmentId ++ (":" ++ toString binding.runRevision))), ?_⟩
  unfold launchAckRef
  simp only [toString, String.append_assoc]

omit [RunnerBindingJson] in
theorem terminal_consumed_text {binding : IssuedRunnerBinding} :
    ∃ name, (terminalConsumedRef binding).text = "terminal-consumed:" ++ name := by
  refine ⟨binding.actionId ++ (":" ++ (binding.assignmentId ++ (":" ++ toString binding.runRevision))), ?_⟩
  unfold terminalConsumedRef
  simp only [toString, String.append_assoc]

theorem launched_live (binding : VersionedRunnerBinding) :
    terminalConsumed (launchedRows binding) binding.facade.toIssuedRunnerBinding = false := by
  obtain ⟨acked, ackText⟩ := launch_ack_text
  obtain ⟨ended, endText⟩ := terminal_consumed_text
  rw [terminalConsumed, Bool.eq_false_iff, Ne, has_exact_ref]
  intro carriedHere
  have carriedRefs : carried (launchedRows binding) = [versionedRef binding, launchAckRef binding.facade.toIssuedRunnerBinding] := rfl
  rw [endText] at carriedHere
  rcases List.mem_cons.mp carriedHere with isBinding | isAck
  · exact append_ne_append _ _ (by decide) (by decide) (congrArg Ref.text isBinding)
  · have texts := congrArg Ref.text (List.mem_singleton.mp isAck)
    rw [ackText] at texts
    exact append_ne_append _ _ (by decide) (by decide) texts

theorem launched_binding_for {binding : VersionedRunnerBinding} :
    versionedBindingFor (launchedRows binding) binding.facade.actionId binding.facade.assignmentId = .ok binding := by
  obtain ⟨acked, ackText⟩ := launch_ack_text
  have carriedRefs : carried (launchedRows binding) = [versionedRef binding, launchAckRef binding.facade.toIssuedRunnerBinding] := rfl
  have only : bindingRefs (launchedRows binding) = [(versionedRef binding).text] := by
    refine sorted_ext ((sorted_set_sorted).filter _) (List.pairwise_singleton _ _) fun text => ?_
    rw [mem_binding_refs, List.mem_singleton]
    constructor
    · rintro ⟨member, starts⟩
      rcases List.mem_cons.mp member with isBinding | isAck
      · exact congrArg Ref.text isBinding
      · have isText := congrArg Ref.text (List.mem_singleton.mp isAck)
        simp only at isText
        rw [isText, ackText, startsWith, List.isPrefixOf_iff_prefix] at starts
        obtain ⟨rest, same⟩ := starts
        have heads := congrArg List.head? same
        simp [issuedBindingRefPrefix] at heads
    · rintro rfl
      exact ⟨List.mem_cons_self, starts_with_append⟩
  have decoded : strictVersionedRunnerBindings (launchedRows binding) = .ok [binding] := by
    rw [strictVersionedRunnerBindings, only, mapM_ok_iff]
    exact .cons (congrArg (Except.mapError _) (decode_versioned_ref binding)) .nil
  refine bind_eq_ok decoded ?_
  rw [List.filter_cons_of_pos (by simp [isFor])]
  rfl

end Launched

section Sample

def versionedFields : VersionedRunnerBinding → List (List Char)
  | .replayV0 binding =>
    [['0'], binding.actionId.toList, binding.assignmentId.toList, List.replicate binding.runRevision '1', binding.workstream.toList,
      binding.roleId.toList, binding.resultContract.toList] ++ (binding.laneId.map String.toList).toList
  | .receiptV1 binding =>
    [['1'], binding.runId.toList, binding.actionId.toList, binding.assignmentId.toList, List.replicate binding.attempt '1',
      List.replicate binding.runRevision '1', binding.workstream.toList, binding.boundaryId.toList, binding.resultContract.toList,
      binding.profileId.toList, binding.toolName.toList, binding.schemaDigest.toList, binding.specDigest.toList,
      binding.carrierPath.toList, binding.carrierBindingDigest.toList, binding.authorityDigest.toList, binding.roleId.toList] ++
      (binding.laneId.map String.toList).toList

def fieldsVersioned : List (List Char) → Except String VersionedRunnerBinding
  | ['0'] :: action :: assignment :: revision :: workstream :: role :: contract :: lane =>
    .ok (.replayV0 {
      actionId := String.ofList action
      assignmentId := String.ofList assignment
      runRevision := revision.length
      workstream := String.ofList workstream
      roleId := String.ofList role
      laneId := lane.head?.map String.ofList
      resultContract := String.ofList contract })
  | ['1'] :: run :: action :: assignment :: attempt :: revision :: workstream :: boundary :: contract :: profile :: tool ::
      schema :: spec :: carrier :: carrierBinding :: authority :: role :: lane =>
      .ok (.receiptV1 {
        runId := String.ofList run
        actionId := String.ofList action
        assignmentId := String.ofList assignment
        attempt := attempt.length
        runRevision := revision.length
        workstream := String.ofList workstream
        boundaryId := String.ofList boundary
        resultContract := String.ofList contract
        profileId := String.ofList profile
        toolName := String.ofList tool
        schemaDigest := String.ofList schema
        specDigest := String.ofList spec
        carrierPath := String.ofList carrier
        carrierBindingDigest := String.ofList carrierBinding
        authorityDigest := String.ofList authority
        roleId := String.ofList role
        laneId := lane.head?.map String.ofList })
  | _ => .error "binding ref must be a JSON object"

theorem fields_versioned {binding : VersionedRunnerBinding} : fieldsVersioned (versionedFields binding) = .ok binding := by
  cases binding with
  | replayV0 binding =>
    obtain ⟨⟨action, assignment, revision, workstream, role, lane⟩, contract⟩ := binding
    cases lane <;> simp [versionedFields, fieldsVersioned]
  | receiptV1 binding =>
    obtain ⟨_, role, lane⟩ := binding
    cases lane <;> simp [versionedFields, fieldsVersioned]

@[reducible] def sampleRunnerBindingJson : RunnerBindingJson where
  toJson binding := String.ofList ((versionedFields binding).flatMap fieldText)
  fromJson text :=
    match readFields 18 text.toList with
    | some fields => fieldsVersioned fields
    | none => .error "binding ref JSON"
  from_to binding := by
    have few : (versionedFields binding).length ≤ 18 := by
      cases binding with
      | replayV0 binding => cases lane : binding.laneId <;> simp [versionedFields, lane]
      | receiptV1 binding => cases lane : binding.laneId <;> simp [versionedFields, lane]
    rw [String.toList_ofList, read_fields_text _ 18 few]
    exact fields_versioned
  taskBindingText task := task.taskId
  taskBindingFromText _ := .error "expected value"

attribute [local instance] sampleRunnerBindingJson sampleReceiptJson

def sampleFrame : FrameHost where
  package := { terminalProfiles := [], concurrencyForRole := fun _ => .ok 1 }
  scheduleManifest _ := .error "missing"
  posture := { projectionError := none, latches := [] }
  files _ := none
  carrier _ := .error ("carrier-read", "missing")

def sampleReplay : VersionedRunnerBinding :=
  .replayV0 { actionId := "a", assignmentId := "b", runRevision := 1, workstream := "w", roleId := "implementer", laneId := some "L1",
              resultContract := "autopilot.delivery_result.v2" }

def sampleReceiptChild : VersionedRunnerBinding :=
  .receiptV1 { sampleBinding "a" with roleId := "implementer", laneId := some "L1" }

theorem killed_replay_child_settles : ChildSettled (sampleReceiptHost "audit") sampleFrame (launchedRows sampleReplay)
      (routeTaskCompleted (sampleReceiptHost "audit") sampleFrame ⟨"t", "a", "b", "killed"⟩ (launchedRows sampleReplay)).1 sampleReplay := by
  refine (dead_child_settled_iff (sampleReceiptHost "audit") sampleFrame ⟨"t", "a", "b", "killed"⟩ _ sampleReplay List.mem_cons_self
    (launched_live sampleReplay) (by decide) rfl rfl).mpr ⟨launched_binding_for, fun completed => ?_⟩
  exact absurd completed (by decide)

/-- The same terminal of a receipt child is refused: its lane stays occupied. -/
theorem killed_receipt_child_stays_live :
    routeTaskCompleted (sampleReceiptHost "audit") sampleFrame ⟨"t", "a", "a", "killed"⟩ (launchedRows sampleReceiptChild) =
        (launchedRows sampleReceiptChild, .rejected "submit-receipt" "receipt_v1 completion requires completed status") ∧
      isLiveDelivery (launchedRows sampleReceiptChild) "L1" sampleReceiptChild.facade.toIssuedRunnerBinding = true ∧
      ¬ ChildSettled (sampleReceiptHost "audit") sampleFrame (launchedRows sampleReceiptChild)
        (routeTaskCompleted (sampleReceiptHost "audit") sampleFrame ⟨"t", "a", "a", "killed"⟩ (launchedRows sampleReceiptChild)).1
        sampleReceiptChild := by
  have live := launched_live sampleReceiptChild
  have refused : routeTaskCompleted (sampleReceiptHost "audit") sampleFrame ⟨"t", "a", "a", "killed"⟩ (launchedRows sampleReceiptChild) =
      (launchedRows sampleReceiptChild, .rejected "submit-receipt" "receipt_v1 completion requires completed status") := by
    have found : versionedBindingFor (launchedRows sampleReceiptChild) "a" "a" = .ok sampleReceiptChild := launched_binding_for
    unfold routeTaskCompleted
    simp only [found]
    rfl
  refine ⟨refused, ?_, fun settled => ?_⟩
  · rw [isLiveDelivery]
    rfl
  · have recorded := settled.recorded
    rw [refused] at recorded
    cases recorded

end Sample

end PiAutopilot.Receipts
