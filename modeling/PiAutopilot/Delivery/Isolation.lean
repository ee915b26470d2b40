import PiAutopilot.Delivery.Snapshot

set_option autoImplicit false

/-! # Workstreams that share one log

The decisions for a workstream read the references of all rows.  Rows of another workstream stay
without effect exactly when they carry none of the references that are read. -/

namespace PiAutopilot.Delivery

open EventLog Lib

abbrev SharedLog := List (Id × Row)

def SharedLog.rows (log : SharedLog) : Rows := log.map Prod.snd

def SharedLog.rowsOf (log : SharedLog) (workstream : Id) : Rows := (log.filter fun entry => entry.1 == workstream).map Prod.snd

def SharedLog.without (log : SharedLog) (workstream : Id) : Rows := (log.filter fun entry => !(entry.1 == workstream)).map Prod.snd

theorem carried_shared {log : SharedLog} {workstream : Id} (reference : Ref) : reference ∈ carried log.rows ↔
      reference ∈ carried (log.rowsOf workstream) ∨ reference ∈ carried (log.without workstream) := by
  simp only [carried, SharedLog.rows, SharedLog.rowsOf, SharedLog.without, List.mem_flatMap, List.mem_map, List.mem_filter]
  constructor
  · rintro ⟨row, ⟨entry, entryIn, rfl⟩, member⟩
    by_cases mine : (entry.1 == workstream) = true
    · exact Or.inl ⟨entry.2, ⟨entry, ⟨entryIn, mine⟩, rfl⟩, member⟩
    · exact Or.inr ⟨entry.2, ⟨entry, ⟨entryIn, by simpa using mine⟩, rfl⟩, member⟩
  · rintro (⟨row, ⟨entry, entryIn, rfl⟩, member⟩ | ⟨row, ⟨entry, entryIn, rfl⟩, member⟩)
    · exact ⟨entry.2, ⟨entry, entryIn.1, rfl⟩, member⟩
    · exact ⟨entry.2, ⟨entry, entryIn.1, rfl⟩, member⟩

section Isolation

variable [BindingJson] [ReadyRootJson] (workstream : Id) (units : List ApprovedUnit)

def PlanFiles.Hold (files : PlanFiles) : Prop :=
  (∀ plan, files.readV1 = .ok plan → plan = units) ∧ ∀ root plan, files.readV2 root = .ok plan → plan = units

/-- The decisions for the workstream are the same on both logs; the selection is compared at one count of active
implementers. -/
structure Undisturbed (log rest : Rows) : Prop where
  closed : ∀ index < units.length, laneClosed log (approvedLaneId index) = laneClosed rest (approvedLaneId index)
  readiness : ∀ host lane, units[lane.index]? = some lane.unit →
    laneReadiness units log host (laneProposal workstream lane) = laneReadiness units rest host (laneProposal workstream lane)
  selected : ∀ host, activeImplementers log = activeImplementers rest →
    selectedLanes workstream units log host = selectedLanes workstream units rest host
  snapshot : ∀ host, host.files.Hold units →
    ((∃ found, executionCompleteSnapshot workstream host log = .ok (some found)) ↔
      ∃ found, executionCompleteSnapshot workstream host rest = .ok (some found))

def laneRefs (unit : ApprovedUnit) (index : Nat) : List Ref :=
  [unitClosedRef (approvedLaneId index), blockerRef (approvedLaneId index), unitActiveRef unit.id] ++
    unit.predecessorForwardCriteria.map gateRef

/-- A reference that some decision reads: one of a lane of the plan, a terminal, one that keeps a run open, or a
binding that is malformed or in a role of the run. -/
inductive Heard (reference : Ref) : Prop where
  | lane (index : Nat) (unit : ApprovedUnit) (placed : units[index]? = some unit) (member : reference ∈ laneRefs unit index)
  | terminal (binding : IssuedRunnerBinding) (same : reference = terminalConsumedRef binding)
  | blocking (start : String) (among : start ∈ blockingStarts) (begins : startsWith reference.text start = true)
  | binding (begins : startsWith reference.text issuedBindingRefPrefix = true)
      (running : ∀ binding, decodeVersionedBindingRef reference.text = .ok binding → isRunRole binding.roleId = true)

def Silent (row : Row) : Prop := planningReadyEvent row = .ok false ∧ refsStarting row readyRootPrefix = []

structure Unheard (rows : Rows) : Prop where
  refs : ∀ reference ∈ carried rows, ¬ Heard units reference
  silent : ∀ row ∈ rows, Silent row

section Agree

variable {units : List ApprovedUnit} {log rest : Rows}
  (agree : ∀ reference, Heard units reference → (reference ∈ carried log ↔ reference ∈ carried rest))

include agree

section

omit [ReadyRootJson]

theorem exact_same (text : String) (heard : Heard units ⟨text⟩) : hasExactRef log text = hasExactRef rest text := by
  rw [Bool.eq_iff_iff, has_exact_ref, has_exact_ref]
  exact agree _ heard

theorem terminal_same {binding : IssuedRunnerBinding} : terminalConsumed log binding = terminalConsumed rest binding :=
  exact_same agree _ (.terminal binding rfl)

theorem keys_same {heard : String → Bool} (isHeard : ∀ text, heard text = true → Heard units ⟨text⟩) :
    (refKeys log).filter heard = (refKeys rest).filter heard := by
  refine sorted_ext ((sorted_set_sorted).filter _) ((sorted_set_sorted).filter _) fun text => ?_
  rw [List.mem_filter, List.mem_filter, mem_ref_keys, mem_ref_keys]
  exact and_congr_left fun passes => agree _ (isHeard text passes)

end

variable {laneId : Id} {texts : List String} {rows : Rows} {lanes : List OpenLane}

omit [ReadyRootJson] in
theorem scan_same : scanLiveDelivery log laneId texts = scanLiveDelivery rest laneId texts := by
  induction texts with
  | nil => rfl
  | cons text texts ih =>
    rw [scanLiveDelivery, scanLiveDelivery, ih]
    cases decodeVersionedBindingRef text with
    | error error => rfl
    | ok binding =>
      show (if isLiveDelivery log laneId binding = true then _ else _) = if isLiveDelivery rest laneId binding = true then _ else _
      rw [isLiveDelivery, isLiveDelivery, terminal_same agree]

omit agree [ReadyRootJson] in
theorem scan_filter {keep : String → Bool} (passed : ∀ text ∈ texts, keep text = false →
      ∃ binding, decodeVersionedBindingRef text = .ok binding ∧ isLiveDelivery rows laneId binding = false) :
    scanLiveDelivery rows laneId (texts.filter keep) = scanLiveDelivery rows laneId texts := by
  induction texts with
  | nil => rfl
  | cons text texts ih =>
    have later := ih fun other member => passed other (List.mem_cons_of_mem _ member)
    cases kept : keep text with
    | true => rw [List.filter_cons_of_pos kept, scanLiveDelivery, scanLiveDelivery, later]
    | false =>
      obtain ⟨binding, decoded, notLive⟩ := passed text List.mem_cons_self kept
      rw [List.filter_cons_of_neg (by simp [kept]), scanLiveDelivery, decoded, later]
      simp [notLive]

omit agree [ReadyRootJson] in
theorem unheard_binding {text : String} (begins : startsWith text issuedBindingRefPrefix = true) (unheard : ¬ Heard units ⟨text⟩) :
    ∃ binding, decodeVersionedBindingRef text = .ok binding ∧ isRunRole binding.roleId = false := by
  by_contra none
  refine unheard (.binding begins fun binding decoded => ?_)
  by_contra notRun
  exact none ⟨binding, decoded, by simpa using notRun⟩

section

omit [ReadyRootJson]

theorem live_same (laneId : Id) : laneHasLiveDelivery log laneId = laneHasLiveDelivery rest laneId := by
  classical
  let heard : String → Bool := fun text => decide (Heard units ⟨text⟩)
  have passed : ∀ rows, ∀ text ∈ bindingRefs rows, heard text = false →
      ∃ binding, decodeVersionedBindingRef text = .ok binding ∧ isLiveDelivery rows laneId binding = false := by
    intro rows text member unheard
    obtain ⟨binding, decoded, notRun⟩ := unheard_binding (List.mem_filter.mp member).2 (of_decide_eq_false unheard)
    rw [isRunRole, Bool.or_eq_false_iff] at notRun
    exact ⟨binding, decoded, by simp [isLiveDelivery, notRun.1]⟩
  have sameRefs : (bindingRefs log).filter heard = (bindingRefs rest).filter heard := by
    rw [bindingRefs, bindingRefs, List.filter_filter, List.filter_filter]
    refine keys_same agree fun text passes => ?_
    rw [Bool.and_eq_true] at passes
    exact of_decide_eq_true passes.1
  rw [laneHasLiveDelivery, laneHasLiveDelivery, ← scan_filter (passed log), ← scan_filter (passed rest), sameRefs]
  exact scan_same agree

theorem active_implementers_same : activeImplementers log = activeImplementers rest := by
  have isHeard : ∀ text, ((activityBinding text).map fun binding =>
      binding.roleId == "implementer" && !terminalConsumed rest binding).getD false = true → Heard units ⟨text⟩ := by
    intro text active
    cases found : activityBinding text with
    | none => simp [found] at active
    | some binding =>
      have decoded := activity_binding_decoded found
      have role : binding.roleId = "implementer" := by
        rw [found] at active
        simp only [Option.map_some, Option.getD_some, Bool.and_eq_true, beq_iff_eq] at active
        exact active.1
      refine .binding (decoded_starts decoded) fun other otherDecoded => ?_
      rw [show decodeVersionedBindingRef text = .ok other from otherDecoded] at decoded
      cases decoded
      rw [role]
      decide
  rw [activeImplementers, activeImplementers, activeInRole, activeInRole, List.countP_filterMap, List.countP_filterMap,
    List.countP_eq_length_filter, List.countP_eq_length_filter]
  simp only [terminal_same agree]
  rw [keys_same agree isHeard]

theorem closed_same (index : Nat) (bound : index < units.length) :
    laneClosed log (approvedLaneId index) = laneClosed rest (approvedLaneId index) :=
  exact_same agree _ (.lane index _ (List.getElem?_eq_getElem bound) (by simp [laneRefs]))

theorem gates_same {unit : ApprovedUnit} (member : unit ∈ units) : gatesMet log unit = gatesMet rest unit := by
  obtain ⟨index, placed⟩ := List.getElem?_of_mem member
  rw [Bool.eq_iff_iff, gatesMet, gatesMet, List.all_eq_true, List.all_eq_true]
  refine forall₂_congr fun criterion waits => ?_
  rw [exact_same agree (gateRef criterion).text (.lane index unit placed (List.mem_append_right _ (List.mem_map_of_mem waits)))]

theorem readiness_same {workstream : Id} (host : HostFacts) {lane : OpenLane} (placed : units[lane.index]? = some lane.unit) :
    laneReadiness units log host (laneProposal workstream lane) = laneReadiness units rest host (laneProposal workstream lane) := by
  have gates : ((laneProposal workstream lane).orderedUnitIds.filterMap fun id => units.find? fun unit => unit.id == id).all
      (gatesMet log) = ((laneProposal workstream lane).orderedUnitIds.filterMap fun id =>
        units.find? fun unit => unit.id == id).all (gatesMet rest) := by
    rw [Bool.eq_iff_iff, List.all_eq_true, List.all_eq_true]
    refine forall₂_congr fun unit found => ?_
    obtain ⟨id, _, found⟩ := List.mem_filterMap.mp found
    rw [gates_same agree (List.mem_of_find?_eq_some found)]
  have blockers : hasExactRef log (blockerRef (laneProposal workstream lane).laneId).text =
      hasExactRef rest (blockerRef (laneProposal workstream lane).laneId).text :=
    exact_same agree _ (.lane lane.index lane.unit placed (by simp [laneRefs, laneProposal, blockerRef]))
  have free : hasExactRef log (unitActiveRef lane.unit.id).text = hasExactRef rest (unitActiveRef lane.unit.id).text :=
    exact_same agree _ (.lane lane.index lane.unit placed (by simp [laneRefs]))
  have units_free : (laneProposal workstream lane).orderedUnitIds.all (fun unit => !hasExactRef log (unitActiveRef unit).text) =
      (laneProposal workstream lane).orderedUnitIds.all fun unit => !hasExactRef rest (unitActiveRef unit).text := by
    simp [laneProposal, free]
  simp only [laneReadiness, gates, blockers, units_free]

theorem window_same (placed : ∀ lane ∈ lanes, units[lane.index]? = some lane.unit) :
    laneWindow log lanes = laneWindow rest lanes := by
  rw [laneWindow, laneWindow, insertion_sort_congr (laneKey log)]
  intro lane member
  rw [laneKey, laneKey, gates_same agree (List.mem_of_getElem? (placed lane member))]

theorem submission_same (workstream : Id) (lanes : List OpenLane) :
    submissionOf workstream units log lanes = submissionOf workstream units rest lanes := by
  have reasons : ((units.zipIdx.filter fun entry => entry.1.id ∉ lanes.map fun lane => lane.unit.id).map fun entry =>
      ({ unitId := entry.1.id, reason := futureReason log entry.2 } : FutureUnit)) =
      (units.zipIdx.filter fun entry => entry.1.id ∉ lanes.map fun lane => lane.unit.id).map fun entry =>
        { unitId := entry.1.id, reason := futureReason rest entry.2 } := by
    refine List.map_congr_left fun entry member => ?_
    have placed := List.mem_zipIdx_iff_getElem?.mp (List.mem_filter.mp member).1
    rw [futureReason, futureReason, closed_same agree entry.2 (List.getElem?_eq_some_iff.mp placed).1]
  simp only [submissionOf, reasons]

end

omit agree [ReadyRootJson] in
theorem open_lanes_placed (mapped : ((openUnits units rows).mapM fun entry =>
      (laneHasLiveDelivery rows (approvedLaneId entry.2)).map (OpenLane.mk entry.2 entry.1)) = .ok lanes) :
    ∀ lane ∈ lanes, units[lane.index]? = some lane.unit := by
  intro lane member
  obtain ⟨entry, entryIn, returned⟩ := mapM_ok_source mapped lane member
  obtain ⟨live, _, rfl⟩ := map_ok returned
  exact List.mem_zipIdx_iff_getElem?.mp (List.mem_filter.mp entryIn).1

omit [ReadyRootJson] in
theorem plan_submission_same (workstream : Id) :
    allocationSubmissionFromPlan workstream units log = allocationSubmissionFromPlan workstream units rest := by
  have opened : openUnits units log = openUnits units rest := by
    refine List.filter_congr fun entry member => ?_
    have placed := List.mem_zipIdx_iff_getElem?.mp member
    rw [closed_same agree entry.2 (List.getElem?_eq_some_iff.mp placed).1]
  rw [allocationSubmissionFromPlan, opened]
  simp only [live_same agree]
  refine bind_congr_ok fun _ _ => bind_congr_ok fun lanes mapped => ?_
  rw [window_same agree (open_lanes_placed mapped), submission_same agree]

omit agree [ReadyRootJson] in
theorem submission_lanes_placed {workstream : Id} {submission : AllocationSubmission}
    (built : allocationSubmissionFromPlan workstream units rows = .ok submission) (proposal : AllocationLaneProposal)
    (member : proposal ∈ submission.lanes) :
    ∃ lane, units[lane.index]? = some lane.unit ∧ proposal = laneProposal workstream lane := by
  obtain ⟨_, _, continued⟩ := bind_ok built
  obtain ⟨lanes, mapped, returned⟩ := bind_ok continued
  cases returned
  obtain ⟨lane, laneIn, rfl⟩ := List.mem_map.mp member
  have inLanes : lane ∈ lanes := (List.mem_insertionSort _).mp (List.mem_of_mem_take laneIn)
  exact ⟨lane, open_lanes_placed mapped lane inLanes, rfl⟩

omit [ReadyRootJson] in
theorem selected_same {workstream : Id} {host : HostFacts} :
    selectedLanes workstream units log host = selectedLanes workstream units rest host := by
  rw [selectedLanes, plan_submission_same agree]
  simp only [live_same agree, runPolicy, active_implementers_same agree]
  refine bind_congr_ok fun submission built => bind_congr_ok fun allocation accepted => ?_
  rw [map_error_ok] at built accepted
  have placed := submission_lanes_placed built
  have readiness : laneReadinessFromEvents submission.lanes units log host = laneReadinessFromEvents submission.lanes units rest host := by
    refine List.map_congr_left fun proposal member => ?_
    obtain ⟨lane, lanePlaced, rfl⟩ := placed proposal member
    exact readiness_same agree host lanePlaced
  rw [readiness]
  congr 1
  refine List.filter_congr fun laneId selected => ?_
  obtain ⟨canonical, canonicalIn, named, _⟩ := select_ready_lanes_mem selected
  obtain ⟨proposal, proposalIn, returned⟩ := mapM_ok_source (validate_allocation_lanes units accepted) canonical canonicalIn
  obtain ⟨lane, lanePlaced, rfl⟩ := placed proposal proposalIn
  rw [(canonical_lane_proposal units returned).1] at named
  have laneIdEq : approvedLaneId lane.index = laneId := named
  rw [← laneIdEq, closed_same agree lane.index (List.getElem?_eq_some_iff.mp lanePlaced).1]

omit [ReadyRootJson] in
theorem open_work_of_same (openWork : hasOpenWork log = true) : hasOpenWork rest = true := by
  rw [has_open_work_iff] at openWork ⊢
  rcases openWork with ⟨start, among, reference, member, begins⟩ | ⟨reference, member, begins, malformed⟩ |
    ⟨binding, ⟨reference, member, decoded⟩, role, live⟩
  · exact Or.inl ⟨start, among, reference, (agree _ (.blocking start among begins)).mp member, begins⟩
  · refine Or.inr (Or.inl ⟨reference, (agree _ (.binding begins fun binding decoded => ?_)).mp member, begins, malformed⟩)
    exact absurd decoded (malformed binding)
  · refine Or.inr (Or.inr ⟨binding, ⟨reference, ?_, decoded⟩, role, (terminal_same agree).symm.trans live⟩)
    refine (agree _ (.binding (decoded_starts decoded) fun other otherDecoded => ?_)).mp member
    rw [decoded] at otherDecoded
    cases otherDecoded
    exact role

end Agree

omit [BindingJson] in
theorem silent_roots {row : Row} (silent : Silent row) : readyRootsOfRow workstream row = .ok [] := by
  obtain ⟨notReady, noRoots⟩ := silent
  rw [readyRootsOfRow, noRoots]
  exact bind_eq_ok rfl (bind_eq_ok notReady rfl)

inductive Dropping (dropped : Row → Prop) : Rows → Rows → Prop where
  | nil : Dropping dropped [] []
  | keep (row : Row) (log rest : Rows) (tail : Dropping dropped log rest) : Dropping dropped (row :: log) (row :: rest)
  | drop (row : Row) (log rest : Rows) (has : dropped row) (tail : Dropping dropped log rest) : Dropping dropped (row :: log) rest

omit [BindingJson] [ReadyRootJson] in
theorem without_dropping {log : SharedLog} {other : Id} : Dropping (· ∈ log.rowsOf other) log.rows (log.without other) := by
  have within : ∀ entries : SharedLog, (∀ row ∈ entries.rowsOf other, row ∈ log.rowsOf other) →
      Dropping (· ∈ log.rowsOf other) entries.rows (entries.without other) := by
    intro entries contained
    induction entries with
    | nil => exact .nil
    | cons entry entries ih =>
      simp only [SharedLog.rowsOf, SharedLog.without, SharedLog.rows, List.filter_cons, List.map_cons] at contained ih ⊢
      by_cases mine : (entry.1 == other) = true
      · simp only [mine, if_true, List.map_cons, List.forall_mem_cons, Bool.not_true, Bool.false_eq_true, if_false] at contained ⊢
        exact .drop entry.2 _ _ contained.1 (ih contained.2)
      · simp only [mine, if_false, Bool.not_false, if_true, List.map_cons, Bool.false_eq_true] at contained ⊢
        exact .keep entry.2 _ _ (ih contained)
  exact within log fun _ member => member

def readyRootsOf (rows : Rows) : Except String (List ReadyRoot) := (rows.mapM (readyRootsOfRow workstream)).map List.flatten

omit [BindingJson] in
theorem ready_roots_cons (row : Row) (rows : Rows) : readyRootsOf workstream (row :: rows) = do
      let first ← readyRootsOfRow workstream row
      let others ← readyRootsOf workstream rows
      return first ++ others := by
  rw [readyRootsOf, readyRootsOf, List.mapM_cons]
  cases readyRootsOfRow workstream row with
  | error error => rfl
  | ok first => cases rows.mapM (readyRootsOfRow workstream) <;> rfl

omit [BindingJson] in
theorem roots_same {log rest : Rows} (dropping : Dropping Silent log rest) :
    readyRootsOf workstream log = readyRootsOf workstream rest := by
  induction dropping with
  | nil => rfl
  | keep row log rest _ ih => rw [ready_roots_cons, ready_roots_cons, ih]
  | drop row log rest silent _ ih =>
    rw [ready_roots_cons, silent_roots workstream silent, ih]
    cases readyRootsOf workstream rest <;> rfl

omit [BindingJson] [ReadyRootJson] in
theorem ready_rows_same {log rest : Rows} (dropping : Dropping Silent log rest) :
    keepM planningReadyEvent log = keepM planningReadyEvent rest := by
  induction dropping with
  | nil => rfl
  | keep row log rest _ ih => rw [keepM, keepM, ih]
  | drop row log rest silent _ ih =>
    rw [keepM, silent.1, ih]
    cases keepM planningReadyEvent rest <;> rfl

omit [BindingJson] in
theorem v2_root_of_roots (rows : Rows) : v2ReadyRootForWorkstream rows workstream = (readyRootsOf workstream rows >>= fun
      | [] => .ok none
      | [root] => .ok (some root)
      | _ => .error "approved-plan-v2 ready root is ambiguous") := by
  rw [v2ReadyRootForWorkstream, readyRootsOf]
  cases rows.mapM (readyRootsOfRow workstream) <;> rfl

omit [BindingJson] in
theorem plan_same {files : PlanFiles} {log rest : Rows} (dropping : Dropping Silent log rest) :
    readApprovedPlan workstream files log = readApprovedPlan workstream files rest := by
  rw [readApprovedPlan, readApprovedPlan, v2_root_of_roots, v2_root_of_roots, roots_same workstream dropping, ready_rows_same dropping]

omit [BindingJson] [ReadyRootJson] in
theorem dropping_mono {dropped more : Row → Prop} {log rest : Rows} (implies : ∀ row, dropped row → more row)
    (dropping : Dropping dropped log rest) : Dropping more log rest := by
  induction dropping with
  | nil => exact .nil
  | keep row log rest _ ih => exact .keep row log rest ih
  | drop row log rest has _ ih => exact .drop row log rest (implies row has) ih

omit [BindingJson] in
theorem read_plan_held {files : PlanFiles} (holds : files.Hold units) {rows : Rows} {plan : List ApprovedUnit}
    (readable : readApprovedPlan workstream files rows = .ok plan) : plan = units := by
  obtain ⟨root, _, readable⟩ := bind_ok readable
  cases root with
  | some root =>
    obtain ⟨_, _, readable⟩ := bind_ok readable
    exact holds.2 root plan readable
  | none =>
    obtain ⟨_, _, readable⟩ := bind_ok readable
    obtain ⟨_, _, readable⟩ := bind_ok readable
    obtain ⟨_, _, readable⟩ := bind_ok readable
    exact holds.1 plan readable

theorem unheard_undisturbed {log : SharedLog} {other : Id} (unheard : Unheard units (log.rowsOf other)) :
    Undisturbed workstream units log.rows (log.without other) := by
  have agree : ∀ reference, Heard units reference → (reference ∈ carried log.rows ↔ reference ∈ carried (log.without other)) := by
    intro reference heard
    rw [carried_shared]
    exact or_iff_right fun member => unheard.refs reference member heard
  have dropping := dropping_mono (fun row member => unheard.silent row member) (without_dropping)
  have sameWork : hasOpenWork log.rows = hasOpenWork (log.without other) := by
    rw [Bool.eq_iff_iff]
    exact ⟨open_work_of_same agree, open_work_of_same fun reference heard => (agree reference heard).symm⟩
  refine ⟨closed_same agree, readiness_same agree, fun host _ => selected_same agree, ?_⟩
  intro host holds
  rw [snapshot_iff, snapshot_iff, sameWork, plan_same workstream dropping]
  refine and_congr_right fun _ => and_congr_left fun _ => exists_congr fun plan => and_congr_right fun readable => ?_
  have lanes : allLanesClosed log.rows plan.length = allLanesClosed (log.without other) plan.length := by
    rw [read_plan_held workstream units holds readable, Bool.eq_iff_iff, allLanesClosed, allLanesClosed, List.all_eq_true, List.all_eq_true]
    exact forall₂_congr fun index member => by rw [closed_same agree index (List.mem_range.mp member)]
  rw [lanes]

end Isolation

end PiAutopilot.Delivery
