import PiAutopilot.Delivery.Isolation

set_option autoImplicit false

/-! # When rows of another workstream interfere

For every reference that is read there is a log in which it makes a difference: the rows are put
beside a log that is complete but for them. -/

namespace PiAutopilot.Delivery

open EventLog Lib

def quietStarts : List String := blockingStarts ++ bindingStarts ++ [planningTransitionKindRefPrefix, readyRootPrefix]

theorem outside_start (starts : List String) {text : String} (start : String) (apart : outside starts text = true) (among : start ∈ starts) :
    startsWith text start = false := by
  have differs := List.all_eq_true.mp apart start among
  rwa [Bool.not_eq_true'] at differs

def closedRow (units : List ApprovedUnit) : Row where
  kind := ⟨"integration:forward-integrated"⟩
  refs := (List.range units.length).map fun index => unitClosedRef (approvedLaneId index)

theorem closed_row_quiet {units : List ApprovedUnit} {reference : Ref} (member : reference ∈ (closedRow units).refs) :
    outside quietStarts reference.text = true := by
  obtain ⟨index, _, rfl⟩ := List.mem_map.mp member
  exact outside_append _ (by decide +kernel)

theorem silent_row {row : Row} (kind : row.kind.text ∉ receiptConsumedKind :: closedPlanningEventKinds)
    (markers : ∀ reference ∈ row.refs, startsWith reference.text planningTransitionKindRefPrefix = false)
    (roots : ∀ reference ∈ row.refs, startsWith reference.text readyRootPrefix = false) : Silent row := by
  obtain ⟨notReceipt, notPlanning⟩ := not_or.mp (mt List.mem_cons.mpr kind)
  have noMarkers : refsStarting row planningTransitionKindRefPrefix = [] := by
    rw [refsStarting, List.filter_eq_nil_iff]
    exact fun reference member => by simp [markers reference member]
  refine ⟨?_, ?_⟩
  · have unprojected : receiptProjectedPlanningKind row = .ok none := by
      rw [receiptProjectedPlanningKind, noMarkers]
      exact if_neg fun both => notReceipt both.1
    have unnamed : closedPlanningEventKinds.find? (fun known => known == row.kind.text) = none := by
      rw [List.find?_eq_none]
      intro known member same
      exact notPlanning (beq_iff_eq.mp same ▸ member)
    have noKind : logicalPlanningEventKind row = .ok none := by
      rw [logicalPlanningEventKind, unprojected]
      rw [if_neg notReceipt, unnamed]
      rfl
    rw [planningReadyEvent, noKind]
    rfl
  · rw [refsStarting, List.filter_eq_nil_iff]
    exact fun reference member => by simp [roots reference member]

theorem closed_row_silent {units : List ApprovedUnit} : Silent (closedRow units) := by
  have kind : "integration:forward-integrated" ∉ receiptConsumedKind :: closedPlanningEventKinds := by decide
  refine silent_row kind ?_ ?_
  · exact fun reference member => outside_start quietStarts _ (closed_row_quiet member) (by decide)
  · exact fun reference member => outside_start quietStarts _ (closed_row_quiet member) (by decide)

section Interference

variable [BindingJson] [ReadyRootJson] (workstream : Id) (units : List ApprovedUnit)

def sampleOid : String := "0000000000000000000000000000000000000000"

def completeHost : SnapshotHost where
  files :=
    { currentDir := ""
      readV2 := fun _ => .error "no such file"
      hasV2 := false
      readV1 := .ok units }
  firstTip := .ok sampleOid
  secondTip := .ok sampleOid
  tree := .ok sampleOid
  runId := .ok "run"
  stateHash := fun _ => ""
  mode := .automatic

omit [BindingJson] [ReadyRootJson] in
theorem complete_host_holds : (completeHost units).files.Hold units := by
  refine ⟨fun plan read => (Except.ok.inj read).symm, fun root plan read => by cases read⟩

omit [BindingJson] [ReadyRootJson] in
theorem complete_host_resolves : (completeHost units).Resolves := ⟨sampleOid, rfl, rfl, by decide +kernel, ⟨_, rfl⟩, _, rfl⟩

variable {rows : Rows} {binding : IssuedRunnerBinding}

omit [BindingJson] [ReadyRootJson] in
theorem closed_row_closes (member : closedRow units ∈ rows) : allLanesClosed rows units.length = true := by
  rw [allLanesClosed, List.all_eq_true]
  intro index within
  rw [laneClosed, has_exact_ref]
  exact List.mem_flatMap.mpr ⟨_, member, List.mem_map_of_mem within⟩

theorem complete_snapshot_iff (nonempty : units ≠ []) (closes : closedRow units ∈ rows) :
    (∃ found, executionCompleteSnapshot workstream (completeHost units) rows = .ok (some found)) ↔
      hasOpenWork rows = false ∧ ∃ plan, readApprovedPlan workstream (completeHost units).files rows = .ok plan := by
  rw [snapshot_iff]
  refine and_congr_right fun _ => ?_
  rw [and_iff_left (complete_host_resolves units)]
  refine exists_congr fun plan => and_iff_left_of_imp fun readable => ?_
  rw [read_plan_held workstream units (complete_host_holds units) readable]
  exact ⟨nonempty, closed_row_closes units closes⟩

omit [BindingJson] in
theorem complete_plan_iff : (∃ plan, readApprovedPlan workstream (completeHost units).files rows = .ok plan) ↔
      readyRootsOf workstream rows = .ok [] ∧ ∃ ready, keepM planningReadyEvent rows = .ok ready ∧
        (ready = [] ∨ ready.countP (fun row => eventHasOneRef row (planPath workstream)) = 1) := by
  constructor
  · rintro ⟨plan, readable⟩
    rw [readApprovedPlan, v2_root_of_roots] at readable
    obtain ⟨root, found, readable⟩ := bind_ok readable
    cases root with
    | some root =>
      obtain ⟨_, _, readable⟩ := bind_ok readable
      cases readable
    | none =>
      obtain ⟨roots, foundRoots, single⟩ := bind_ok found
      obtain ⟨_, _, readable⟩ := bind_ok readable
      obtain ⟨ready, kept, readable⟩ := bind_ok readable
      obtain ⟨_, passed, _⟩ := bind_ok readable
      have noRoots : roots = [] := by
        cases roots with
        | nil => rfl
        | cons first others => cases others <;> cases single
      rw [noRoots] at foundRoots
      refine ⟨foundRoots, ready, kept, ?_⟩
      rw [refuse_if_ok] at passed
      rcases Bool.and_eq_false_iff.mp passed with isEmpty | counted
      · exact Or.inl (by simpa using isEmpty)
      · exact Or.inr (by simpa using counted)
  · rintro ⟨noRoots, ready, kept, counted⟩
    have passed : refuseIf (!ready.isEmpty && ready.countP (fun row => eventHasOneRef row (planPath workstream)) != 1)
        "approved-plan-v1 ready root lacks exact durable plan path" = .ok () := by
      rcases counted with rfl | counted
      · rfl
      · simp [counted]
    refine ⟨units, ?_⟩
    rw [readApprovedPlan, v2_root_of_roots, noRoots]
    exact bind_eq_ok rfl (bind_eq_ok rfl (bind_eq_ok kept (bind_eq_ok passed rfl)))

def NeverDisturbs (mine : Rows) : Prop := ∀ others, Undisturbed workstream units (mine ++ others) others

omit [BindingJson] [ReadyRootJson] in
theorem quiet_no_terminal (rows : Rows) (quiet : ∀ reference ∈ carried rows, outside quietStarts reference.text = true) : terminalConsumedRef binding ∉ carried rows := by
  intro member
  have apart := outside_start quietStarts "terminal-consumed:" (quiet _ member) (by decide)
  rw [terminal_starts] at apart
  cases apart

omit [ReadyRootJson] in
theorem quiet_not_decoded (rows : Rows) (quiet : ∀ reference ∈ carried rows, outside quietStarts reference.text = true)
    (binding : IssuedRunnerBinding) : ¬ DecodedIn rows binding := by
  rintro ⟨reference, member, decoded⟩
  have apart := outside_start quietStarts issuedBindingRefPrefix (quiet _ member) (by decide)
  rw [decoded_starts decoded] at apart
  cases apart

omit [ReadyRootJson] in
theorem quiet_no_open_work (quiet : ∀ reference ∈ carried rows, outside quietStarts reference.text = true) :
    hasOpenWork rows = false := by
  rw [Bool.eq_false_iff, Ne, has_open_work_iff]
  rintro (⟨start, among, reference, member, begins⟩ | ⟨reference, member, begins, _⟩ | ⟨binding, decoded, _⟩)
  · have apart := outside_start quietStarts start (quiet _ member) (by simp [quietStarts, among])
    rw [begins] at apart
    cases apart
  · have apart := outside_start quietStarts issuedBindingRefPrefix (quiet _ member) (by decide)
    rw [begins] at apart
    cases apart
  · exact quiet_not_decoded rows quiet binding decoded

omit [BindingJson] [ReadyRootJson] in
theorem closed_rows_quiet (reference : Ref) (member : reference ∈ carried [closedRow units]) :
    outside quietStarts reference.text = true := by
  rw [carried_singleton] at member
  exact closed_row_quiet member

omit [BindingJson] in
theorem silent_plan (silent : ∀ row ∈ rows, Silent row) :
    ∃ plan, readApprovedPlan workstream (completeHost units).files rows = .ok plan := by
  have noRoots : readyRootsOf workstream rows = .ok [] := by
    induction rows with
    | nil => rfl
    | cons row rows ih =>
      rw [ready_roots_cons, silent_roots workstream (silent row List.mem_cons_self),
        ih fun other member => silent other (List.mem_cons_of_mem _ member)]
      rfl
  exact (complete_plan_iff workstream units).mpr ⟨noRoots, [], (keep_m_nil).mpr fun row member => (silent row member).1, Or.inl rfl⟩

theorem beside_closed (nonempty : units ≠ []) {mine : Rows} (never : NeverDisturbs workstream units mine) :
    hasOpenWork (mine ++ [closedRow units]) = false ∧
      ∃ plan, readApprovedPlan workstream (completeHost units).files (mine ++ [closedRow units]) = .ok plan := by
  refine (complete_snapshot_iff workstream units nonempty (by simp)).mp ?_
  refine ((never [closedRow units]).snapshot (completeHost units) (complete_host_holds units)).mpr ?_
  refine (complete_snapshot_iff workstream units nonempty (by simp)).mpr ⟨quiet_no_open_work (closed_rows_quiet units), ?_⟩
  refine silent_plan workstream units fun row member => ?_
  rw [List.mem_singleton.mp member]
  exact closed_row_silent

def readyRow : Row where
  kind := ⟨readyToExecuteKind⟩
  refs := [⟨planPath workstream⟩]

omit [BindingJson] [ReadyRootJson] in
theorem ready_row_quiet : outside quietStarts (planPath workstream) = true := by
  rw [planPath, String.append_assoc]
  exact outside_append _ (by decide +kernel)

omit [BindingJson] [ReadyRootJson] in
theorem ready_row_ready : planningReadyEvent (readyRow workstream) = .ok true := by
  have noMarkers : refsStarting (readyRow workstream) planningTransitionKindRefPrefix = [] := by
    have apart := outside_start quietStarts planningTransitionKindRefPrefix (ready_row_quiet workstream) (by decide)
    simp [refsStarting, readyRow, apart]
  have unprojected : receiptProjectedPlanningKind (readyRow workstream) = .ok none := by
    rw [receiptProjectedPlanningKind, noMarkers]
    exact if_neg fun both => absurd both.1 (show ¬ readyToExecuteKind = receiptConsumedKind by decide)
  rw [planningReadyEvent, logicalPlanningEventKind, unprojected]
  rfl

omit [BindingJson] in
theorem ready_row_roots : readyRootsOfRow workstream (readyRow workstream) = .ok [] := by
  have noRoots : refsStarting (readyRow workstream) readyRootPrefix = [] := by
    have apart := outside_start quietStarts readyRootPrefix (ready_row_quiet workstream) (by decide)
    simp [refsStarting, readyRow, apart]
  rw [readyRootsOfRow, noRoots]
  exact bind_eq_ok rfl (bind_eq_ok (ready_row_ready workstream) rfl)

omit [BindingJson] in
theorem ready_roots_append (first second : Rows) (roots : List ReadyRoot) (found : readyRootsOf workstream (first ++ second) = .ok roots) :
    ∃ left, readyRootsOf workstream first = .ok left ∧ left <+: roots := by
  induction first generalizing roots with
  | nil => exact ⟨[], rfl, List.nil_prefix⟩
  | cons row rows ih =>
    rw [List.cons_append, ready_roots_cons] at found
    obtain ⟨head, ofRow, found⟩ := bind_ok found
    obtain ⟨others, ofRows, returned⟩ := bind_ok found
    cases returned
    obtain ⟨left, ofFirst, isPrefix⟩ := ih others ofRows
    refine ⟨head ++ left, ?_, (List.prefix_append_right_inj head).mpr isPrefix⟩
    rw [ready_roots_cons]
    exact bind_eq_ok ofRow (bind_eq_ok ofFirst rfl)

variable {mine : Rows} (nonempty : units ≠ []) (never : NeverDisturbs workstream units mine)

include nonempty never

theorem beside_ready :
    ∃ plan, readApprovedPlan workstream (completeHost units).files (mine ++ [closedRow units, readyRow workstream]) = .ok plan := by
  refine ((complete_snapshot_iff workstream units nonempty (by simp)).mp ?_).2
  refine ((never [closedRow units, readyRow workstream]).snapshot (completeHost units) (complete_host_holds units)).mpr ?_
  refine (complete_snapshot_iff workstream units nonempty (by simp)).mpr ⟨quiet_no_open_work ?_, ?_⟩
  · intro reference member
    simp only [carried, List.flatMap_cons, List.flatMap_nil, List.append_nil, List.mem_append] at member
    rcases member with inClosed | inReady
    · exact closed_row_quiet inClosed
    · rw [List.mem_singleton.mp inReady]
      exact ready_row_quiet workstream
  · refine (complete_plan_iff workstream units).mpr ⟨?_, [readyRow workstream], ?_, Or.inr ?_⟩
    · rw [ready_roots_cons, silent_roots workstream (closed_row_silent), ready_roots_cons, ready_row_roots]
      rfl
    · rw [keepM, keepM, (closed_row_silent).1, ready_row_ready]
      rfl
    · simp [eventHasOneRef, readyRow]

theorem never_silent : ∀ row ∈ mine, Silent row := by
  obtain ⟨noRoots, ready, kept, counted⟩ := (complete_plan_iff workstream units).mp (beside_closed workstream units nonempty never).2
  obtain ⟨_, readyBeside, keptBeside, countedBeside⟩ :=
    (complete_plan_iff workstream units).mp (beside_ready workstream units nonempty never)
  obtain ⟨left, right, keptLeft, keptRight, rfl⟩ := (keep_m_append _ _ _ _).mp kept
  obtain ⟨leftBeside, rightBeside, keptLeftBeside, keptRightBeside, rfl⟩ := (keep_m_append _ _ _ _).mp keptBeside
  have rightNil : right = [] := by
    rw [keepM, (closed_row_silent).1] at keptRight
    exact (Except.ok.inj keptRight).symm
  have rightReady : rightBeside = [readyRow workstream] := by
    rw [keepM, keepM, (closed_row_silent).1, ready_row_ready] at keptRightBeside
    exact (Except.ok.inj keptRightBeside).symm
  have sameLeft : leftBeside = left := Except.ok.inj (keptLeftBeside.symm.trans keptLeft)
  have readyCounts : eventHasOneRef (readyRow workstream) (planPath workstream) = true := by simp [eventHasOneRef, readyRow]
  subst rightNil rightReady sameLeft
  rw [List.append_nil] at counted
  -- Without the ready row there is none or one that names the path; with it there is none.
  have leftNil : leftBeside = [] := by
    rcases countedBeside with isNil | one
    · exact absurd isNil (by simp)
    · rw [List.countP_append, List.countP_singleton, if_pos readyCounts] at one
      rcases counted with isNil | also
      · exact isNil
      · omega
  rw [leftNil] at keptLeft
  obtain ⟨roots, found, isPrefix⟩ := ready_roots_append workstream mine _ _ noRoots
  intro row member
  have notReady := (keep_m_nil).mp keptLeft row member
  refine ⟨notReady, ?_⟩
  obtain ⟨all, mapped, _⟩ := map_ok found
  obtain ⟨ofRow, _, found⟩ := mapM_ok_mem mapped row member
  obtain ⟨parsed, parses, found⟩ := bind_ok found
  obtain ⟨isReady, tested, found⟩ := bind_ok found
  obtain ⟨_, passed, _⟩ := bind_ok found
  rw [notReady] at tested
  cases tested
  rw [refuse_if_ok] at passed
  have none : parsed = [] := by simpa using passed
  have sameLength := ((mapM_ok_iff _ _).mp parses).length_eq
  rw [none] at sameLength
  exact List.length_eq_zero_iff.mp sameLength

theorem never_terminal : terminalConsumedRef binding ∉ carried mine := by
  intro member
  let validator : IssuedRunnerBinding := { binding with roleId := "validator" }
  let others : Rows := [closedRow units, ⟨⟨"agent:spawn"⟩, [bindingRef validator]⟩]
  have othersCarry : carried others = carried [closedRow units] ++ [bindingRef validator] := by simp [others, carried]
  have silent := never_silent workstream units nonempty never
  obtain ⟨quiet, _⟩ := beside_closed workstream units nonempty never
  have bindingQuiet : ∀ start ∈ blockingStarts, startsWith (bindingRef validator).text start = false := by
    refine fun start among => outside_start blockingStarts start (outside_append _ ?_) among
    decide +kernel
  have notSnapshot : ¬ ∃ found, executionCompleteSnapshot workstream (completeHost units) others = .ok (some found) := by
    rw [complete_snapshot_iff workstream units nonempty (by simp [others])]
    rintro ⟨noWork, _⟩
    have live : hasOpenWork others = true := by
      rw [has_open_work_iff]
      have role : isRunRole "validator" = true := by decide
      refine Or.inr (Or.inr ⟨validator, ⟨bindingRef validator, by simp [othersCarry], decode_binding_ref validator⟩, role, ?_⟩)
      rw [terminalConsumed, Bool.eq_false_iff, Ne, has_exact_ref, othersCarry, List.mem_append, List.mem_singleton]
      rintro (inClosed | same)
      · exact quiet_no_terminal _ (closed_rows_quiet units) inClosed
      · exact terminal_ne_binding validator same
    rw [live] at noWork
    cases noWork
  refine notSnapshot (((never others).snapshot (completeHost units) (complete_host_holds units)).mp ?_)
  refine (complete_snapshot_iff workstream units nonempty (by simp [others])).mpr ⟨?_, ?_⟩
  · rw [Bool.eq_false_iff, Ne, has_open_work_iff] at quiet ⊢
    have reaches : ∀ reference ∈ carried (mine ++ others),
        reference ∈ carried (mine ++ [closedRow units]) ∨ reference = bindingRef validator := by
      intro reference inBoth
      rw [carried_append, othersCarry, ← List.append_assoc, ← carried_append, List.mem_append, List.mem_singleton] at inBoth
      exact inBoth
    have within : ∀ reference ∈ carried (mine ++ [closedRow units]), reference ∈ carried (mine ++ others) := by
      intro reference inClosed
      rw [carried_append, othersCarry, ← List.append_assoc, ← carried_append]
      exact List.mem_append_left _ inClosed
    rintro (⟨start, among, reference, inBoth, begins⟩ | ⟨reference, inBoth, begins, malformed⟩ |
      ⟨other, ⟨reference, inBoth, decoded⟩, role, live⟩)
    · rcases reaches reference inBoth with inClosed | rfl
      · exact quiet (Or.inl ⟨start, among, reference, inClosed, begins⟩)
      · rw [bindingQuiet start among] at begins
        cases begins
    · rcases reaches reference inBoth with inClosed | rfl
      · exact quiet (Or.inr (Or.inl ⟨reference, inClosed, begins, malformed⟩))
      · exact malformed validator (decode_binding_ref validator)
    · rcases reaches reference inBoth with inClosed | rfl
      · refine quiet (Or.inr (Or.inr ⟨other, ⟨reference, inClosed, decoded⟩, role, ?_⟩))
        rw [terminalConsumed, Bool.eq_false_iff, Ne, has_exact_ref] at live ⊢
        exact fun consumed => live (within _ consumed)
      · rw [decode_binding_ref] at decoded
        cases decoded
        rw [terminalConsumed, Bool.eq_false_iff, Ne, has_exact_ref] at live
        refine live ?_
        rw [carried_append]
        exact List.mem_append_left _ member
  · refine silent_plan workstream units fun row inBoth => ?_
    rcases List.mem_append.mp inBoth with inMine | inOthers
    · exact silent row inMine
    · simp only [others, List.mem_cons, List.not_mem_nil, or_false] at inOthers
      rcases inOthers with rfl | rfl
      · exact closed_row_silent
      · have kind : "agent:spawn" ∉ receiptConsumedKind :: closedPlanningEventKinds := by decide
        refine silent_row kind ?_ ?_
        · intro reference single
          rw [List.mem_singleton.mp single]
          exact outside_start [planningTransitionKindRefPrefix] _ (outside_append _ (by decide)) List.mem_cons_self
        · intro reference single
          rw [List.mem_singleton.mp single]
          exact outside_start [readyRootPrefix] _ (outside_append _ (by decide)) List.mem_cons_self

omit nonempty never

theorem never_lane (approved : validateApprovedUnits units = .ok ())
    (never : NeverDisturbs workstream units mine) {index : Nat} {unit : ApprovedUnit} (placed : units[index]? = some unit)
    {reference : Ref} (ofLane : reference ∈ laneRefs unit index) : reference ∉ carried mine := by
  intro member
  have plan := validate_approved_units_ok units approved
  have unitIn := List.mem_of_getElem? placed
  have bound := (List.getElem?_eq_some_iff.mp placed).1
  let lane : OpenLane := ⟨index, unit, false⟩
  have alone := never []
  have readiness := alone.readiness ⟨true, sampleHost.resources⟩ lane placed
  rw [lane_readiness_unit workstream units _ _ plan unitIn, lane_readiness_unit workstream units _ _ plan unitIn] at readiness
  have present : hasExactRef (mine ++ []) reference.text = true := (has_exact_ref _).mpr (by simpa using member)
  have absent : ∀ text, hasExactRef [] text = false := fun _ => rfl
  rcases List.mem_append.mp ofLane with named | inGates
  · simp only [List.mem_cons, List.not_mem_nil, or_false] at named
    rcases named with rfl | rfl | rfl
    · have closed := alone.closed index bound
      rw [laneClosed, present, laneClosed] at closed
      cases closed
    · have clear := congrArg LaneReadiness.blockersClear readiness
      rw [show hasExactRef (mine ++ []) (blockerRef (approvedLaneId lane.index)).text = true from present] at clear
      cases clear
    · have free := congrArg LaneReadiness.unitFree readiness
      rw [show hasExactRef (mine ++ []) (unitActiveRef lane.unit.id).text = true from present] at free
      cases free
  · obtain ⟨criterion, waits, rfl⟩ := List.mem_map.mp inGates
    let others : Rows := [⟨⟨"gates"⟩, (unit.predecessorForwardCriteria.filter (· ≠ criterion)).map gateRef⟩]
    have beside := (never others).readiness ⟨true, sampleHost.resources⟩ lane placed
    rw [lane_readiness_unit workstream units _ _ plan unitIn, lane_readiness_unit workstream units _ _ plan unitIn] at beside
    have gates := congrArg LaneReadiness.predecessorGatesMet beside
    have met : gatesMet (mine ++ others) lane.unit = true := by
      rw [gatesMet, List.all_eq_true]
      intro gate inUnit
      rw [has_exact_ref, carried_append, List.mem_append]
      by_cases same : gate = criterion
      · exact Or.inl (same ▸ member)
      · right
        simp only [others, carried_singleton]
        exact List.mem_map_of_mem (List.mem_filter.mpr ⟨inUnit, by simpa using same⟩)
    have unmet : gatesMet others lane.unit = false := by
      rw [Bool.eq_false_iff, Ne, gatesMet, List.all_eq_true]
      intro all
      have found := (has_exact_ref _).mp (all criterion waits)
      simp only [others, carried_singleton] at found
      obtain ⟨gate, inFilter, same⟩ := List.mem_map.mp found
      have sameGate : gate = criterion := (append_left_inj).mp (congrArg Ref.text same)
      simp [sameGate] at inFilter
    have differ : gatesMet (mine ++ others) lane.unit = gatesMet others lane.unit := gates
    rw [met, unmet] at differ
    cases differ

theorem never_unheard (approved : validateApprovedUnits units = .ok ())
    (never : NeverDisturbs workstream units mine) : Unheard units mine := by
  have nonempty := (validate_approved_units_ok units approved).nonempty
  obtain ⟨noWork, _⟩ := beside_closed workstream units nonempty never
  rw [Bool.eq_false_iff, Ne, has_open_work_iff] at noWork
  have within : ∀ reference ∈ carried mine, reference ∈ carried (mine ++ [closedRow units]) := by
    intro reference member
    rw [carried_append]
    exact List.mem_append_left _ member
  refine ⟨?_, never_silent workstream units nonempty never⟩
  intro reference member heard
  cases heard with
  | lane index unit placed ofLane => exact never_lane workstream units approved never placed ofLane member
  | terminal binding same => exact never_terminal workstream units nonempty never (same ▸ member)
  | blocking start among begins => exact noWork (Or.inl ⟨start, among, reference, within _ member, begins⟩)
  | binding begins running =>
    cases decoded : decodeVersionedBindingRef reference.text with
    | error error =>
      refine noWork (Or.inr (Or.inl ⟨reference, within _ member, begins, fun binding isOk => ?_⟩))
      rw [decoded] at isOk
      cases isOk
    | ok binding =>
      refine noWork (Or.inr (Or.inr ⟨binding, ⟨reference, within _ member, decoded⟩, running binding decoded, ?_⟩))
      rw [terminalConsumed, Bool.eq_false_iff, Ne, has_exact_ref, carried_append, List.mem_append]
      rintro (inMine | inClosed)
      · exact never_terminal workstream units nonempty never inMine
      · exact quiet_no_terminal _ (closed_rows_quiet units) inClosed

omit [BindingJson] [ReadyRootJson] in
theorem beside_rows {other : Id} (different : other ≠ workstream) {mine others : Rows} :
    let log : SharedLog := mine.map (fun row => (other, row)) ++ others.map fun row => (workstream, row)
    log.rowsOf other = mine ∧ log.rows = mine ++ others ∧ log.without other = others := by
  have notOther : (workstream == other) = false := by simpa using different.symm
  refine ⟨?_, ?_, ?_⟩
  · simp [SharedLog.rowsOf, List.filter_map, Function.comp_def, notOther]
  · simp [SharedLog.rows, Function.comp_def]
  · simp [SharedLog.without, List.filter_map, Function.comp_def, notOther]

end Interference

section Sample

attribute [local instance] sampleBindingJson

@[reducible] def sampleRootJson : ReadyRootJson where
  fromJson := fun _ => .error "expected value"
  canonicalJson := fun _ => ""

attribute [local instance] sampleRootJson

end Sample

end PiAutopilot.Delivery
