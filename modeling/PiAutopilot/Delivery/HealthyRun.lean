import PiAutopilot.Delivery.RunInvariant

set_option autoImplicit false

/-! # Delivery neither stalls nor runs ahead -/

namespace PiAutopilot.Delivery

open EventLog Lib

/-- An approved plan as the package derives it: dependencies come first, and a unit waits for exactly the
completion of its dependencies. -/
structure DerivedPlan (units : List ApprovedUnit) : Prop where
  approved : validateApprovedUnits units = .ok ()
  first : ∀ (index earlier : Nat) (unit other : ApprovedUnit), units[index]? = some unit →
    units[earlier]? = some other → other.id ∈ unit.dependencies → earlier < index
  gated : ∀ unit ∈ units, unit.predecessorForwardCriteria = unit.dependencies.map completion

structure Healthy [BindingJson] (units : List ApprovedUnit) (state : RunState) : Prop where
  rows : Sound units (carried state.rows) (carried state.rows)
  receipts : ∀ receipt ∈ state.receipts, Sound units (carried state.rows ++ receipt.refs) receipt.refs

section Run

variable [BindingJson] (workstream : Id) (units : List ApprovedUnit)
  {state : RunState} {rows : Rows} {binding : IssuedRunnerBinding} {host : HostFacts} {gates : List Ref} {lane : Id}
  {outcome : ValidationOutcome} {texts : ReceiptTexts}

theorem healthy_append {row : Row} {receipts : List Receipt} (healthy : Healthy units state)
    (kept : receipts ⊆ state.receipts) (sound : Sound units (carried state.rows ++ row.refs) row.refs) :
    Healthy units ⟨state.rows ++ [row], receipts⟩ := by
  refine ⟨?_, ?_⟩
  · simp only [carried_append, carried_singleton]
    exact sound_append units (sound_mono units (List.subset_append_left _ _) healthy.rows) sound
  · intro receipt member
    simp only [carried_append, carried_singleton]
    refine sound_mono units ?_ (healthy.receipts receipt (kept member))
    refine List.append_subset.mpr ⟨?_, List.subset_append_right _ _⟩
    exact List.Subset.trans (List.subset_append_left _ _) (List.subset_append_left _ _)

theorem healthy_receipt {receipt : Receipt} (healthy : Healthy units state)
    (sound : Sound units (carried state.rows ++ receipt.refs) receipt.refs) :
    Healthy units { state with receipts := state.receipts ++ [receipt] } := by
  refine ⟨healthy.rows, ?_⟩
  intro other member
  rcases List.mem_append.mp member with earlier | last
  · exact healthy.receipts other earlier
  · rw [List.mem_singleton.mp last]
    exact sound

omit [BindingJson] in
theorem ready_mono (present more : List Ref) (laneId : Option Id) (within : present ⊆ more)
    (ready : Ready units present laneId) : Ready units more laneId :=
  fun index unit lane placed dependency depends =>
    unit_closed_mono units within (ready index unit lane placed dependency depends)

theorem selected_ready (plan : DerivedPlan units) (sound : Sound units (carried rows) (carried rows))
    {lane : OpenLane} (selected : Selected units rows lane) :
    Ready units (carried rows) (some (approvedLaneId lane.index)) := by
  have placed := (plan_lanes_placed units rows).unit lane selected.inWindow.1
  intro index unit same unitPlaced dependency depends
  rw [← approved_lane_id_inj _ (Option.some.inj same), placed] at unitPlaced
  cases unitPlaced
  have gates := List.all_eq_true.mp selected.gates
  rw [plan.gated lane.unit (List.mem_of_getElem? placed)] at gates
  exact sound.gate dependency ((has_exact_ref rows).mp (gates _ (List.mem_map_of_mem depends)))

theorem dispatches_lane (dispatched : dispatches workstream units rows host binding = true) :
    ∃ lane, Selected units rows lane ∧ binding.laneId = some (approvedLaneId lane.index) ∧
      binding.roleId = "implementer" ∧ binding.workstream = workstream := by
  rw [dispatches] at dispatched
  split at dispatched
  · rename_i laneId rest ran
    simp only [Bool.and_eq_true, beq_iff_eq] at dispatched
    obtain ⟨lane, rfl, selected⟩ := selected_lane workstream units rows host ran List.mem_cons_self
    exact ⟨lane, selected, dispatched.1.1, dispatched.1.2, dispatched.2⟩
  · cases dispatched

theorem dispatches_ready (plan : DerivedPlan units) (sound : Sound units (carried rows) (carried rows))
    (dispatched : dispatches workstream units rows host binding = true) : Ready units (carried rows) binding.laneId := by
  obtain ⟨lane, selected, laneId, _, _⟩ := dispatches_lane workstream units dispatched
  rw [laneId]
  exact selected_ready units plan sound selected

theorem issued_ready (healthy : Healthy units state) (binding : IssuedRunnerBinding)
    (running : state.running binding = true) : Ready units (carried state.rows) binding.laneId := by
  simp only [RunState.running, Bool.and_eq_true, decide_eq_true_eq] at running
  exact fun index unit lane placed => healthy.rows.bound binding running.1.1 index unit lane placed

omit [BindingJson] in
theorem satisfied_gates {laneId : Id} (satisfied : satisfiedForwardGateRefs units laneId = .ok gates) :
    ∃ index unit, units[index]? = some unit ∧ laneId = approvedLaneId index ∧
      (∀ reference ∈ gates, reference = gateRef (completion unit.id)) ∧
      ((∃ other ∈ units, completion unit.id ∈ other.predecessorForwardCriteria) → gateRef (completion unit.id) ∈ gates) := by
  rw [satisfiedForwardGateRefs] at satisfied
  split at satisfied
  · cases satisfied
  · rename_i entry found
    have placed := List.mem_zipIdx_iff_getElem?.mp (List.mem_of_find?_eq_some found)
    have named : approvedLaneId entry.2 = laneId := by simpa using List.find?_some found
    cases satisfied
    refine ⟨entry.2, entry.1, placed, named.symm, ?_, ?_⟩
    · intro reference member
      split at member
      · exact List.mem_singleton.mp member
      · cases member
    · rintro ⟨other, otherIn, waits⟩
      rw [if_pos (List.any_eq_true.mpr ⟨other, otherIn, decide_eq_true waits⟩)]
      exact List.mem_singleton.mpr rfl

theorem dispatch_healthy (plan : DerivedPlan units) (healthy : Healthy units state)
    {mode boundary : String} (clean : Clean state (.dispatch host mode boundary binding))
    (dispatched : dispatches workstream units state.rows host binding = true) :
    Healthy units { state with rows := state.rows ++ [spawnRow binding mode boundary] } := by
  have ready := dispatches_ready workstream units plan healthy.rows dispatched
  obtain ⟨_, _, _, role, _⟩ := dispatches_lane workstream units dispatched
  refine healthy_append units healthy (List.Subset.refl _) (sound_of_bindings units ?_)
  intro reference member
  rcases spawn_row_cases reservedStarts package_plain host binding mode role clean reference member with plain | rfl
  · exact Or.inl plain
  · exact Or.inr ⟨binding, rfl, ready_mono units _ _ _ (List.subset_append_left _ _) ready⟩

theorem delivery_receipt_sound (state : RunState) (healthy : Healthy units state) (binding : IssuedRunnerBinding)
    (lane : Id) (texts : ReceiptTexts) (report : DeliveryReport) (outcome : DeliveryOutcome)
    (clean : Clean state (.submitDelivery binding texts report outcome)) (running : state.running binding = true)
    (issues : outcome.issues workstream binding = true) :
    Sound units (carried state.rows ++ deliveryConsumptionRefs binding lane texts report outcome)
      (deliveryConsumptionRefs binding lane texts report outcome) := by
  have ready := ready_mono units _ (carried state.rows ++ deliveryConsumptionRefs binding lane texts report outcome) _
    (List.subset_append_left _ _) (issued_ready units healthy binding running)
  have sameLane : ∀ next ∈ outcome.issued, next.laneId = binding.laneId := by
    intro next member
    cases outcome with
    | accepted commit tree validator =>
      simp only [DeliveryOutcome.issues, continues, Bool.and_eq_true, beq_iff_eq] at issues
      rw [List.mem_singleton.mp member]
      exact issues.1.2
    | recovery admission snapshot reconciles engineer =>
      simp only [DeliveryOutcome.issues, continues, Bool.and_eq_true, beq_iff_eq] at issues
      rw [List.mem_singleton.mp member]
      exact issues.2.1.2
    | inadmissible reason failure => cases member
  refine sound_of_bindings units fun reference member => ?_
  rcases delivery_row_cases reservedStarts package_plain lane texts report outcome clean reference member with
    plain | rfl | ⟨next, inIssued, rfl⟩
  · exact Or.inl plain
  · exact Or.inl (terminal_consumed_plain)
  · refine Or.inr ⟨next, rfl, ?_⟩
    rcases List.mem_cons.mp inIssued with rfl | inNext
    · exact ready
    · rw [sameLane next inNext]
      exact ready

theorem closing_sound (plan : DerivedPlan units) {present : List Ref}
    (satisfied : satisfiedForwardGateRefs units lane = .ok gates) (ready : Ready units present (some lane))
    (closes : unitClosedRef lane ∈ present) (opens : gates ⊆ present) {reference : Ref}
    (closing : reference = unitClosedRef lane ∨ reference ∈ gates) : Sound units present [reference] := by
  have approved := validate_approved_units_ok units plan.approved
  obtain ⟨index, unit, placed, rfl, gatesEq, opened⟩ := satisfied_gates units satisfied
  rcases closing with rfl | inGates
  · exact sound_unit_closed units placed (ready index unit rfl placed) fun waits => opens (opened waits)
  · rw [gatesEq reference inGates]
    refine sound_gate units ?_
    intro other otherUnit otherPlaced named
    have bound : other < (units.map ApprovedUnit.id).length := by
      rw [List.length_map]
      exact (List.getElem?_eq_some_iff.mp otherPlaced).1
    have same : other = index := by
      refine (List.getElem?_inj bound approved.distinct).mp ?_
      rw [List.getElem?_map, List.getElem?_map, otherPlaced, placed]
      exact congrArg some named
    rw [same]
    exact closes

omit [BindingJson] in
theorem integration_has_closing {report : ValidationReport} :
    unitClosedRef lane ∈ integrationRefs binding lane report gates ∧ gates ⊆ integrationRefs binding lane report gates := by
  refine ⟨?_, List.subset_append_right _ _⟩
  simp [integrationRefs]

omit [BindingJson] in
theorem carried_projected (rows : Rows) (binding : IssuedRunnerBinding) (lane : Id) (report : ValidationReport) (gates : List Ref) :
    carried (projectedRows rows binding lane report gates) =
      carried rows ++ (terminalConsumedRef binding :: integrationRefs binding lane report gates) := by
  simp [projectedRows, carried]

variable {rows : Rows} {binding : IssuedRunnerBinding} {report : ValidationReport} {gates : List Ref} {state : RunState}

theorem projected_sound (plan : DerivedPlan units) (sound : Sound units (carried rows) (carried rows)) (laneId : binding.laneId = some lane) (satisfied : satisfiedForwardGateRefs units lane = .ok gates)
    (ready : Ready units (carried rows) binding.laneId)
    (plain : ∀ text ∈ binding.assignmentId :: report.texts, isPlain text = true) :
    Sound units (carried (projectedRows rows binding lane report gates)) (carried (projectedRows rows binding lane report gates)) := by
  rw [carried_projected]
  have within := List.subset_append_left (carried rows) (terminalConsumedRef binding :: integrationRefs binding lane report gates)
  refine sound_append units (sound_mono units within sound) (sound_each units ?_)
  intro reference member
  rcases List.mem_cons.mp member with rfl | inIntegration
  · refine sound_of_bindings units fun other single => Or.inl ?_
    rw [List.mem_singleton.mp single]
    exact terminal_consumed_plain
  · rcases integration_refs_cases reservedStarts package_plain plain inIntegration with
      isPlain | closing
    · refine sound_of_bindings units fun other single => Or.inl ?_
      rw [List.mem_singleton.mp single]
      exact isPlain
    · obtain ⟨closes, opens⟩ := integration_has_closing
      refine closing_sound units plan satisfied ?_ ?_ ?_ closing
      · rw [← laneId]
        exact ready_mono units _ _ _ within ready
      · exact List.mem_append_right _ (List.mem_cons_of_mem _ closes)
      · exact fun gate inGates => List.mem_append_right _ (List.mem_cons_of_mem _ (opens inGates))

theorem forward_has_integration (binding : IssuedRunnerBinding) (lane : Id) (texts : ReceiptTexts)
    (report : ValidationReport) (gates : List Ref) (next : Option IssuedRunnerBinding) :
    integrationRefs binding lane report gates ⊆ validationConsumptionRefs binding lane texts report gates (.forward next) := by
  intro reference member
  have inOutcome : reference ∈ (ValidationOutcome.forward next).refs binding lane report gates := by
    rw [ValidationOutcome.refs, mem_append_unique]
    exact Or.inl (List.mem_append_left _ member)
  simp only [validationConsumptionRefs, receiptConsumptionRefs, List.mem_append]
  exact Or.inl (Or.inl (Or.inr inOutcome))

theorem validation_issued_ready (plan : DerivedPlan units) (healthy : Healthy units state) (laneId : binding.laneId = some lane)
    (satisfied : satisfiedForwardGateRefs units lane = .ok gates)
    (plain : ∀ text ∈ binding.assignmentId :: report.texts, isPlain text = true)
    (running : state.running binding = true)
    (issues : outcome.issues workstream units state.rows host binding lane report gates = true)
    {next : IssuedRunnerBinding} (member : next ∈ outcome.issued) :
    Ready units (carried state.rows ++ validationConsumptionRefs binding lane texts report gates outcome) next.laneId := by
  have ready := issued_ready units healthy binding running
  have within := List.subset_append_left (carried state.rows) (validationConsumptionRefs binding lane texts report gates outcome)
  cases outcome with
  | forward chosen =>
    cases chosen with
    | none => cases member
    | some chosen =>
      obtain rfl := List.mem_singleton.mp member
      have projected := projected_sound units plan healthy.rows laneId satisfied ready plain
      have projectedReady := dispatches_ready workstream units plan projected issues
      intro index unit nextLane placed dependency depends other otherUnit otherPlaced named
      have closed := projectedReady index unit nextLane placed dependency depends other otherUnit otherPlaced named
      rw [carried_projected, List.mem_append, List.mem_cons] at closed
      rcases closed with inRows | isTerminal | inIntegration
      · exact List.mem_append_left _ inRows
      · have notPlain := unit_closed_not_plain (approvedLaneId other)
        rw [isTerminal, terminal_consumed_plain] at notPlain
        cases notPlain
      · exact List.mem_append_right _ (forward_has_integration binding lane texts report gates _ inIntegration)
  | recovery producer blockers engineer =>
    simp only [ValidationOutcome.issues, continues, Bool.and_eq_true, beq_iff_eq] at issues
    rw [List.mem_singleton.mp member, issues.1.2]
    exact ready_mono units _ _ _ within ready
  | exhausted producer blockers => cases member
  | inadmissible producer blockers => cases member

theorem validation_receipt_sound (plan : DerivedPlan units) (healthy : Healthy units state) (laneId : binding.laneId = some lane)
    (satisfied : satisfiedForwardGateRefs units lane = .ok gates)
    (clean : Clean state (.submitValidation binding texts report host outcome)) (running : state.running binding = true)
    (issues : outcome.issues workstream units state.rows host binding lane report gates = true) :
    Sound units (carried state.rows ++ validationConsumptionRefs binding lane texts report gates outcome)
      (validationConsumptionRefs binding lane texts report gates outcome) := by
  have within := List.subset_append_left (carried state.rows) (validationConsumptionRefs binding lane texts report gates outcome)
  have ready := ready_mono units _ _ _ within (issued_ready units healthy binding running)
  have plain : ∀ text ∈ binding.assignmentId :: report.texts, isPlain text = true := by
    intro text member
    refine clean text ?_
    rw [Action.texts, List.append_assoc texts.free]
    exact List.mem_append_left _ (List.mem_append_right _ member)
  refine sound_each units fun reference member => ?_
  have single : isPlain reference.text = true → Sound units
      (carried state.rows ++ validationConsumptionRefs binding lane texts report gates outcome) [reference] := by
    intro isPlain
    refine sound_of_bindings units fun other only => Or.inl ?_
    rw [List.mem_singleton.mp only]
    exact isPlain
  rcases validation_row_cases reservedStarts package_plain lane texts report host gates outcome clean reference member with
    isPlain | rfl | ⟨⟨next, rfl⟩, closing⟩ | ⟨next, inIssued, rfl⟩
  · exact single isPlain
  · exact single (terminal_consumed_plain)
  · obtain ⟨closes, opens⟩ := integration_has_closing
    have inside := forward_has_integration binding lane texts report gates next
    refine closing_sound units plan satisfied (laneId ▸ ready) ?_ ?_ closing
    · exact List.mem_append_right _ (inside closes)
    · exact fun gate inGates => List.mem_append_right _ (inside (opens inGates))
  · refine sound_of_bindings units fun other only => Or.inr ⟨next, List.mem_singleton.mp only, ?_⟩
    rcases List.mem_cons.mp inIssued with rfl | inNext
    · exact ready
    · exact validation_issued_ready workstream units plan healthy laneId satisfied plain running issues inNext

theorem step_healthy (plan : DerivedPlan units) {after : RunState} {action : Action} (healthy : Healthy units state)
    (clean : Clean state action) (stepped : step workstream units state action = some after) : Healthy units after := by
  rcases step_cases workstream units stepped with
    ⟨host, mode, boundary, binding, rfl, dispatched, rfl⟩ | ⟨binding, texts, report, outcome, lane, rfl, _, running, _, issues, rfl⟩ |
    ⟨binding, texts, report, host, outcome, lane, gates, rfl, laneId, satisfied, running, _, issues, rfl⟩ |
    ⟨binding, receipt, rfl, found, rfl⟩ | ⟨row, rfl, rfl⟩
  · exact dispatch_healthy workstream units plan healthy clean dispatched
  · exact healthy_receipt units healthy
      (delivery_receipt_sound workstream units state healthy binding lane texts report outcome clean running issues)
  · exact healthy_receipt units healthy (validation_receipt_sound workstream units plan healthy laneId satisfied clean running issues)
  · exact healthy_append units healthy List.filter_sublist.subset (healthy.receipts receipt found)
  · refine healthy_append units healthy (List.Subset.refl _) (sound_of_bindings units ?_)
    exact fun reference member => Or.inl (clean _ (List.mem_map_of_mem member))

theorem clean_run_healthy (plan : DerivedPlan units) (reached : Reached workstream units Clean state) : Healthy units state := by
  induction reached with
  | start => exact ⟨sound_of_bindings units (by simp [RunState.start, carried]), by simp [RunState.start]⟩
  | step state after action _ clean stepped ih => exact step_healthy workstream units plan ih clean stepped

def DependsOn (unit required : ApprovedUnit) : Prop := unit ∈ units ∧ required ∈ units ∧ required.id ∈ unit.dependencies

def NeverAhead (rows : Rows) : Prop :=
  ∀ host lanes laneId, selectedLanes workstream units rows host = .ok lanes → laneId ∈ lanes →
    ∃ index unit, laneId = approvedLaneId index ∧ units[index]? = some unit ∧
      ∀ required, Relation.TransGen (DependsOn units) unit required → ∀ other, units[other]? = some required →
        laneClosed rows (approvedLaneId other) = true

def NeverStalls (rows : Rows) : Prop :=
  ∀ host, host.headResolves = true → (∃ index < units.length, laneClosed rows (approvedLaneId index) = false) →
    (∀ binding, bindingRef binding ∈ carried rows → terminalConsumed rows binding = true) →
    (∀ index < units.length, laneClosed rows (approvedLaneId index) = false →
      hasExactRef rows (blockerRef (approvedLaneId index)).text = false) →
    ∃ lane rest, selectedLanes workstream units rows host = .ok (lane :: rest)

variable (plan : DerivedPlan units) (sound : Sound units (carried rows) (carried rows))

include sound

theorem required_closed {unit required : ApprovedUnit}
    (below : ∀ dependency ∈ unit.dependencies, UnitClosed units (carried rows) dependency)
    (path : Relation.TransGen (DependsOn units) unit required) : UnitClosed units (carried rows) required.id := by
  induction path with
  | single edge => exact below _ edge.2.2
  | tail _ edge ih =>
    obtain ⟨index, placed⟩ := List.getElem?_of_mem edge.1
    have closed := ih index _ placed rfl
    exact (sound.closed index _ placed closed).1 _ edge.2.2

include plan in
theorem healthy_never_ahead : NeverAhead workstream units rows := by
  intro host lanes laneId ran member
  obtain ⟨lane, rfl, selected⟩ := selected_lane workstream units rows host ran member
  have placed := (plan_lanes_placed units rows).unit lane selected.inWindow.1
  have ready := selected_ready units plan sound selected lane.index lane.unit rfl placed
  refine ⟨lane.index, lane.unit, rfl, placed, ?_⟩
  intro required path other otherPlaced
  exact (has_exact_ref rows).mpr (required_closed units sound ready path other required otherPlaced rfl)

theorem healthy_readable (laneId : Id) : ∃ live, laneHasLiveDelivery rows laneId = .ok live := by
  refine (lane_readable rows laneId).mpr fun text member => Or.inl ?_
  obtain ⟨inRows, starts⟩ := (mem_binding_refs rows).mp member
  obtain ⟨binding, same⟩ := sound.decoded _ inRows starts
  refine ⟨binding, ?_⟩
  rw [show text = (bindingRef binding).text from congrArg Ref.text same]
  exact decode_binding_ref binding

theorem idle_of_consumed (consumed : ∀ binding, bindingRef binding ∈ carried rows → terminalConsumed rows binding = true) :
    activeImplementers rows = 0 ∧ ∀ laneId, laneHasLiveDelivery rows laneId = .ok false := by
  have decoded : ∀ text ∈ refKeys rows, ∀ binding, decodeVersionedBindingRef text = .ok binding → terminalConsumed rows binding = true := by
    intro text member binding isOk
    have starts := decoded_starts isOk
    obtain ⟨other, same⟩ := sound.decoded _ ((mem_ref_keys rows).mp member) starts
    have sameText : text = (bindingRef other).text := congrArg Ref.text same
    rw [sameText, decode_binding_ref] at isOk
    cases isOk
    exact consumed binding (same ▸ (mem_ref_keys rows).mp member)
  refine ⟨?_, ?_⟩
  · rw [activeImplementers, activeInRole, List.countP_eq_zero]
    intro binding member
    obtain ⟨text, textIn, found⟩ := List.mem_filterMap.mp member
    simp [decoded text textIn binding (activity_binding_decoded found)]
  · intro laneId
    obtain ⟨live, scanned⟩ := healthy_readable units sound laneId
    cases live with
    | false => exact scanned
    | true =>
      obtain ⟨text, textIn, binding, isOk, isLive⟩ := scan_true rows laneId _ scanned
      have isConsumed := decoded text (List.mem_filter.mp textIn).1 binding isOk
      simp [isLiveDelivery, isConsumed] at isLive

-- The first open lane of the plan waits for nothing: whatever it depends on stands before it.
include plan in
theorem healthy_never_stalls : NeverStalls workstream units rows := by
  intro host head isOpen consumed unblocked
  obtain ⟨idle, laneIdle⟩ := idle_of_consumed units sound consumed
  have approved := validate_approved_units_ok units plan.approved
  let opens : Nat → Prop := fun index => index < units.length ∧ laneClosed rows (approvedLaneId index) = false
  have hasOpen : ∃ index, opens index := isOpen.imp fun _ both => both
  obtain ⟨bound, opened⟩ := Nat.find_spec hasOpen
  have earlierClosed : ∀ other < Nat.find hasOpen, laneClosed rows (approvedLaneId other) = true := by
    intro other before
    by_contra notClosed
    exact Nat.find_min hasOpen before ⟨Nat.lt_trans before bound, by simpa using notClosed⟩
  have placed : units[Nat.find hasOpen]? = some units[Nat.find hasOpen] := List.getElem?_eq_getElem bound
  have unitIn : units[Nat.find hasOpen] ∈ units := List.getElem_mem bound
  have gates : gatesMet rows units[Nat.find hasOpen] = true := by
    rw [gatesMet, plan.gated _ unitIn, List.all_eq_true]
    intro criterion waits
    obtain ⟨dependency, depends, rfl⟩ := List.mem_map.mp waits
    obtain ⟨required, requiredIn, rfl⟩ := List.mem_map.mp (approved.known _ unitIn dependency depends)
    obtain ⟨other, otherPlaced⟩ := List.getElem?_of_mem requiredIn
    have before := plan.first _ other _ required placed otherPlaced depends
    have closed := (has_exact_ref rows).mp (earlierClosed other before)
    refine (has_exact_ref rows).mpr ((sound.closed other required otherPlaced closed).2 ⟨_, unitIn, ?_⟩)
    rw [plan.gated _ unitIn]
    exact List.mem_map_of_mem depends
  let lane : OpenLane := ⟨Nat.find hasOpen, units[Nat.find hasOpen], laneIsLive rows (approvedLaneId (Nat.find hasOpen))⟩
  have notLive : ∀ laneId, laneIsLive rows laneId = false := fun laneId => (live_flag (laneIdle laneId)).symm
  have laneIn : lane ∈ planLanes units rows := by
    refine List.mem_map.mpr ⟨(units[Nat.find hasOpen], Nat.find hasOpen), ?_, rfl⟩
    exact List.mem_filter.mpr ⟨List.mem_zipIdx_iff_getElem?.mpr placed, by simp [opened]⟩
  have inWindow : InWindow units rows lane := by
    refine ⟨laneIn, ?_⟩
    have none_before : (planLanes units rows).countP (fun other => decide (laneKey rows other < laneKey rows lane)) = 0 := by
      rw [List.countP_eq_zero]
      intro other otherIn
      obtain ⟨entry, entryIn, rfl⟩ := List.mem_map.mp otherIn
      obtain ⟨entryPlaced, entryOpen⟩ := List.mem_filter.mp entryIn
      have later : Nat.find hasOpen ≤ entry.2 := Nat.find_min' hasOpen
        ⟨(List.getElem?_eq_some_iff.mp (List.mem_zipIdx_iff_getElem?.mp entryPlaced)).1, by simpa using entryOpen⟩
      rw [decide_eq_true_eq, not_lt]
      simp only [laneKey, lane, notLive, gates, Prod.Lex.toLex_le_toLex]
      cases gatesMet rows entry.1 <;> simp [later]
    omega
  obtain ⟨lanes, ran, member⟩ := lane_selected workstream units rows host plan.approved isOpen
    (healthy_readable units sound) (fun one other oneIn otherIn depends =>
      plan.first _ _ _ _ ((plan_lanes_placed units rows).unit one oneIn.1) ((plan_lanes_placed units rows).unit other otherIn.1)
        depends) idle head inWindow gates (unblocked _ bound opened)
    (by
      rw [Bool.eq_false_iff, Ne, has_exact_ref]
      exact sound.free _) opened (laneIdle _)
  cases lanes with
  | nil => cases member
  | cons first rest => exact ⟨first, rest, ran⟩

omit sound

end Run

section Sample

attribute [local instance] sampleBindingJson

def samplePlan : List ApprovedUnit := [sampleUnit "a" 1 "a.rs" [], sampleUnit "b" 2 "b.rs" ["a"]]

def sampleHost : HostFacts where
  headResolves := true
  resources :=
    { freeStorageBytes := 100 * gib
      projectedStorageBytes := gib
      availableMemoryBytes := 16 * gib
      physicalMemoryBytes := 32 * gib }

def sampleBinding (roleId : String) (laneId : Id) : IssuedRunnerBinding where
  actionId := "act-" ++ roleId ++ "-" ++ laneId
  assignmentId := "w-" ++ laneId ++ "-" ++ roleId
  runRevision := 1
  workstream := "w"
  roleId := roleId
  laneId := some laneId

def sampleTexts : ReceiptTexts where
  receiptId := "r-1"
  transitionRef := "transition.json"
  carrierRef := "carrier.json"
  eventRef := "event"
  artifactRefs := []
  actionRef := "action.json"

def sampleReport (executionAuditRef : String) : DeliveryReport where
  executionAuditRef := executionAuditRef
  policyDenials := 0
  transcriptPath := "transcript.json"

def deliveredActions (executionAuditRef : String) : List Action :=
  [.dispatch sampleHost "forward-critical" "delivery" (sampleBinding "implementer" "L1"),
    .submitDelivery (sampleBinding "implementer" "L1") sampleTexts (sampleReport executionAuditRef)
      (.accepted "commit" "tree" (sampleBinding "validator" "L1")),
    .complete (sampleBinding "implementer" "L1")]

theorem sample_plan_derived : DerivedPlan samplePlan := by
  refine ⟨by decide +kernel, ?_, by decide⟩
  intro index earlier unit other placed otherPlaced depends
  match index, earlier with
  | 0, _ =>
    cases placed
    cases depends
  | 1, 0 => exact Nat.zero_lt_one
  | 1, 1 =>
    cases placed
    cases otherPlaced
    exact absurd depends (by decide)
  | 1, _ + 2 => cases otherPlaced
  | _ + 2, _ => cases placed

end Sample

end PiAutopilot.Delivery
