import PiAutopilot.Delivery.HealthyRun

set_option autoImplicit false

/-! # Lanes in flight

The scan for live deliveries knows implementers and recovery engineers.  A lane whose delivery was
accepted has a validator instead, and is selected again unless no validator is in flight. -/

namespace PiAutopilot.Delivery

open EventLog Lib

def acceptedKindRef : Ref := ⟨"delivery-transition-kind:agent:delivery-accepted"⟩
def recoveryKindRef : Ref := ⟨"validation-transition-kind:validation:recovery-required"⟩
def forwardKindRef : Ref := ⟨"validation-transition-kind:integration:forward-integrated"⟩

def bindingStarts : List String := ["runner-binding:", "terminal-consumed:"]

theorem package_leaves_bindings : ∀ own ∈ packageStarts, leaves bindingStarts own = true := by decide +kernel

def Action.issued : Action → List IssuedRunnerBinding
  | .dispatch _ _ _ binding => [binding]
  | .submitDelivery _ _ _ outcome => outcome.issued
  | .submitValidation _ _ _ _ outcome => outcome.issued
  | .complete _ => []
  | .append _ => []

section InFlight

variable [BindingJson] (workstream : Id) (units : List ApprovedUnit)

def DeliveryAccepted (rows : Rows) (lane : Id) (validator : IssuedRunnerBinding) : Prop :=
  ∃ row ∈ rows, acceptedKindRef ∈ row.refs ∧ bindingRef validator ∈ row.refs ∧ validator.roleId = "validator" ∧
    validator.laneId = some lane

def ValidationEnded (rows : Rows) (validator : IssuedRunnerBinding) : Prop :=
  ∃ row ∈ rows, terminalConsumedRef validator ∈ row.refs ∧ (recoveryKindRef ∈ row.refs ∨ forwardKindRef ∈ row.refs)

def InFlight (rows : Rows) (lane : Id) : Prop :=
  (∃ binding, bindingRef binding ∈ carried rows ∧ binding.laneId = some lane ∧ terminalConsumed rows binding = false) ∨
    ∃ validator, DeliveryAccepted rows lane validator ∧ ¬ ValidationEnded rows validator

def RunState.Knows (state : RunState) (binding : IssuedRunnerBinding) : Prop :=
  bindingRef binding ∈ carried state.rows ∨ ∃ receipt ∈ state.receipts, bindingRef binding ∈ receipt.refs

def ValidatorsIdle (rows : Rows) : Prop :=
  ∀ binding lane, bindingRef binding ∈ carried rows → binding.roleId = "validator" → binding.laneId = some lane →
    laneClosed rows lane = false → terminalConsumed rows binding = true

/-- A step that leaves bindings and terminals to the package and issues bindings with terminals of their own. -/
structure Orderly (state : RunState) (action : Action) : Prop where
  clean : ∀ text ∈ action.texts, outside bindingStarts text = true
  fresh : ∀ binding ∈ action.issued, ∀ other, state.Knows other → terminalConsumedRef binding ≠ terminalConsumedRef other

def isRunRole (roleId : String) : Bool := isDeliveryRole roleId || roleId == "validator"

def Ended (refs : List Ref) (lane : Id) : Prop := recoveryKindRef ∈ refs ∨ forwardKindRef ∈ refs ∨ blockerRef lane ∈ refs

def Ends (binding : IssuedRunnerBinding) (refs : List Ref) : Prop :=
  terminalConsumedRef binding ∈ refs ∧
    (binding.roleId = "validator" → ∀ lane, binding.laneId = some lane → Ended refs lane)

structure Tracked (state : RunState) : Prop where
  roles : ∀ binding, state.Knows binding → isRunRole binding.roleId = true
  distinct : ∀ one other, state.Knows one → state.Knows other → terminalConsumedRef one = terminalConsumedRef other → one = other
  sealed : ∀ receipt ∈ state.receipts, bindingRef receipt.binding ∈ carried state.rows ∧ Ends receipt.binding receipt.refs ∧
    ∀ binding, terminalConsumedRef binding ∈ receipt.refs → terminalConsumedRef binding = terminalConsumedRef receipt.binding
  ended : ∀ binding, terminalConsumedRef binding ∈ carried state.rows → ∃ other, bindingRef other ∈ carried state.rows ∧
    terminalConsumedRef binding = terminalConsumedRef other ∧ ∃ row ∈ state.rows, Ends other row.refs

theorem binding_not_outside {binding : IssuedRunnerBinding} : outside bindingStarts (bindingRef binding).text = false :=
  not_outside bindingStarts List.mem_cons_self (starts_with_append)

omit [BindingJson] in
theorem terminal_text (binding : IssuedRunnerBinding) :
    (terminalConsumedRef binding).text = "terminal-consumed:" ++ binding.actionId ++ ":" ++ binding.assignmentId ++ ":" ++
      toString binding.runRevision := rfl

omit [BindingJson] in
theorem terminal_starts (binding : IssuedRunnerBinding) : startsWith (terminalConsumedRef binding).text "terminal-consumed:" = true := by
  rw [terminal_text, String.append_assoc, String.append_assoc, String.append_assoc, String.append_assoc]
  exact starts_with_append

variable {binding : IssuedRunnerBinding} {state : RunState} {issued : List IssuedRunnerBinding}

omit [BindingJson] in
theorem terminal_not_outside : outside bindingStarts (terminalConsumedRef binding).text = false :=
  not_outside bindingStarts (by decide) (terminal_starts binding)

theorem terminal_ne_binding {one : IssuedRunnerBinding} (other : IssuedRunnerBinding) : terminalConsumedRef one ≠ bindingRef other := by
  intro same
  have begins := terminal_starts one
  rw [same] at begins
  rcases starts_with_split begins with first | second
  · exact absurd first (by decide)
  · exact absurd second (by decide)

structure Fresh (state : RunState) (issued : List IssuedRunnerBinding) : Prop where
  single : ∀ one ∈ issued, ∀ other ∈ issued, one = other
  roles : ∀ binding ∈ issued, isRunRole binding.roleId = true
  terminals : ∀ binding ∈ issued, ∀ other, state.Knows other → terminalConsumedRef binding ≠ terminalConsumedRef other

variable {after : RunState} {host : HostFacts} {texts : ReceiptTexts} {lane : Id} {reference : Ref}
  {outcome : ValidationOutcome} {report : ValidationReport} {rows : Rows}

theorem known_distinct (tracked : Tracked state) (fresh : Fresh state issued)
    (known : ∀ binding, after.Knows binding → state.Knows binding ∨ binding ∈ issued) :
    (∀ binding, after.Knows binding → isRunRole binding.roleId = true) ∧
      ∀ one other, after.Knows one → after.Knows other → terminalConsumedRef one = terminalConsumedRef other → one = other := by
  refine ⟨fun binding knows => (known binding knows).elim (tracked.roles binding) (fresh.roles binding), ?_⟩
  intro one other knowsOne knowsOther same
  rcases known one knowsOne with oneOld | oneNew
  · rcases known other knowsOther with otherOld | otherNew
    · exact tracked.distinct one other oneOld otherOld same
    · exact absurd same.symm (fresh.terminals other otherNew one oneOld)
  · rcases known other knowsOther with otherOld | otherNew
    · exact absurd same (fresh.terminals one oneNew other otherOld)
    · exact fresh.single one oneNew other otherNew

theorem row_tracked {row : Row} {receipts : List Receipt}
    (tracked : Tracked state) (kept : receipts ⊆ state.receipts) (fresh : Fresh state issued)
    (bindings : ∀ binding, bindingRef binding ∈ row.refs → state.Knows binding ∨ binding ∈ issued)
    (ends : ∀ binding, terminalConsumedRef binding ∈ row.refs → ∃ other, bindingRef other ∈ carried state.rows ∧
      terminalConsumedRef binding = terminalConsumedRef other ∧ Ends other row.refs) :
    Tracked ⟨state.rows ++ [row], receipts⟩ := by
  have known : ∀ binding, RunState.Knows ⟨state.rows ++ [row], receipts⟩ binding → state.Knows binding ∨ binding ∈ issued := by
    rintro binding (inRows | ⟨receipt, member, inReceipt⟩)
    · simp only [carried_append, carried_singleton, List.mem_append] at inRows
      exact inRows.elim (fun earlier => Or.inl (Or.inl earlier)) (bindings binding)
    · exact Or.inl (Or.inr ⟨receipt, kept member, inReceipt⟩)
  obtain ⟨rolesAfter, distinctAfter⟩ := known_distinct tracked fresh known
  refine ⟨rolesAfter, distinctAfter, ?_, ?_⟩
  · intro receipt member
    obtain ⟨issuedBefore, rest⟩ := tracked.sealed receipt (kept member)
    refine ⟨?_, rest⟩
    simp only [carried_append, List.mem_append]
    exact Or.inl issuedBefore
  · intro binding member
    simp only [carried_append, carried_singleton, List.mem_append] at member ⊢
    rcases member with inRows | inRow
    · obtain ⟨other, otherIn, same, endRow, endIn, ending⟩ := tracked.ended binding inRows
      exact ⟨other, Or.inl otherIn, same, endRow, Or.inl endIn, ending⟩
    · obtain ⟨other, otherIn, same, ending⟩ := ends binding inRow
      exact ⟨other, Or.inl otherIn, same, row, Or.inr List.mem_cons_self, ending⟩

theorem receipt_tracked {receipt : Receipt} (tracked : Tracked state) (fresh : Fresh state issued)
    (running : state.running receipt.binding = true)
    (bindings : ∀ binding, bindingRef binding ∈ receipt.refs → binding ∈ receipt.binding :: issued)
    (ends : Ends receipt.binding receipt.refs)
    (terminals : ∀ binding, terminalConsumedRef binding ∈ receipt.refs →
      terminalConsumedRef binding = terminalConsumedRef receipt.binding) :
    Tracked { state with receipts := state.receipts ++ [receipt] } := by
  simp only [RunState.running, Bool.and_eq_true, decide_eq_true_eq] at running
  have known : ∀ binding, RunState.Knows { state with receipts := state.receipts ++ [receipt] } binding →
      state.Knows binding ∨ binding ∈ issued := by
    rintro binding (inRows | ⟨other, member, inReceipt⟩)
    · exact Or.inl (Or.inl inRows)
    · rcases List.mem_append.mp member with earlier | last
      · exact Or.inl (Or.inr ⟨other, earlier, inReceipt⟩)
      · rw [List.mem_singleton.mp last] at inReceipt
        rcases List.mem_cons.mp (bindings binding inReceipt) with rfl | inIssued
        · exact Or.inl (Or.inl running.1.1)
        · exact Or.inr inIssued
  obtain ⟨rolesAfter, distinctAfter⟩ := known_distinct tracked fresh known
  refine ⟨rolesAfter, distinctAfter, ?_, tracked.ended⟩
  intro other member
  rcases List.mem_append.mp member with earlier | last
  · exact tracked.sealed other earlier
  · rw [List.mem_singleton.mp last]
    exact ⟨running.1.1, ends, terminals⟩

theorem dispatch_tracked (tracked : Tracked state) {mode boundary : String} (orderly : Orderly state (.dispatch host mode boundary binding))
    (dispatched : dispatches workstream units state.rows host binding = true) :
    Tracked { state with rows := state.rows ++ [spawnRow binding mode boundary] } := by
  obtain ⟨_, _, _, role, _⟩ := dispatches_lane workstream units dispatched
  have fresh : Fresh state [binding] := by
    refine ⟨?_, ?_, orderly.fresh⟩
    · intro one oneIn other otherIn
      rw [List.mem_singleton.mp oneIn, List.mem_singleton.mp otherIn]
    · intro one oneIn
      rw [List.mem_singleton.mp oneIn, role]
      decide
  have cases := spawn_row_cases bindingStarts package_leaves_bindings host binding mode role orderly.clean
  refine row_tracked tracked (List.Subset.refl _) fresh ?_ ?_
  · intro other member
    rcases cases _ member with apart | same
    · rw [binding_not_outside] at apart
      cases apart
    · exact Or.inr (List.mem_singleton.mpr (binding_ref_inj same))
  · intro other member
    rcases cases _ member with apart | same
    · rw [terminal_not_outside] at apart
      cases apart
    · exact absurd same (terminal_ne_binding binding)

theorem terminal_in_consumption {result : List Ref} {kindRef : String} {transition : List Ref} :
    terminalConsumedRef binding ∈ receiptConsumptionRefs binding texts result kindRef transition issued ∧
      (⟨kindRef⟩ : Ref) ∈ receiptConsumptionRefs binding texts result kindRef transition issued ∧
      transition ⊆ receiptConsumptionRefs binding texts result kindRef transition issued := by
  refine ⟨by simp [receiptConsumptionRefs], by simp [receiptConsumptionRefs], ?_⟩
  intro reference member
  simp [receiptConsumptionRefs, member]

theorem delivery_tracked (tracked : Tracked state) {report : DeliveryReport} {outcome : DeliveryOutcome}
    (orderly : Orderly state (.submitDelivery binding texts report outcome))
    (running : state.running binding = true) (role : isDeliveryRole binding.roleId = true)
    (issues : outcome.issues workstream binding = true) :
    Tracked { state with
      receipts := state.receipts ++ [⟨binding, deliveryConsumptionRefs binding lane texts report outcome⟩] } := by
  have issuedRole : ∀ next ∈ outcome.issued, isRunRole next.roleId = true := by
    intro next member
    cases outcome with
    | accepted commit tree validator =>
      simp only [DeliveryOutcome.issues, continues, Bool.and_eq_true, beq_iff_eq] at issues
      rw [List.mem_singleton.mp member, issues.1.1]
      decide
    | recovery admission snapshot reconciles engineer =>
      simp only [DeliveryOutcome.issues, continues, Bool.and_eq_true, beq_iff_eq] at issues
      rw [List.mem_singleton.mp member, issues.2.1.1]
      decide
    | inadmissible reason failure => cases member
  have single : ∀ one ∈ outcome.issued, ∀ other ∈ outcome.issued, one = other := by
    cases outcome <;> simp [DeliveryOutcome.issued]
  have cases := delivery_row_cases bindingStarts package_leaves_bindings lane texts report outcome orderly.clean
  refine receipt_tracked tracked ⟨single, issuedRole, orderly.fresh⟩ running ?_ ?_ ?_
  · intro other member
    rcases cases _ member with apart | same | ⟨next, inIssued, same⟩
    · rw [binding_not_outside] at apart
      cases apart
    · exact absurd same.symm (terminal_ne_binding other)
    · rw [binding_ref_inj same]
      exact inIssued
  · refine ⟨(terminal_in_consumption).1, fun validator => ?_⟩
    have notDelivery : binding.roleId = "validator" := validator
    rw [notDelivery] at role
    exact absurd role (by decide)
  · intro other member
    rcases cases _ member with apart | same | ⟨next, inIssued, same⟩
    · rw [terminal_not_outside] at apart
      cases apart
    · exact same
    · exact absurd same (terminal_ne_binding next)

variable {gates : List Ref} {binding : IssuedRunnerBinding} {state : RunState}

omit [BindingJson] in
theorem closing_outside (satisfied : satisfiedForwardGateRefs units lane = .ok gates) (closing : reference = unitClosedRef lane ∨ reference ∈ gates) :
    outside bindingStarts reference.text = true := by
  obtain ⟨_, _, _, _, gatesEq, _⟩ := satisfied_gates units satisfied
  rcases closing with rfl | inGates
  · exact outside_append _ (by decide)
  · rw [gatesEq reference inGates]
    exact outside_append _ (by decide)

theorem validation_ends (laneId : binding.laneId = some lane) :
    Ends binding (validationConsumptionRefs binding lane texts report gates outcome) := by
  obtain ⟨terminal, kind, transition⟩ := terminal_in_consumption
  refine ⟨terminal, fun _ other otherLane => ?_⟩
  obtain rfl : lane = other := Option.some.inj (laneId.symm.trans otherLane)
  cases outcome with
  | forward next => exact Or.inr (Or.inl kind)
  | recovery producer blockers engineer => exact Or.inl kind
  | exhausted producer blockers => exact Or.inr (Or.inr (transition (by simp [ValidationOutcome.refs])))
  | inadmissible producer blockers => exact Or.inr (Or.inr (transition (by simp [ValidationOutcome.refs])))

theorem validation_tracked (tracked : Tracked state)
    (laneId : binding.laneId = some lane) (satisfied : satisfiedForwardGateRefs units lane = .ok gates)
    (orderly : Orderly state (.submitValidation binding texts report host outcome))
    (running : state.running binding = true)
    (issues : outcome.issues workstream units state.rows host binding lane report gates = true) :
    Tracked { state with
      receipts := state.receipts ++ [⟨binding, validationConsumptionRefs binding lane texts report gates outcome⟩] } := by
  have issuedRole : ∀ next ∈ outcome.issued, isRunRole next.roleId = true := by
    intro next member
    cases outcome with
    | forward chosen =>
      cases chosen with
      | none => cases member
      | some chosen =>
        obtain ⟨_, _, _, role, _⟩ := dispatches_lane workstream units issues
        rw [List.mem_singleton.mp member, role]
        decide
    | recovery producer blockers engineer =>
      simp only [ValidationOutcome.issues, continues, Bool.and_eq_true, beq_iff_eq] at issues
      rw [List.mem_singleton.mp member, issues.1.1]
      decide
    | exhausted producer blockers => cases member
    | inadmissible producer blockers => cases member
  have single : ∀ one ∈ outcome.issued, ∀ other ∈ outcome.issued, one = other := by
    cases outcome with
    | forward next => cases next <;> simp [ValidationOutcome.issued]
    | recovery producer blockers engineer => simp [ValidationOutcome.issued]
    | exhausted producer blockers => simp [ValidationOutcome.issued]
    | inadmissible producer blockers => simp [ValidationOutcome.issued]
  have cases := validation_row_cases bindingStarts package_leaves_bindings lane texts report host gates outcome orderly.clean
  refine receipt_tracked tracked ⟨single, issuedRole, orderly.fresh⟩ running ?_ (validation_ends laneId) ?_
  · intro other member
    rcases cases _ member with apart | same | ⟨_, closing⟩ | ⟨next, inIssued, same⟩
    · rw [binding_not_outside] at apart
      cases apart
    · exact absurd same.symm (terminal_ne_binding other)
    · have apart := closing_outside units satisfied closing
      rw [binding_not_outside] at apart
      cases apart
    · rw [binding_ref_inj same]
      exact inIssued
  · intro other member
    rcases cases _ member with apart | same | ⟨_, closing⟩ | ⟨next, inIssued, same⟩
    · rw [terminal_not_outside] at apart
      cases apart
    · exact same
    · have apart := closing_outside units satisfied closing
      rw [terminal_not_outside] at apart
      cases apart
    · exact absurd same (terminal_ne_binding next)

theorem step_tracked {action : Action} (tracked : Tracked state)
    (orderly : Orderly state action) (stepped : step workstream units state action = some after) :
    Tracked after := by
  have noneIssued : Fresh state [] := ⟨by simp, by simp, by simp⟩
  rcases step_cases workstream units stepped with
    ⟨host, mode, boundary, binding, rfl, dispatched, rfl⟩ | ⟨binding, texts, report, outcome, lane, rfl, _, running, role, issues, rfl⟩ |
    ⟨binding, texts, report, host, outcome, lane, gates, rfl, laneId, satisfied, running, _, issues, rfl⟩ |
    ⟨binding, receipt, rfl, found, rfl⟩ | ⟨row, rfl, rfl⟩
  · exact dispatch_tracked workstream units tracked orderly dispatched
  · exact delivery_tracked workstream tracked orderly running role issues
  · exact validation_tracked workstream units tracked laneId satisfied orderly running issues
  · obtain ⟨issued, ends, terminals⟩ := tracked.sealed receipt found
    refine row_tracked tracked List.filter_sublist.subset noneIssued ?_ ?_
    · exact fun other member => Or.inl (Or.inr ⟨receipt, found, member⟩)
    · exact fun other member => ⟨receipt.binding, issued, terminals other member, ends⟩
  · refine row_tracked tracked (List.Subset.refl _) noneIssued ?_ ?_
    · intro binding member
      have apart := orderly.clean _ (List.mem_map_of_mem member)
      rw [binding_not_outside] at apart
      cases apart
    · intro binding member
      have apart := orderly.clean _ (List.mem_map_of_mem member)
      rw [terminal_not_outside] at apart
      cases apart

theorem orderly_run_tracked (reached : Reached workstream units Orderly state) : Tracked state := by
  induction reached with
  | start => exact ⟨by simp [RunState.Knows, RunState.start, carried], by simp [RunState.Knows, RunState.start, carried],
      by simp [RunState.start], by simp [RunState.start, carried]⟩
  | step state after action _ orderly stepped ih => exact step_tracked workstream units ih orderly stepped

-- A selected lane has no live delivery; its validators are idle, and what ended them is not a blocker of the lane.
theorem selected_idle {laneId : Id} {lane : OpenLane} (named : laneId = approvedLaneId lane.index)
    (selected : Selected units rows lane) (idle : ValidatorsIdle rows)
    (roles : ∀ binding, bindingRef binding ∈ carried rows → isRunRole binding.roleId = true)
    (ended : ∀ binding, bindingRef binding ∈ carried rows → binding.laneId = some laneId →
      terminalConsumedRef binding ∈ carried rows → ∃ row ∈ rows, Ends binding row.refs) : ¬ InFlight rows laneId := by
  subst named
  rintro (⟨binding, issued, onLane, live⟩ | ⟨validator, ⟨row, rowIn, _, bound, role, onLane⟩, notEnded⟩)
  · have delivery := idle_lane rows _ selected.idle issued
    have known := roles binding issued
    rw [isRunRole, Bool.or_eq_true, beq_iff_eq] at known
    rcases known with isDelivery | isValidator
    · simp [isLiveDelivery, isDelivery, onLane, live] at delivery
    · rw [idle binding _ issued isValidator onLane selected.opened] at live
      cases live
  · have issued : bindingRef validator ∈ carried rows := List.mem_flatMap.mpr ⟨row, rowIn, bound⟩
    have consumed := (has_exact_ref rows).mp (idle validator _ issued role onLane selected.opened)
    obtain ⟨endRow, endIn, terminal, ending⟩ := ended validator issued onLane consumed
    rcases ending role _ onLane with recovers | forwards | blocks
    · exact notEnded ⟨endRow, endIn, terminal, Or.inl recovers⟩
    · exact notEnded ⟨endRow, endIn, terminal, Or.inr forwards⟩
    · have blocked : hasExactRef rows (blockerRef (approvedLaneId lane.index)).text = true :=
        (has_exact_ref rows).mpr (List.mem_flatMap.mpr ⟨endRow, endIn, blocks⟩)
      rw [selected.unblocked] at blocked
      cases blocked

theorem ended_of_tracked (tracked : Tracked state)
    (issued : bindingRef binding ∈ carried state.rows) (consumed : terminalConsumedRef binding ∈ carried state.rows) :
    ∃ row ∈ state.rows, Ends binding row.refs := by
  obtain ⟨other, otherIn, same, ending⟩ := tracked.ended binding consumed
  rw [tracked.distinct binding other (Or.inl issued) (Or.inl otherIn) same]
  exact ending

def SelectsIdle (rows : Rows) : Prop :=
  ∀ host lanes laneId, selectedLanes workstream units rows host = .ok lanes → laneId ∈ lanes → ¬ InFlight rows laneId

theorem tracked_selects_idle (tracked : Tracked state) (idle : ValidatorsIdle state.rows) : SelectsIdle workstream units state.rows := by
  intro host lanes laneId ran member
  obtain ⟨lane, named, selected⟩ := selected_lane workstream units state.rows host ran member
  exact selected_idle units named selected idle (fun binding issued => tracked.roles binding (Or.inl issued))
    fun binding issued _ consumed => ended_of_tracked tracked issued consumed

omit [BindingJson] in
theorem mem_projected {binding : IssuedRunnerBinding} {gates : List Ref}
    (satisfied : satisfiedForwardGateRefs units lane = .ok gates)
    (clean : ∀ text ∈ binding.assignmentId :: report.texts, outside bindingStarts text = true)
    (inside : outside bindingStarts reference.text = false)
    (member : reference ∈ carried (projectedRows rows binding lane report gates)) :
    reference ∈ carried rows ∨ reference = terminalConsumedRef binding := by
  rw [carried_projected, List.mem_append, List.mem_cons] at member
  rcases member with inRows | terminal | inIntegration
  · exact Or.inl inRows
  · exact Or.inr terminal
  · have apart : outside bindingStarts reference.text = true := by
      rcases integration_refs_cases bindingStarts package_leaves_bindings clean inIntegration with apart | closing
      · exact apart
      · exact closing_outside units satisfied closing
    rw [apart] at inside
    cases inside

theorem projected_selects_idle {state : RunState} (tracked : Tracked state) {binding : IssuedRunnerBinding}
    (laneId : binding.laneId = some lane) {gates : List Ref}
    (satisfied : satisfiedForwardGateRefs units lane = .ok gates)
    (clean : ∀ text ∈ binding.assignmentId :: report.texts, outside bindingStarts text = true)
    (issuedBinding : bindingRef binding ∈ carried state.rows)
    (idle : ValidatorsIdle (projectedRows state.rows binding lane report gates)) :
    SelectsIdle workstream units (projectedRows state.rows binding lane report gates) := by
  intro host lanes target ran member
  obtain ⟨selectedLane, named, selected⟩ := selected_lane workstream units _ host ran member
  have issuedBefore : ∀ other, bindingRef other ∈ carried (projectedRows state.rows binding lane report gates) →
      bindingRef other ∈ carried state.rows := by
    intro other inProjected
    rcases mem_projected units satisfied clean (binding_not_outside) inProjected with
      inRows | same
    · exact inRows
    · exact absurd same.symm (terminal_ne_binding other)
  refine selected_idle units named selected idle (fun other issued => tracked.roles other (Or.inl (issuedBefore other issued))) ?_
  intro other issued onTarget consumed
  have otherIssued := issuedBefore other issued
  rcases mem_projected units satisfied clean (terminal_not_outside) consumed with
    inRows | same
  · obtain ⟨row, rowIn, ends⟩ := ended_of_tracked tracked otherIssued inRows
    exact ⟨row, List.mem_append_left _ rowIn, ends⟩
  -- The verdict's own lane is closed in the projected log, so it is not the one selected.
  · rw [tracked.distinct other binding (Or.inl otherIssued) (Or.inl issuedBinding) same, laneId, named] at onTarget
    have closed : laneClosed (projectedRows state.rows binding lane report gates) lane = true := by
      rw [laneClosed, has_exact_ref, carried_projected]
      exact List.mem_append_right _ (List.mem_cons_of_mem _ (integration_has_closing).1)
    have opened := selected.opened
    rw [← Option.some.inj onTarget, closed] at opened
    cases opened

end InFlight

section Sample

attribute [local instance] sampleBindingJson

end Sample

end PiAutopilot.Delivery
