import PiAutopilot.Delivery.Run

set_option autoImplicit false

/-! # What the references of a run mean

A closed lane has closed dependencies, an open gate belongs to a closed lane, and a binding was
issued for a lane whose dependencies were closed.  Each step keeps this as long as the texts it takes
from outside stay out of the namespaces the log reads. -/

namespace PiAutopilot.Delivery

open EventLog Lib

def outside (starts : List String) (text : String) : Bool := starts.all fun start => !startsWith text start

def leaves (starts : List String) (text : String) : Bool := starts.all fun start => !startsWith text start && !startsWith start text

theorem starts_with_split {text rest start : String} (starts : startsWith (text ++ rest) start = true) :
    startsWith text start = true ∨ startsWith start text = true := by
  rw [startsWith, String.toList_append, List.isPrefixOf_iff_prefix] at starts
  rw [startsWith, startsWith, List.isPrefixOf_iff_prefix, List.isPrefixOf_iff_prefix]
  exact List.prefix_or_prefix_of_prefix starts (List.prefix_append _ _)

section Starts

variable (starts : List String) {text : String}

theorem leaves_outside (leaving : leaves starts text = true) : outside starts text = true := by
  rw [outside, List.all_eq_true]
  intro start member
  have apart := List.all_eq_true.mp leaving start member
  rw [Bool.and_eq_true] at apart
  exact apart.1

theorem leaves_append {rest : String} (leaving : leaves starts text = true) : leaves starts (text ++ rest) = true := by
  rw [leaves, List.all_eq_true]
  intro start member
  have apart := List.all_eq_true.mp leaving start member
  rw [Bool.and_eq_true, Bool.not_eq_true'] at apart
  rw [Bool.and_eq_true, Bool.not_eq_true', Bool.not_eq_true', Bool.eq_false_iff, Bool.eq_false_iff]
  refine ⟨?_, ?_⟩
  · intro begins
    rcases starts_with_split begins with first | second
    · rw [first] at apart
      cases apart.1
    · rw [second] at apart
      cases apart.2
  · intro begins
    rw [startsWith, String.toList_append, List.isPrefixOf_iff_prefix] at begins
    have shorter : startsWith start text = true := by
      rw [startsWith, List.isPrefixOf_iff_prefix]
      exact (List.prefix_append _ _).trans begins
    rw [shorter] at apart
    cases apart.2

theorem outside_append {rest : String} (leaving : leaves starts text = true) : outside starts (text ++ rest) = true :=
  leaves_outside starts (leaves_append starts leaving)

theorem not_outside {start : String} (among : start ∈ starts) (begins : startsWith text start = true) : outside starts text = false := by
  rw [Bool.eq_false_iff]
  intro apart
  have differs := List.all_eq_true.mp apart start among
  rw [begins] at differs
  cases differs

end Starts

def packageStarts : List String :=
  ["validation:required", "validator-assignment:", "agent:delivery-blocked", "recovery-admission:",
    "recovery-assessment:", "delivery-policy-denial-reconciliation", "recovery-pending:", "delivery:recovery-required",
    "blocker:", "policy-denials:", "module-wired:integration", "module-wired:staleness", "module-wired:closure",
    "module-wired:repair", "stale:", "repair-route:", "delivery:next-required", "submission-digest:", "audit-digest:",
    "blockers=", "recovery-validation-pending:", "recovery-trigger:", "semantic-recovery-exhausted",
    "semantic-recovery-inadmissible", "submit-receipt-consumed:", "submit-receipt-event:", "delivery-transition-kind:",
    "validation-transition-kind:", "delivery-result-consumed:", "action-assignment:", "lane:", "implementer"]

def reservedStarts : List String := ["unit-closed:", "gate:", "unit-active:", "runner-binding:"]

def isPlain (text : String) : Bool := outside reservedStarts text

theorem package_plain : ∀ own ∈ packageStarts, leaves reservedStarts own = true := by decide +kernel

theorem reserved_not_plain {start rest : String} (reserved : start ∈ reservedStarts) : isPlain (start ++ rest) = false :=
  not_outside reservedStarts reserved (starts_with_append)

theorem unit_closed_not_plain (laneId : Id) : isPlain (unitClosedRef laneId).text = false := reserved_not_plain (by decide)

theorem gate_not_plain {criterion : Id} : isPlain (gateRef criterion).text = false := reserved_not_plain (by decide)

theorem unit_active_not_plain {unitId : Id} : isPlain (unitActiveRef unitId).text = false := reserved_not_plain (by decide)

theorem starts_binding_not_plain {text : String} (begins : startsWith text issuedBindingRefPrefix = true) : isPlain text = false :=
  not_outside reservedStarts (by decide) begins

def UnitClosed (units : List ApprovedUnit) (present : List Ref) (id : Id) : Prop :=
  ∀ index unit, units[index]? = some unit → unit.id = id → unitClosedRef (approvedLaneId index) ∈ present

def completion (id : Id) : Id := "unit-complete:" ++ id

structure Sound [BindingJson] (units : List ApprovedUnit) (present refs : List Ref) : Prop where
  closed : ∀ index unit, units[index]? = some unit → unitClosedRef (approvedLaneId index) ∈ refs →
    (∀ dependency ∈ unit.dependencies, UnitClosed units present dependency) ∧
      ((∃ other ∈ units, completion unit.id ∈ other.predecessorForwardCriteria) → gateRef (completion unit.id) ∈ present)
  gate : ∀ id, gateRef (completion id) ∈ refs → UnitClosed units present id
  bound : ∀ binding, bindingRef binding ∈ refs → ∀ index unit, binding.laneId = some (approvedLaneId index) →
    units[index]? = some unit → ∀ dependency ∈ unit.dependencies, UnitClosed units present dependency
  decoded : ∀ reference ∈ refs, startsWith reference.text issuedBindingRefPrefix = true →
    ∃ binding, reference = bindingRef binding
  free : ∀ unitId, unitActiveRef unitId ∉ refs

section Sound

variable [BindingJson] (units : List ApprovedUnit) {present refs : List Ref}

omit [BindingJson] in
theorem unit_closed_mono {more : List Ref} {id : Id} (within : present ⊆ more)
    (closed : UnitClosed units present id) : UnitClosed units more id :=
  fun index unit placed named => within (closed index unit placed named)

theorem sound_mono {more : List Ref} (within : present ⊆ more) (sound : Sound units present refs) : Sound units more refs := by
  refine ⟨?_, ?_, ?_, sound.decoded, sound.free⟩
  · intro index unit placed closed
    obtain ⟨below, gate⟩ := sound.closed index unit placed closed
    exact ⟨fun dependency depends => unit_closed_mono units within (below dependency depends), fun waits => within (gate waits)⟩
  · exact fun id opened => unit_closed_mono units within (sound.gate id opened)
  · exact fun binding issued index unit lane placed dependency depends =>
      unit_closed_mono units within (sound.bound binding issued index unit lane placed dependency depends)

theorem sound_each (each : ∀ reference ∈ refs, Sound units present [reference]) : Sound units present refs := by
  refine ⟨?_, ?_, ?_, ?_, ?_⟩
  · exact fun index unit placed closed => (each _ closed).closed index unit placed List.mem_cons_self
  · exact fun id opened => (each _ opened).gate id List.mem_cons_self
  · exact fun binding issued => (each _ issued).bound binding List.mem_cons_self
  · exact fun reference member => (each _ member).decoded reference List.mem_cons_self
  · exact fun unitId member => (each _ member).free unitId List.mem_cons_self

theorem sound_append {left right : List Ref} (leftSound : Sound units present left)
    (rightSound : Sound units present right) : Sound units present (left ++ right) := by
  refine ⟨?_, ?_, ?_, ?_, ?_⟩
  · intro index unit placed closed
    exact (List.mem_append.mp closed).elim (leftSound.closed index unit placed) (rightSound.closed index unit placed)
  · exact fun id opened => (List.mem_append.mp opened).elim (leftSound.gate id) (rightSound.gate id)
  · exact fun binding issued => (List.mem_append.mp issued).elim (leftSound.bound binding) (rightSound.bound binding)
  · intro reference member
    exact (List.mem_append.mp member).elim (leftSound.decoded reference) (rightSound.decoded reference)
  · exact fun unitId member => (List.mem_append.mp member).elim (leftSound.free unitId) (rightSound.free unitId)

def Ready (present : List Ref) (laneId : Option Id) : Prop :=
  ∀ index unit, laneId = some (approvedLaneId index) → units[index]? = some unit →
    ∀ dependency ∈ unit.dependencies, UnitClosed units present dependency

-- Outside the namespaces a reference says nothing; a binding says that its lane was ready.
theorem sound_of_bindings (known : ∀ reference ∈ refs, isPlain reference.text = true ∨
      ∃ binding, reference = bindingRef binding ∧ Ready units present binding.laneId) : Sound units present refs := by
  have reserved : ∀ reference ∈ refs, isPlain reference.text = false →
      ∃ binding, reference = bindingRef binding ∧ Ready units present binding.laneId := by
    intro reference member notPlain
    rcases known reference member with plain | bound
    · rw [plain] at notPlain
      cases notPlain
    · exact bound
  have apart : ∀ (start rest : String) (binding : IssuedRunnerBinding), startsWith start issuedBindingRefPrefix = false →
      startsWith issuedBindingRefPrefix start = false → (⟨start ++ rest⟩ : Ref) ≠ bindingRef binding := by
    intro start rest binding first second same
    exact append_ne_append _ _ second first (congrArg Ref.text same)
  refine ⟨?_, ?_, ?_, ?_, ?_⟩
  · intro index unit _ closed
    obtain ⟨binding, same, _⟩ := reserved _ closed (unit_closed_not_plain _)
    exact absurd same (apart _ _ binding (by decide) (by decide))
  · intro id opened
    obtain ⟨binding, same, _⟩ := reserved _ opened (gate_not_plain)
    exact absurd same (apart _ _ binding (by decide) (by decide))
  · intro binding issued
    obtain ⟨other, same, ready⟩ := reserved _ issued (starts_binding_not_plain (starts_with_append))
    rw [binding_ref_inj same]
    exact ready
  · intro reference member starts
    obtain ⟨binding, same, _⟩ := reserved _ member (starts_binding_not_plain starts)
    exact ⟨binding, same⟩
  · intro unitId member
    obtain ⟨binding, same, _⟩ := reserved _ member (unit_active_not_plain)
    exact apart _ _ binding (by decide) (by decide) same

theorem sound_unit_closed {index : Nat} {unit : ApprovedUnit} (placed : units[index]? = some unit)
    (below : ∀ dependency ∈ unit.dependencies, UnitClosed units present dependency)
    (gate : (∃ other ∈ units, completion unit.id ∈ other.predecessorForwardCriteria) → gateRef (completion unit.id) ∈ present) :
    Sound units present [unitClosedRef (approvedLaneId index)] := by
  refine ⟨?_, ?_, ?_, ?_, ?_⟩
  · intro other otherUnit otherPlaced closed
    have same := (append_left_inj).mp (congrArg Ref.text (List.mem_singleton.mp closed))
    rw [approved_lane_id_inj _ same, placed] at otherPlaced
    cases otherPlaced
    exact ⟨below, gate⟩
  · intro id opened
    exact absurd (congrArg Ref.text (List.mem_singleton.mp opened)) (append_ne_append _ _ (by decide) (by decide))
  · intro binding issued
    exact absurd (congrArg Ref.text (List.mem_singleton.mp issued)) (append_ne_append _ _ (by decide) (by decide))
  · intro reference member starts
    rw [List.mem_singleton.mp member] at starts
    rcases starts_with_split starts with first | second
    · exact absurd first (by decide)
    · exact absurd second (by decide)
  · intro unitId member
    exact append_ne_append _ _ (by decide) (by decide) (congrArg Ref.text (List.mem_singleton.mp member))

theorem sound_gate {id : Id} (closed : UnitClosed units present id) : Sound units present [gateRef (completion id)] := by
  refine ⟨?_, ?_, ?_, ?_, ?_⟩
  · intro index unit _ member
    exact absurd (congrArg Ref.text (List.mem_singleton.mp member)) (append_ne_append _ _ (by decide) (by decide))
  · intro other opened
    have same := (append_left_inj).mp (congrArg Ref.text (List.mem_singleton.mp opened))
    rw [(append_left_inj).mp same]
    exact closed
  · intro binding issued
    exact absurd (congrArg Ref.text (List.mem_singleton.mp issued)) (append_ne_append _ _ (by decide) (by decide))
  · intro reference member starts
    rw [List.mem_singleton.mp member] at starts
    rcases starts_with_split starts with first | second
    · exact absurd first (by decide)
    · exact absurd second (by decide)
  · intro unitId member
    exact append_ne_append _ _ (by decide) (by decide) (congrArg Ref.text (List.mem_singleton.mp member))

end Sound

def ReceiptTexts.free (texts : ReceiptTexts) : List String :=
  [texts.transitionRef, texts.carrierRef, texts.actionRef] ++ texts.artifactRefs

def DeliveryOutcome.texts : DeliveryOutcome → List String
  | .accepted packageCommit packageTree _ => [packageCommit, packageTree]
  | .recovery _ _ _ _ => []
  | .inadmissible reason failure => [reason, failure]

def ValidationOutcome.texts : ValidationOutcome → List String
  | .forward next => next.toList.flatMap fun next => [next.assignmentId, next.actionId]
  | .recovery producer _ engineer => [producer, engineer.assignmentId]
  | .exhausted producer _ => [producer]
  | .inadmissible producer _ => [producer]

def ValidationReport.texts (report : ValidationReport) : List String :=
  [report.oldTip, report.newTip, report.tree, report.exactCommit, report.exactTree, report.transcriptPath] ++
    report.evidenceRefs

def Action.texts : Action → List String
  | .dispatch _ mode boundary binding => [binding.workstream, binding.assignmentId, binding.actionId, mode, boundary]
  | .submitDelivery binding texts report outcome =>
    texts.free ++ [binding.assignmentId, binding.actionId, report.executionAuditRef, report.transcriptPath] ++
      outcome.texts
  | .submitValidation binding texts report _ outcome =>
    texts.free ++ [binding.assignmentId] ++ report.texts ++ outcome.texts
  | .complete _ => []
  | .append row => row.refs.map Ref.text

def Clean (_ : RunState) (action : Action) : Prop := ∀ text ∈ action.texts, isPlain text = true

theorem terminal_consumed_plain {binding : IssuedRunnerBinding} : isPlain (terminalConsumedRef binding).text = true := by
  refine outside_append _ ?_
  iterate 4 refine leaves_append _ ?_
  decide

theorem mem_append_unique (refs values : List Ref) (reference : Ref) :
    reference ∈ appendUniqueRefs refs values ↔ reference ∈ refs ∨ reference ∈ values := by
  rw [appendUniqueRefs]
  induction values generalizing refs with
  | nil => simp
  | cons value values ih =>
    rw [List.foldl_cons, ih]
    split
    · rename_i present
      constructor
      · rintro (first | later)
        · exact Or.inl first
        · exact Or.inr (List.mem_cons_of_mem _ later)
      · rintro (first | member)
        · exact Or.inl first
        · rcases List.mem_cons.mp member with rfl | later
          · exact Or.inl present
          · exact Or.inr later
    · simp only [List.mem_append, List.mem_cons, List.not_mem_nil, or_false, or_assoc]

section Outside

variable (starts : List String) (own : ∀ text ∈ packageStarts, leaves starts text = true)

include own

variable {binding : IssuedRunnerBinding} {reference : Ref} {lane : Id} {gates : List Ref} {report : ValidationReport}

theorem delivery_transition_outside {report : DeliveryReport} {outcome : DeliveryOutcome}
    (apart : ∀ text ∈ [binding.assignmentId, binding.actionId, report.executionAuditRef, report.transcriptPath] ++
      outcome.texts, outside starts text = true) (member : reference ∈ deliveryTransitionRefs binding lane report outcome) :
    outside starts reference.text = true := by
  have outcomeOutside : reference ∈ outcome.refs lane binding → outside starts reference.text = true := by
    intro inOutcome
    cases outcome with
    | accepted commit tree validator =>
      simp only [DeliveryOutcome.refs, List.mem_cons, List.not_mem_nil, or_false] at inOutcome
      rcases inOutcome with rfl | rfl | rfl | rfl
      · exact apart _ (by simp [DeliveryOutcome.texts])
      · exact apart _ (by simp [DeliveryOutcome.texts])
      · exact leaves_outside _ (own _ (by decide))
      · exact outside_append _ (own _ (by decide))
    | recovery admission snapshot reconciles engineer =>
      simp only [DeliveryOutcome.refs, List.mem_append, List.mem_cons, List.not_mem_nil, or_false] at inOutcome
      rcases inOutcome with ((rfl | rfl | rfl) | inReconciled) | rfl | rfl
      · exact leaves_outside _ (own _ (by decide))
      · exact outside_append _ (leaves_append _ (leaves_append _ (own _ (by decide))))
      · exact outside_append _ (leaves_append _ (leaves_append _ (own _ (by decide))))
      · split at inReconciled
        · rw [List.mem_singleton.mp inReconciled]
          exact leaves_outside _ (own _ (by decide))
        · cases inReconciled
      · exact outside_append _ (own _ (by decide))
      · exact leaves_outside _ (own _ (by decide))
    | inadmissible reason failure =>
      simp only [DeliveryOutcome.refs, List.mem_cons, List.not_mem_nil, or_false] at inOutcome
      rcases inOutcome with rfl | rfl | rfl | rfl
      · exact leaves_outside _ (own _ (by decide))
      · exact apart _ (by simp [DeliveryOutcome.texts])
      · exact apart _ (by simp [DeliveryOutcome.texts])
      · exact outside_append _ (own _ (by decide))
  rcases List.mem_append.mp member with inReport | inOutcome
  · simp only [List.mem_cons, List.not_mem_nil, or_false] at inReport
    rcases inReport with rfl | rfl | rfl | rfl | rfl
    · exact apart _ (by simp)
    · exact apart _ (by simp)
    · exact apart _ (by simp)
    · exact outside_append _ (own _ (by decide))
    · exact apart _ (by simp)
  · exact outcomeOutside inOutcome

theorem integration_refs_cases (apart : ∀ text ∈ binding.assignmentId :: report.texts, outside starts text = true)
    (member : reference ∈ integrationRefs binding lane report gates) :
    outside starts reference.text = true ∨ reference = unitClosedRef lane ∨ reference ∈ gates := by
  rcases List.mem_append.mp member with inReport | inGates
  · simp only [List.mem_cons, List.not_mem_nil, or_false] at inReport
    rcases inReport with rfl | rfl | rfl | rfl | rfl | rfl | rfl | rfl | rfl | rfl | rfl
    · exact Or.inl (leaves_outside _ (own _ (by decide)))
    · exact Or.inl (leaves_outside _ (own _ (by decide)))
    · exact Or.inl (leaves_outside _ (own _ (by decide)))
    · exact Or.inl (leaves_outside _ (own _ (by decide)))
    · exact Or.inl (apart _ (by simp))
    · exact Or.inl (apart _ (by simp [ValidationReport.texts]))
    · exact Or.inl (apart _ (by simp [ValidationReport.texts]))
    · exact Or.inl (apart _ (by simp [ValidationReport.texts]))
    · exact Or.inl (outside_append _ (own _ (by decide)))
    · exact Or.inl (outside_append _ (own _ (by decide)))
    · exact Or.inr (Or.inl rfl)
  · exact Or.inr (Or.inr inGates)

theorem validation_refs_cases {outcome : ValidationOutcome}
    (apart : ∀ text ∈ [binding.assignmentId] ++ report.texts ++ outcome.texts, outside starts text = true)
    (member : reference ∈ outcome.refs binding lane report gates) :
    outside starts reference.text = true ∨ (∃ next, outcome = .forward next) ∧ (reference = unitClosedRef lane ∨ reference ∈ gates) := by
  have assignmentApart : outside starts binding.assignmentId = true := apart _ (by simp)
  cases outcome with
  | forward next =>
    rw [ValidationOutcome.refs, mem_append_unique] at member
    rcases member with inEffect | inEvidence
    · rcases List.mem_append.mp inEffect with inIntegration | inNext
      · rcases integration_refs_cases starts own
          (fun text inTexts => apart text (List.mem_append_left _ inTexts)) inIntegration with first | closing
        · exact Or.inl first
        · exact Or.inr ⟨⟨next, rfl⟩, closing⟩
      · left
        cases next with
        | none => cases inNext
        | some next =>
          simp only [nextRefs, List.mem_cons, List.not_mem_nil, or_false] at inNext
          rcases inNext with rfl | rfl | rfl
          · exact leaves_outside _ (own _ (by decide))
          · exact apart _ (by simp [ValidationOutcome.texts])
          · exact apart _ (by simp [ValidationOutcome.texts])
    · left
      simp only [List.mem_append, List.mem_cons, List.not_mem_nil, or_false, List.mem_map] at inEvidence
      rcases inEvidence with ((rfl | rfl | rfl | rfl) | ⟨text, inTexts, rfl⟩) | rfl
      · exact apart _ (by simp [ValidationReport.texts])
      · exact apart _ (by simp [ValidationReport.texts])
      · exact outside_append _ (own _ (by decide))
      · exact outside_append _ (own _ (by decide))
      · exact apart _ (by simp [ValidationReport.texts, inTexts])
      · exact apart _ (by simp [ValidationReport.texts])
  | recovery producer blockers engineer =>
    left
    simp only [ValidationOutcome.refs, List.mem_cons, List.not_mem_nil, or_false] at member
    rcases member with rfl | rfl | rfl | rfl | rfl | rfl
    · exact assignmentApart
    · exact apart _ (by simp [ValidationOutcome.texts])
    · exact outside_append _ (own _ (by decide))
    · exact outside_append _ (own _ (by decide))
    · exact outside_append _ (own _ (by decide))
    · exact apart _ (by simp [ValidationOutcome.texts])
  | exhausted producer blockers =>
    left
    simp only [ValidationOutcome.refs, List.mem_cons, List.not_mem_nil, or_false] at member
    rcases member with rfl | rfl | rfl | rfl | rfl
    · exact assignmentApart
    · exact apart _ (by simp [ValidationOutcome.texts])
    · exact outside_append _ (own _ (by decide))
    · exact leaves_outside _ (own _ (by decide))
    · exact outside_append _ (own _ (by decide))
  | inadmissible producer blockers =>
    left
    simp only [ValidationOutcome.refs, List.mem_cons, List.not_mem_nil, or_false] at member
    rcases member with rfl | rfl | rfl | rfl | rfl
    · exact assignmentApart
    · exact apart _ (by simp [ValidationOutcome.texts])
    · exact outside_append _ (own _ (by decide))
    · exact leaves_outside _ (own _ (by decide))
    · exact outside_append _ (own _ (by decide))

end Outside

section Rows

variable [BindingJson] (starts : List String) (own : ∀ text ∈ packageStarts, leaves starts text = true)

include own

section

omit [BindingJson]

theorem result_consumed_outside {binding : IssuedRunnerBinding} : outside starts (deliveryResultConsumedRef binding).text = true := by
  refine outside_append _ ?_
  iterate 4 refine leaves_append _ ?_
  exact own _ (by decide)

theorem delivery_kind_outside {outcome : DeliveryOutcome} : outside starts ("delivery-transition-kind:" ++ outcome.eventKind) = true :=
  outside_append _ (own _ (by decide))

theorem validation_kind_outside {outcome : ValidationOutcome} :
    outside starts ("validation-transition-kind:" ++ outcome.eventKind) = true :=
  outside_append _ (own _ (by decide))

end

variable {binding : IssuedRunnerBinding}

theorem consumption_refs_cases {texts : ReceiptTexts} {result : List Ref} {kindRef : String}
    {transition : List Ref} {issued : List IssuedRunnerBinding} (apart : ∀ text ∈ texts.free, outside starts text = true)
    (resultApart : ∀ reference ∈ result, outside starts reference.text = true) (kindApart : outside starts kindRef = true)
    {reference : Ref} (member : reference ∈ receiptConsumptionRefs binding texts result kindRef transition issued) :
    outside starts reference.text = true ∨ reference = terminalConsumedRef binding ∨ reference ∈ transition ∨
      ∃ next ∈ binding :: issued, reference = bindingRef next := by
  simp only [receiptConsumptionRefs, List.mem_append, List.mem_cons, List.not_mem_nil, or_false, List.mem_map, List.mem_flatMap] at member
  rcases member with (((((rfl | rfl) | inResult) | (rfl | rfl | rfl | rfl | rfl)) | inTransition) | ⟨text, inTexts, rfl⟩) |
    ⟨next, inIssued, rfl | rfl⟩
  · exact Or.inl (outside_append _ (own _ (by decide)))
  · exact Or.inr (Or.inl rfl)
  · exact Or.inl (resultApart _ inResult)
  · exact Or.inl (apart _ (by simp [ReceiptTexts.free]))
  · exact Or.inl (apart _ (by simp [ReceiptTexts.free]))
  · exact Or.inl (outside_append _ (own _ (by decide)))
  · exact Or.inr (Or.inr (Or.inr ⟨binding, List.mem_cons_self, rfl⟩))
  · exact Or.inl kindApart
  · exact Or.inr (Or.inr (Or.inl inTransition))
  · exact Or.inl (apart _ (by simp [ReceiptTexts.free, inTexts]))
  · exact Or.inl (apart _ (by simp [ReceiptTexts.free]))
  · exact Or.inr (Or.inr (Or.inr ⟨next, List.mem_cons_of_mem _ inIssued, rfl⟩))

theorem spawn_row_cases (host : HostFacts) (binding : IssuedRunnerBinding) (mode : String) {boundary : String}
    (role : binding.roleId = "implementer")
    (apart : ∀ text ∈ (Action.dispatch host mode boundary binding).texts, outside starts text = true) (reference : Ref)
    (member : reference ∈ (spawnRow binding mode boundary).refs) :
    outside starts reference.text = true ∨ reference = bindingRef binding := by
  simp only [spawnRow, List.mem_append, List.mem_cons, List.not_mem_nil, or_false, Option.mem_toList, Option.map_eq_some_iff] at member
  rcases member with (rfl | rfl | rfl | rfl | rfl | rfl | rfl | rfl) | ⟨lane, _, rfl⟩
  · exact Or.inl (apart _ (by simp [Action.texts]))
  · exact Or.inl (apart _ (by simp [Action.texts]))
  · exact Or.inl (apart _ (by simp [Action.texts]))
  · rw [role]
    exact Or.inl (leaves_outside _ (own _ (by decide)))
  · exact Or.inl (apart _ (by simp [Action.texts]))
  · exact Or.inl (apart _ (by simp [Action.texts]))
  · left
    refine outside_append _ ?_
    iterate 4 refine leaves_append _ ?_
    exact own _ (by decide)
  · exact Or.inr rfl
  · exact Or.inl (outside_append _ (own _ (by decide)))

theorem delivery_row_cases (lane : Id) (texts : ReceiptTexts) (report : DeliveryReport) (outcome : DeliveryOutcome)
    (apart : ∀ text ∈ (Action.submitDelivery binding texts report outcome).texts, outside starts text = true)
    (reference : Ref) (member : reference ∈ deliveryConsumptionRefs binding lane texts report outcome) :
    outside starts reference.text = true ∨ reference = terminalConsumedRef binding ∨
      ∃ next ∈ binding :: outcome.issued, reference = bindingRef next := by
  rcases consumption_refs_cases starts own (fun text inTexts => apart text (by simp [Action.texts, inTexts]))
    (fun other inResult => by rw [List.mem_singleton.mp inResult]; exact result_consumed_outside starts own)
    (delivery_kind_outside starts own) member with apartHere | terminal | inTransition | issued
  · exact Or.inl apartHere
  · exact Or.inr (Or.inl terminal)
  · refine Or.inl (delivery_transition_outside starts own ?_ inTransition)
    intro text inTexts
    refine apart text ?_
    rw [Action.texts, List.append_assoc]
    exact List.mem_append_right _ inTexts
  · exact Or.inr (Or.inr issued)

theorem validation_row_cases (lane : Id) (texts : ReceiptTexts) (report : ValidationReport)
    (host : HostFacts) (gates : List Ref) (outcome : ValidationOutcome)
    (apart : ∀ text ∈ (Action.submitValidation binding texts report host outcome).texts, outside starts text = true)
    (reference : Ref) (member : reference ∈ validationConsumptionRefs binding lane texts report gates outcome) :
    outside starts reference.text = true ∨ reference = terminalConsumedRef binding ∨
      (∃ next, outcome = .forward next) ∧ (reference = unitClosedRef lane ∨ reference ∈ gates) ∨
        ∃ next ∈ binding :: outcome.issued, reference = bindingRef next := by
  have transitionApart : ∀ text ∈ [binding.assignmentId] ++ report.texts ++ outcome.texts, outside starts text = true := by
    intro text inTexts
    refine apart text ?_
    rw [Action.texts, List.append_assoc, List.append_assoc]
    exact List.mem_append_right _ inTexts
  rcases consumption_refs_cases starts own (fun text inTexts => apart text (by simp [Action.texts, inTexts]))
    (fun other inResult => by cases inResult) (validation_kind_outside starts own) member with
    apartHere | terminal | inTransition | issued
  · exact Or.inl apartHere
  · exact Or.inr (Or.inl terminal)
  · rcases validation_refs_cases starts own transitionApart inTransition with
      apartHere | closing
    · exact Or.inl apartHere
    · exact Or.inr (Or.inr (Or.inl closing))
  · exact Or.inr (Or.inr (Or.inr issued))

end Rows

end PiAutopilot.Delivery
