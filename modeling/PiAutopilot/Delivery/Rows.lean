import Mathlib.Data.List.Induction
import PiAutopilot.EventLog.State
import PiAutopilot.Lib.Checks

set_option autoImplicit false

/-! # Rows of the core log as the delivery decisions read them

Every decision reads one thing of the folded state: which references some row carries.  The rows are
kept without their numbers; `refs_fold_numbered` says that the fold of the numbered rows has exactly
these references as keys. -/

namespace PiAutopilot.Delivery

open EventLog Lib

structure Row where
  kind : EventKind
  refs : List Ref
deriving DecidableEq

abbrev Rows := List Row

variable (rows : Rows)

def carried : List Ref := rows.flatMap Row.refs

def refKeys : List String := sortedSet ((carried rows).map Ref.text)

def hasExactRef (text : String) : Bool := decide ((⟨text⟩ : Ref) ∈ carried rows)

theorem mem_ref_keys {text : String} : text ∈ refKeys rows ↔ (⟨text⟩ : Ref) ∈ carried rows := by
  rw [refKeys, mem_sorted_set, List.mem_map]
  constructor
  · rintro ⟨reference, member, rfl⟩
    exact member
  · intro member
    exact ⟨_, member, rfl⟩

theorem has_exact_ref {text : String} : hasExactRef rows text = true ↔ (⟨text⟩ : Ref) ∈ carried rows := by
  rw [hasExactRef, decide_eq_true_iff]

@[simp] theorem carried_append (earlier later : Rows) : carried (earlier ++ later) = carried earlier ++ carried later := List.flatMap_append

@[simp] theorem carried_singleton (row : Row) : carried [row] = row.refs := by
  simp [carried]

variable (count : Nat)

def numberedRow (row : Row) : EventRow where
  sequence := UInt64.ofNat count + 1
  previousRevision := UInt64.ofNat count
  newRevision := UInt64.ofNat count + 1
  kind := row.kind
  artifactRefs := row.refs

def numberedRows : List EventRow := rows.mapIdx numberedRow

structure Folded (count : Nat) (present : List Ref) (state : State) : Prop where
  sequence : state.sequence = UInt64.ofNat count
  revision : state.revision = UInt64.ofNat count
  keys : ∀ reference, (state.refs reference).isSome = true ↔ reference ∈ present

variable (present : List Ref)

theorem note_ref_folded (atSequence : UInt64) {state : State} (reference : Ref)
    (folded : Folded count present state) : Folded count (present ++ [reference]) (noteRef atSequence state reference) := by
  refine ⟨folded.sequence, folded.revision, ?_⟩
  intro other
  show (Function.update state.refs reference (some _) other).isSome = true ↔ _
  by_cases same : other = reference
  · simp [same]
  · rw [Function.update_of_ne same]
    simp [same, folded.keys]

theorem note_refs_folded {atSequence : UInt64} (state : State) (references : List Ref) (folded : Folded count present state) :
    Folded count (present ++ references) (references.foldl (noteRef atSequence) state) := by
  induction references generalizing present state with
  | nil => simpa using folded
  | cons reference rest ih =>
    have noted := note_ref_folded count present atSequence reference folded
    simpa using ih (present ++ [reference]) _ noted

theorem checked_add_one (fits : count < 18446744073709551615) : checkedAddOne (UInt64.ofNat count) = some (UInt64.ofNat count + 1) := by
  rw [checkedAddOne, if_neg]
  intro atMaximum
  have number := congrArg UInt64.toNat atMaximum
  rw [UInt64.toNat_ofNat'] at number
  have maximum : maxCount.toNat = 18446744073709551615 := rfl
  omega

theorem apply_folded {state : State} (row : Row) (fits : count < 18446744073709551615) (folded : Folded count present state) :
    Folded (count + 1) (present ++ row.refs) (EventLog.apply state (numberedRow count row)) := by
  obtain ⟨sequence, revision, keys⟩ := folded
  have counted : ∀ start : State, (noteCount start .rows (numberedRow count row).sequence).sequence = start.sequence ∧
      (noteCount start .rows (numberedRow count row).sequence).revision = start.revision ∧
      (noteCount start .rows (numberedRow count row).sequence).refs = start.refs := fun _ => ⟨rfl, rfl, rfl⟩
  obtain ⟨sameSequence, sameRevision, sameRefs⟩ := counted state
  rw [EventLog.apply]
  set noted := noteCount state .rows (numberedRow count row).sequence with notedEq
  have inOrder : checkSequence noted (numberedRow count row) = (noted, true) := by
    rw [checkSequence, sameSequence, sequence, checked_add_one count fits]
    simp [numberedRow]
  have inRevision : checkRevision noted (numberedRow count row) = (noted, true) := by
    rw [checkRevision, sameRevision, revision]
    simp [numberedRow]
  simp only [inOrder, inRevision, Bool.and_self, if_true]
  refine note_refs_folded (count + 1) present _ row.refs ⟨?_, ?_, ?_⟩
  · show UInt64.ofNat count + 1 = UInt64.ofNat (count + 1)
    rw [UInt64.ofNat_add]
    rfl
  · show UInt64.ofNat count + 1 = UInt64.ofNat (count + 1)
    rw [UInt64.ofNat_add]
    rfl
  · intro reference
    exact keys reference

theorem fold_numbered (fits : rows.length < 18446744073709551615) : Folded rows.length (carried rows) (foldEvents (numberedRows rows)) := by
  induction rows using List.reverseRecOn with
  | nil => exact ⟨rfl, rfl, by simp [carried, numberedRows, foldEvents, State.empty]⟩
  | append_singleton rows row ih =>
    have shorter : rows.length < 18446744073709551615 := by
      rw [List.length_append] at fits
      exact Nat.lt_of_le_of_lt (Nat.le_add_right _ _) fits
    have step := apply_folded rows.length (carried rows) row shorter (ih shorter)
    have numbered : numberedRows (rows ++ [row]) = numberedRows rows ++ [numberedRow rows.length row] := by
      simp [numberedRows, List.mapIdx_append]
    rw [numbered, carried_append, carried_singleton, List.length_append, foldEvents, List.foldl_append]
    exact step

/-- A reference is a key of the folded state exactly when some row carries it. -/
theorem refs_fold_numbered (fits : rows.length < 18446744073709551615) (text : String) :
    ((foldEvents (numberedRows rows)).refs ⟨text⟩).isSome = hasExactRef rows text := by
  rw [Bool.eq_iff_iff, has_exact_ref]
  exact (fold_numbered rows fits).keys ⟨text⟩

theorem lone_row_folded : ((foldEvents (numberedRows [⟨⟨"k"⟩, [⟨"r"⟩]⟩])).refs ⟨"r"⟩).isSome = true :=
  (refs_fold_numbered [⟨⟨"k"⟩, [⟨"r"⟩]⟩] (by decide) "r").trans rfl

def startsWith (text start : String) : Bool := start.toList.isPrefixOf text.toList

def stripPrefix (start text : String) : Option String :=
  if startsWith text start then some (String.ofList (text.toList.drop start.toList.length)) else none

@[simp] theorem starts_with_append {start rest : String} : startsWith (start ++ rest) start = true := by
  rw [startsWith, String.toList_append, List.isPrefixOf_iff_prefix]
  exact List.prefix_append _ _

@[simp] theorem strip_prefix_append (start rest : String) : stripPrefix start (start ++ rest) = some rest := by
  rw [stripPrefix, if_pos (starts_with_append), String.toList_append, List.drop_left, String.ofList_toList]

-- Texts of two namespaces differ as soon as the shorter name is no beginning of the other.
theorem append_ne_append {left right : String} (leftRest rightRest : String)
    (apart : left.toList.isPrefixOf right.toList = false) (apart' : right.toList.isPrefixOf left.toList = false) :
    left ++ leftRest ≠ right ++ rightRest := by
  intro same
  have lists := congrArg String.toList same
  rw [String.toList_append, String.toList_append] at lists
  rcases List.append_eq_append_iff.mp lists with ⟨middle, rightIs, _⟩ | ⟨middle, leftIs, _⟩
  · have isPrefix : left.toList <+: right.toList := ⟨middle, rightIs.symm⟩
    rw [← List.isPrefixOf_iff_prefix, apart] at isPrefix
    cases isPrefix
  · have isPrefix : right.toList <+: left.toList := ⟨middle, leftIs.symm⟩
    rw [← List.isPrefixOf_iff_prefix, apart'] at isPrefix
    cases isPrefix

theorem append_left_inj {start left right : String} : start ++ left = start ++ right ↔ left = right := by
  constructor
  · intro same
    have stripped := congrArg (stripPrefix start) same
    rw [strip_prefix_append, strip_prefix_append] at stripped
    exact Option.some.inj stripped
  · rintro rfl
    rfl

theorem decimal_inj {left right : Nat} (same : toString left = toString right) : left = right := by
  have digits : (Nat.repr left).toList = (Nat.repr right).toList := congrArg String.toList same
  have values := congrArg (fun digits => Nat.ofDigitChars 10 digits 0) digits
  simpa using values

structure IssuedRunnerBinding where
  actionId : String
  assignmentId : String
  runRevision : Nat
  workstream : String
  roleId : String
  laneId : Option String
deriving DecidableEq

def issuedBindingRefPrefix : String := "runner-binding:"

/-- The JSON text of a binding; the strict reader reads back what the writer wrote. -/
class BindingJson where
  toJson : IssuedRunnerBinding → String
  fromJson : String → Except String IssuedRunnerBinding
  from_to : ∀ binding, fromJson (toJson binding) = .ok binding

section Bindings

variable [BindingJson]

def bindingRef (binding : IssuedRunnerBinding) : Ref := ⟨issuedBindingRefPrefix ++ BindingJson.toJson binding⟩

def decodeVersionedBindingRef (text : String) : Except String IssuedRunnerBinding :=
  match stripPrefix issuedBindingRefPrefix text with
  | none => .error "binding ref prefix drift"
  | some encoded => BindingJson.fromJson encoded

@[simp] theorem decode_binding_ref (binding : IssuedRunnerBinding) : decodeVersionedBindingRef (bindingRef binding).text = .ok binding := by
  rw [decodeVersionedBindingRef, bindingRef, strip_prefix_append]
  exact BindingJson.from_to binding

theorem binding_ref_inj {left right : IssuedRunnerBinding} (same : bindingRef left = bindingRef right) : left = right := by
  have decoded := decode_binding_ref left
  rw [same, decode_binding_ref] at decoded
  exact (Except.ok.inj decoded).symm

def terminalConsumedRef (binding : IssuedRunnerBinding) : Ref :=
  ⟨s!"terminal-consumed:{binding.actionId}:{binding.assignmentId}:{binding.runRevision}"⟩

variable (rows : Rows)

def terminalConsumed (binding : IssuedRunnerBinding) : Bool := hasExactRef rows (terminalConsumedRef binding).text

def bindingRefs : List String := (refKeys rows).filter fun text => startsWith text issuedBindingRefPrefix

def isDeliveryRole (roleId : String) : Bool := roleId == "implementer" || roleId == "recovery-engineer"

variable (laneId : String)

def isLiveDelivery (binding : IssuedRunnerBinding) : Bool :=
  isDeliveryRole binding.roleId && binding.laneId == some laneId && !terminalConsumed rows binding

def scanLiveDelivery (rows : Rows) (laneId : String) : List String → Except String Bool
  | [] => .ok false
  | text :: rest =>
    match decodeVersionedBindingRef text with
    | .error error => .error s!"live-delivery namespaced binding decode: {error}"
    | .ok binding => if isLiveDelivery rows laneId binding then .ok true else scanLiveDelivery rows laneId rest

def laneHasLiveDelivery : Except String Bool := scanLiveDelivery rows laneId (bindingRefs rows)

def activityBinding (text : String) : Option IssuedRunnerBinding := (decodeVersionedBindingRef text).toOption

variable {binding : IssuedRunnerBinding} {text : String}

theorem activity_binding_decoded (found : activityBinding text = some binding) : decodeVersionedBindingRef text = .ok binding := by
  rw [activityBinding] at found
  cases attempt : decodeVersionedBindingRef text with
  | error error => simp [attempt, Except.toOption] at found
  | ok other => simpa [attempt, Except.toOption] using found

def activeInRole (roleId : String) : Nat :=
  ((refKeys rows).filterMap activityBinding).countP fun binding =>
    binding.roleId == roleId && !terminalConsumed rows binding

def activeImplementers : Nat := activeInRole rows "implementer"

def LiveRef (laneId text : String) : Prop :=
  ∃ binding, decodeVersionedBindingRef text = .ok binding ∧ isLiveDelivery rows laneId binding = true

def LaneReadable : Prop :=
  ∀ text ∈ bindingRefs rows, (∃ binding, decodeVersionedBindingRef text = .ok binding) ∨
    ∃ earlier ∈ bindingRefs rows, earlier < text ∧ LiveRef rows laneId earlier

variable (rows : Rows)

omit [BindingJson] in
theorem mem_binding_refs :
    text ∈ bindingRefs rows ↔ (⟨text⟩ : Ref) ∈ carried rows ∧ startsWith text issuedBindingRefPrefix = true := by
  rw [bindingRefs, List.mem_filter, mem_ref_keys]

theorem binding_ref_mem : (bindingRef binding).text ∈ bindingRefs rows ↔ bindingRef binding ∈ carried rows := by
  rw [mem_binding_refs]
  exact and_iff_left (starts_with_append)

variable (laneId : String) (texts : List String)

theorem scan_true (found : scanLiveDelivery rows laneId texts = .ok true) : ∃ text ∈ texts, LiveRef rows laneId text := by
  induction texts with
  | nil => cases found
  | cons text rest ih =>
    rw [scanLiveDelivery] at found
    split at found
    · cases found
    · rename_i binding decoded
      split at found
      · rename_i live
        exact ⟨text, List.mem_cons_self, binding, decoded, live⟩
      · obtain ⟨other, member, live⟩ := ih found
        exact ⟨other, List.mem_cons_of_mem _ member, live⟩

theorem scan_false (clear : scanLiveDelivery rows laneId texts = .ok false) (member : text ∈ texts) :
    ∃ binding, decodeVersionedBindingRef text = .ok binding ∧ isLiveDelivery rows laneId binding = false := by
  induction texts with
  | nil => cases member
  | cons head rest ih =>
    rw [scanLiveDelivery] at clear
    split at clear
    · cases clear
    · rename_i binding decoded
      split at clear
      · cases clear
      · rename_i idle
        rcases List.mem_cons.mp member with rfl | later
        · exact ⟨binding, decoded, by simpa using idle⟩
        · exact ih clear later

theorem scan_readable (sorted : texts.Pairwise (· < ·)) : (∃ live, scanLiveDelivery rows laneId texts = .ok live) ↔
      ∀ text ∈ texts, (∃ binding, decodeVersionedBindingRef text = .ok binding) ∨
        ∃ earlier ∈ texts, earlier < text ∧ LiveRef rows laneId earlier := by
  induction texts with
  | nil => simp [scanLiveDelivery]
  | cons head rest ih =>
    obtain ⟨least, restSorted⟩ := List.pairwise_cons.mp sorted
    rw [scanLiveDelivery]
    cases decoded : decodeVersionedBindingRef head with
    | error error =>
      refine iff_of_false (by rintro ⟨_, impossible⟩; cases impossible) fun readable => ?_
      rcases readable head List.mem_cons_self with ⟨binding, isOk⟩ | ⟨earlier, member, before, _⟩
      · rw [decoded] at isOk
        cases isOk
      · rcases List.mem_cons.mp member with rfl | later
        · exact lt_irrefl _ before
        · exact lt_asymm before (least earlier later)
    | ok binding =>
      simp only
      by_cases live : isLiveDelivery rows laneId binding = true
      · rw [if_pos live]
        refine iff_of_true ⟨true, rfl⟩ fun text member => ?_
        rcases List.mem_cons.mp member with rfl | later
        · exact Or.inl ⟨binding, decoded⟩
        · exact Or.inr ⟨head, List.mem_cons_self, least text later, binding, decoded, live⟩
      · rw [if_neg live, ih restSorted]
        have headNotLive : ¬ LiveRef rows laneId head := by
          rintro ⟨other, otherDecoded, otherLive⟩
          rw [decoded] at otherDecoded
          cases otherDecoded
          exact live otherLive
        constructor
        · intro readable text member
          rcases List.mem_cons.mp member with rfl | later
          · exact Or.inl ⟨binding, decoded⟩
          · exact (readable text later).imp_right fun ⟨earlier, inRest, before, isLive⟩ =>
              ⟨earlier, List.mem_cons_of_mem _ inRest, before, isLive⟩
        · intro readable text later
          refine (readable text (List.mem_cons_of_mem _ later)).imp_right ?_
          rintro ⟨earlier, member, before, isLive⟩
          rcases List.mem_cons.mp member with rfl | inRest
          · exact absurd isLive headNotLive
          · exact ⟨earlier, inRest, before, isLive⟩

theorem lane_readable : (∃ live, laneHasLiveDelivery rows laneId = .ok live) ↔ LaneReadable rows laneId :=
  scan_readable rows laneId _ ((sorted_set_sorted).filter _)

theorem idle_lane (idle : laneHasLiveDelivery rows laneId = .ok false) (issued : bindingRef binding ∈ carried rows) :
    isLiveDelivery rows laneId binding = false := by
  obtain ⟨other, decoded, notLive⟩ := scan_false rows laneId _ idle ((binding_ref_mem rows).mpr issued)
  rw [decode_binding_ref] at decoded
  cases decoded
  exact notLive

end Bindings

def fieldText (field : List Char) : List Char := (field.flatMap fun char => ['+', char]) ++ ['.']

def readField : List Char → Option (List Char × List Char)
  | '.' :: rest => some ([], rest)
  | '+' :: char :: rest => (readField rest).map fun (field, rest) => (char :: field, rest)
  | _ => none

theorem read_field_text (field rest : List Char) : readField (fieldText field ++ rest) = some (field, rest) := by
  induction field with
  | nil => rfl
  | cons char field ih =>
    show (readField (fieldText field ++ rest)).map _ = _
    rw [ih]
    rfl

def bindingFields (binding : IssuedRunnerBinding) : List (List Char) :=
  [binding.actionId.toList, binding.assignmentId.toList, List.replicate binding.runRevision '1',
    binding.workstream.toList, binding.roleId.toList] ++ (binding.laneId.map String.toList).toList

def readFields : Nat → List Char → Option (List (List Char))
  | _, [] => some []
  | 0, _ => none
  | fuel + 1, text => do
    let (field, rest) ← readField text
    let fields ← readFields fuel rest
    return field :: fields

theorem read_fields_text (fields : List (List Char)) (fuel : Nat) (enough : fields.length ≤ fuel) :
    readFields fuel (fields.flatMap fieldText) = some fields := by
  induction fields generalizing fuel with
  | nil => cases fuel <;> rfl
  | cons field fields ih =>
    cases fuel with
    | zero => cases enough
    | succ fuel =>
      have text : (field :: fields).flatMap fieldText = fieldText field ++ fields.flatMap fieldText := List.flatMap_cons
      have opened : fieldText field ++ fields.flatMap fieldText ≠ [] := by simp [fieldText]
      rw [text, readFields.eq_3 _ _ opened, read_field_text]
      show (readFields fuel (fields.flatMap fieldText)).bind _ = _
      rw [ih fuel (Nat.le_of_succ_le_succ enough)]
      rfl

def sampleToJson (binding : IssuedRunnerBinding) : String := String.ofList ((bindingFields binding).flatMap fieldText)

def sampleFromJson (text : String) : Except String IssuedRunnerBinding :=
  match readFields 6 text.toList with
  | some (action :: assignment :: revision :: workstream :: role :: lane) =>
    .ok {
      actionId := String.ofList action
      assignmentId := String.ofList assignment
      runRevision := revision.length
      workstream := String.ofList workstream
      roleId := String.ofList role
      laneId := lane.head?.map String.ofList }
  | _ => .error "binding ref must be a JSON object"

@[reducible] def sampleBindingJson : BindingJson where
  toJson := sampleToJson
  fromJson := sampleFromJson
  from_to binding := by
    have few : (bindingFields binding).length ≤ 6 := by
      cases lane : binding.laneId <;> simp [bindingFields, lane]
    rw [sampleFromJson, sampleToJson, String.toList_ofList, read_fields_text _ 6 few]
    cases lane : binding.laneId with
    | none =>
      simp [bindingFields, lane]
      rw [← lane]
    | some name =>
      simp [bindingFields, lane]
      rw [← lane]

end PiAutopilot.Delivery
