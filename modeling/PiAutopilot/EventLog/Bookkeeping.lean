import Mathlib.Algebra.BigOperators.Finprod
import PiAutopilot.EventLog.Replay

set_option autoImplicit false

namespace PiAutopilot.EventLog

inductive AppendRefusal where
  | sequenceOverflow
  | revisionOverflow

inductive AppendPlan where
  | write (effect : LogEffect)
  | refused (refusal : AppendRefusal)

def planAppend (state : State) (kind : EventKind) (artifactRefs : List Ref) : AppendPlan :=
  match checkedAddOne state.sequence, checkedAddOne state.revision with
  | none, _ => .refused .sequenceOverflow
  | some _, none => .refused .revisionOverflow
  | some sequence, some newRevision =>
    .write (.append {
      sequence := sequence
      previousRevision := state.revision
      newRevision := newRevision
      kind := kind
      artifactRefs := artifactRefs })

def Quiet (issues : List StateIssue) : Prop := ∀ issue ∈ issues, issue.kind ≠ .counterOverflow

theorem checked_add_one_eq {value next : UInt64} (added : checkedAddOne value = some next) : next.toNat = value.toNat + 1 := by
  rw [checkedAddOne] at added
  split at added
  · cases added
  · rename_i below
    cases added
    have bound := value.toNat_lt
    have notMax : value.toNat ≠ maxCount.toNat := mt UInt64.toNat_inj.mp below
    rw [UInt64.toNat_add]
    simp only [maxCount, UInt64.reduceToNat] at notMax ⊢
    omega

variable {atSequence : UInt64} {state : State} {event : EventRow}

theorem bump_quiet (issues : List StateIssue) {value : UInt64} (quiet : Quiet (issues ++ (bump value atSequence).2)) :
    (bump value atSequence).2 = [] ∧ (bump value atSequence).1.toNat = value.toNat + 1 := by
  rw [bump] at quiet ⊢
  cases added : checkedAddOne value with
  | some next => exact ⟨rfl, checked_add_one_eq added⟩
  | none =>
    rw [added] at quiet
    exact absurd rfl (quiet (overflowIssue atSequence value) (by simp))

theorem note_count_quiet (state : State) (counter : Counter) (quiet : Quiet (noteCount state counter atSequence).issues) :
    ∃ count, count.toNat = (counter.slot state).toNat + 1 ∧ noteCount state counter atSequence = counter.store state count := by
  have same : (noteCount state counter atSequence).issues = state.issues ++ (bump (counter.slot state) atSequence).2 := by
    cases counter <;> rfl
  rw [same] at quiet
  obtain ⟨silent, count⟩ := bump_quiet _ quiet
  exact ⟨_, count, by rw [noteCount]; simp only [silent, List.append_nil]⟩

theorem note_refs_quiet {references : List Ref} (quiet : Quiet (references.foldl (noteRef atSequence) state).issues) :
    ∃ refs, references.foldl (noteRef atSequence) state = { state with refs := refs } := by
  induction references generalizing state with
  | nil => exact ⟨state.refs, rfl⟩
  | cons reference rest ih =>
    rw [List.foldl_cons] at quiet ⊢
    obtain ⟨refs, rested⟩ := ih quiet
    rw [rested] at quiet ⊢
    obtain ⟨silent, _⟩ := bump_quiet state.issues quiet
    exact ⟨refs, by simp only [noteRef, noteKey, silent, List.append_nil]⟩

theorem check_sequence (state : State) (event : EventRow) :
    (checkSequence state event = (state, true) ∧ checkedAddOne state.sequence = some event.sequence) ∨
      ∃ sequence issue, state.sequence ≤ sequence ∧ checkedAddOne state.sequence ≠ some event.sequence ∧
        checkSequence state event = ({ state with sequence := sequence, issues := state.issues ++ [issue] }, false) := by
  rw [checkSequence]
  cases next : checkedAddOne state.sequence with
  | none => exact .inr ⟨_, _, UInt64.le_refl _, nofun, rfl⟩
  | some expected =>
    dsimp only
    by_cases inOrder : event.sequence = expected
    · rw [if_pos inOrder, inOrder]
      exact .inl ⟨rfl, rfl⟩
    have outOfOrder : some expected ≠ some event.sequence := fun same => inOrder (Option.some.inj same).symm
    rw [if_neg inOrder]
    split
    · rename_i gap
      have number := checked_add_one_eq next
      rw [gt_iff_lt, UInt64.lt_iff_toNat_lt] at gap
      exact .inr ⟨_, _, UInt64.le_iff_toNat_le.mpr (by omega), outOfOrder, rfl⟩
    · exact .inr ⟨_, _, UInt64.le_refl _, outOfOrder, rfl⟩

theorem check_revision (state : State) (event : EventRow) :
    (checkRevision state event = (state, true) ∧ event.previousRevision = state.revision) ∨
      ∃ issue, event.previousRevision ≠ state.revision ∧ checkRevision state event = ({ state with issues := state.issues ++ [issue] }, false) := by
  rw [checkRevision]
  split
  · rename_i apart
    exact .inr ⟨_, apart, rfl⟩
  · rename_i same
    exact .inl ⟨rfl, not_not.mp same⟩

inductive Applied (state : State) (event : EventRow) : State → Prop where
  | accepted (rows accepted kindCount : UInt64) (refs : KeyCounts Ref) (seen : rows.toNat = state.rows.toNat + 1)
      (counted : accepted.toNat = state.accepted.toNat + 1)
      (kindCounted : kindCount.toNat = ((state.kinds event.kind).getD 0).toNat + 1)
      (next : checkedAddOne state.sequence = some event.sequence) (revision : event.previousRevision = state.revision) :
      Applied state event { state with
        sequence := event.sequence
        revision := event.newRevision
        rows := rows
        accepted := accepted
        kinds := Function.update state.kinds event.kind (some kindCount)
        refs := refs }
  | rejected (rows rejected sequence : UInt64) (added : List StateIssue) (seen : rows.toNat = state.rows.toNat + 1)
      (counted : rejected.toNat = state.rejected.toNat + 1) (later : state.sequence ≤ sequence) (noted : added ≠ [])
      (refused : checkedAddOne state.sequence = some event.sequence → event.previousRevision ≠ state.revision) :
      Applied state event { state with
        sequence := sequence
        rows := rows
        rejected := rejected
        issues := state.issues ++ added }

theorem rejected_applied {sequence : UInt64} {added : List StateIssue} (later : state.sequence ≤ sequence) (nonempty : added ≠ [])
    (refused : checkedAddOne state.sequence = some event.sequence → event.previousRevision ≠ state.revision)
    (quiet : Quiet (noteCount { noteCount state .rows event.sequence with
      sequence := sequence, issues := (noteCount state .rows event.sequence).issues ++ added } .rejected event.sequence).issues) :
    Applied state event (noteCount { noteCount state .rows event.sequence with
      sequence := sequence, issues := (noteCount state .rows event.sequence).issues ++ added } .rejected event.sequence) := by
  obtain ⟨rejected, counted, stored⟩ := note_count_quiet _ _ quiet
  rw [stored] at quiet ⊢
  obtain ⟨rows, seen, noted⟩ := note_count_quiet _ _ fun issue member => quiet issue (List.mem_append_left _ member)
  rw [noted] at counted ⊢
  exact .rejected rows rejected sequence added seen counted later nonempty refused

theorem apply_cases (quiet : Quiet (apply state event).issues) : Applied state event (apply state event) := by
  rw [apply] at quiet ⊢
  rcases check_sequence (noteCount state .rows event.sequence) event with ⟨checked, next⟩ | ⟨sequence, issue, later, apart, checked⟩
  · rcases check_revision (noteCount state .rows event.sequence) event with ⟨agreed, revision⟩ | ⟨issue, differs, agreed⟩
    · simp only [checked, agreed, Bool.and_self, if_true] at quiet ⊢
      obtain ⟨refs, referred⟩ := note_refs_quiet quiet
      rw [referred] at quiet ⊢
      obtain ⟨silent, kindCounted⟩ := bump_quiet _ quiet
      simp only [noteKind, noteKey, silent, List.append_nil] at quiet ⊢
      obtain ⟨accepted, counted, acceptedNoted⟩ := note_count_quiet _ _ quiet
      rw [acceptedNoted] at quiet kindCounted ⊢
      obtain ⟨rows, seen, noted⟩ := note_count_quiet state .rows quiet
      rw [noted] at next revision counted kindCounted ⊢
      exact .accepted rows accepted _ refs seen counted kindCounted next revision
    · simp only [checked, agreed, Bool.and_false, Bool.false_eq_true, if_false] at quiet ⊢
      exact rejected_applied (UInt64.le_refl _) (List.cons_ne_nil issue []) (fun _ => differs) quiet
  · rcases check_revision (checkSequence (noteCount state .rows event.sequence) event).1 event with
      ⟨agreed, _⟩ | ⟨other, _, agreed⟩
    · rw [checked] at agreed
      simp only [checked, agreed, Bool.false_and, Bool.false_eq_true, if_false] at quiet ⊢
      exact rejected_applied later (List.cons_ne_nil issue []) (fun next => absurd next apart) quiet
    · rw [checked] at agreed
      simp only [checked, agreed, Bool.false_and, Bool.false_eq_true, if_false, List.append_assoc] at quiet ⊢
      exact rejected_applied later (List.cons_ne_nil issue [other]) (fun next => absurd next apart) quiet

noncomputable def keyTotal {Key : Type} (counts : KeyCounts Key) : Nat := ∑ᶠ key, ((counts key).getD 0).toNat

def FinitelyCounted {Key : Type} (counts : KeyCounts Key) : Prop := (Function.support fun key => ((counts key).getD 0).toNat).Finite

theorem key_total_update {Key : Type} [DecidableEq Key] {counts : KeyCounts Key} {key : Key} {count : UInt64}
    (finite : FinitelyCounted counts) (next : count.toNat = ((counts key).getD 0).toNat + 1) :
    FinitelyCounted (Function.update counts key (some count)) ∧
      keyTotal (Function.update counts key (some count)) = keyTotal counts + 1 := by
  have split : (fun other => ((Function.update counts key (some count) other).getD 0).toNat) =
      fun other => ((counts other).getD 0).toNat + Pi.single (M := fun _ => Nat) key 1 other := by
    funext other
    by_cases same : other = key
    · rw [same, Function.update_self, Pi.single_eq_same]
      exact next
    · rw [Function.update_of_ne same, Pi.single_eq_of_ne same, Nat.add_zero]
  have single : (Function.support (Pi.single (M := fun _ => Nat) key 1)).Finite :=
    (Set.finite_singleton key).subset Pi.support_single_subset
  have one : ∑ᶠ other, Pi.single (M := fun _ => Nat) key 1 other = 1 := by
    rw [finsum_eq_single _ key fun other apart => Pi.single_eq_of_ne apart 1, Pi.single_eq_same]
  rw [FinitelyCounted, keyTotal, split, finsum_add_distrib finite single, one]
  exact ⟨(finite.union single).subset (Function.support_add _ _), rfl⟩

structure Booked (count : Nat) (state : State) : Prop where
  seen : state.rows.toNat = count
  rows : state.rows.toNat = state.accepted.toNat + state.rejected.toNat
  finite : FinitelyCounted state.kinds
  kinds : keyTotal state.kinds = state.accepted.toNat
  rejected : 0 < state.rejected.toNat ↔ state.issues ≠ []

variable {next : State} {events : List EventRow}

theorem applied_booked {count : Nat} (booked : Booked count state)
    (applied : Applied state event next) : Booked (count + 1) next := by
  obtain ⟨seen, rows, finite, kinds, rejected⟩ := booked
  cases applied with
  | accepted rowCount accepted kindCount refs rowSeen counted kindCounted _ _ =>
    obtain ⟨stillFinite, total⟩ := key_total_update finite kindCounted
    exact ⟨by dsimp only; omega, by dsimp only; omega, stillFinite, by dsimp only; omega, rejected⟩
  | rejected rowCount rejectedCount sequence added rowSeen counted _ noted _ =>
    refine ⟨by dsimp only; omega, by dsimp only; omega, finite, kinds, ?_⟩
    dsimp only
    exact ⟨fun _ empty => noted (List.append_eq_nil_iff.mp empty).2, fun _ => by omega⟩

theorem applied_later (applied : Applied state event next) : state.sequence ≤ next.sequence ∧ state.issues <+: next.issues := by
  cases applied with
  | accepted _ _ _ _ _ _ _ following _ =>
    have number := checked_add_one_eq following
    exact ⟨UInt64.le_iff_toNat_le.mpr (by dsimp only; omega), List.prefix_rfl⟩
  | rejected _ _ _ _ _ _ later _ _ => exact ⟨later, List.prefix_append _ _⟩

theorem fold_snoc (quiet : Quiet (foldEvents (events ++ [event])).issues) :
    Applied (foldEvents events) event (foldEvents (events ++ [event])) ∧ Quiet (foldEvents events).issues := by
  have stepped : foldEvents (events ++ [event]) = apply (foldEvents events) event := List.foldl_append
  rw [stepped] at quiet ⊢
  have applied := apply_cases quiet
  exact ⟨applied, fun issue member => quiet issue ((applied_later applied).2.subset member)⟩

theorem fold_booked (quiet : Quiet (foldEvents events).issues) : Booked events.length (foldEvents events) := by
  induction events using List.reverseRecOn with
  | nil => exact ⟨rfl, rfl, by simp [FinitelyCounted, foldEvents, State.empty], by simp [keyTotal, foldEvents, State.empty],
      by simp [foldEvents, State.empty]⟩
  | append_singleton events event ih =>
    obtain ⟨applied, before⟩ := fold_snoc quiet
    rw [List.length_append]
    exact applied_booked (ih before) applied

theorem fold_later {earlier later : List EventRow} (quiet : Quiet (foldEvents (earlier ++ later)).issues) :
    (foldEvents earlier).sequence ≤ (foldEvents (earlier ++ later)).sequence := by
  induction later using List.reverseRecOn with
  | nil =>
    rw [List.append_nil]
    exact UInt64.le_refl _
  | append_singleton later event ih =>
    rw [← List.append_assoc] at quiet ⊢
    obtain ⟨applied, before⟩ := fold_snoc quiet
    exact UInt64.le_trans (ih before) (applied_later applied).1

structure Extends (state next : State) : Prop where
  accepted : next.accepted.toNat = state.accepted.toNat + 1
  rejected : next.rejected = state.rejected
  sequence : next.sequence.toNat = state.sequence.toNat + 1
  revision : next.revision.toNat = state.revision.toNat + 1
  issues : next.issues = state.issues

theorem planned_extends {kind : EventKind} {artifactRefs : List Ref} {row : EventRow}
    (planned : planAppend state kind artifactRefs = .write (.append row)) (quiet : Quiet (apply state row).issues) :
    Extends state (apply state row) := by
  rw [planAppend] at planned
  split at planned
  · cases planned
  · cases planned
  rename_i sequence newRevision next nextRevision
  cases planned
  have applied := apply_cases quiet
  generalize apply state _ = result at applied ⊢
  cases applied with
  | accepted rows accepted kindCount refs seen counted _ _ _ =>
    exact ⟨counted, rfl, checked_add_one_eq next, checked_add_one_eq nextRevision, rfl⟩
  | rejected _ _ _ _ _ _ _ _ refused => exact absurd rfl (refused next)

theorem fold_bookkeeping (events : List EventRow) (quiet : Quiet (foldEvents events).issues) : Booked events.length (foldEvents events) ∧
      (∀ earlier later, events = earlier ++ later → (foldEvents earlier).sequence ≤ (foldEvents events).sequence) ∧
      ∀ kind artifactRefs row, planAppend (foldEvents events) kind artifactRefs = .write (.append row) →
        Quiet (apply (foldEvents events) row).issues → Extends (foldEvents events) (apply (foldEvents events) row) := by
  refine ⟨fold_booked quiet, ?_, fun _ _ _ planned rowQuiet => planned_extends planned rowQuiet⟩
  rintro earlier later rfl
  exact fold_later quiet

def gapRows : List EventRow := [⟨1, 0, 1, ⟨"plan"⟩, [⟨"unit:a"⟩]⟩, ⟨4, 1, 2, ⟨"plan"⟩, []⟩]

theorem fold_bookkeeping_gap : Booked 2 (foldEvents gapRows) := (fold_bookkeeping gapRows (by unfold Quiet; decide)).1

end PiAutopilot.EventLog
