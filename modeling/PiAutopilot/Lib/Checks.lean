import Mathlib.Data.List.Dedup
import Mathlib.Data.List.Induction
import Mathlib.Data.List.Sort
import Mathlib.Data.String.Basic
import PiAutopilot.Lib.Fallible

set_option autoImplicit false

namespace PiAutopilot.Lib

-- Loops that only check: the first item refused ends the loop with its error.
section Checks

variable {α ε : Type}

def checkAll (check : α → Except ε Unit) : List α → Except ε Unit
  | [] => .ok ()
  | item :: rest => do
    check item
    checkAll check rest

theorem check_all_ok {check : α → Except ε Unit} {items : List α} :
    checkAll check items = .ok () ↔ ∀ item ∈ items, check item = .ok () := by
  induction items with
  | nil => simp [checkAll]
  | cons item rest ih =>
    rw [List.forall_mem_cons, ← ih]
    constructor
    · intro passed
      obtain ⟨⟨⟩, first, remaining⟩ := bind_ok passed
      exact ⟨first, remaining⟩
    · rintro ⟨first, remaining⟩
      exact bind_eq_ok first remaining

def refuseIf (refused : Bool) (error : ε) : Except ε Unit :=
  if refused then .error error else .ok ()

@[simp] theorem refuse_if_ok {refused : Bool} {error : ε} : refuseIf refused error = .ok () ↔ refused = false := by
  cases refused <;> simp [refuseIf]

variable {κ : Type} [DecidableEq κ]

/-- Each item is noted under its key; a key noted before is refused.  One check of the item stands before
that refusal and one after it. -/
def noteAll (before : α → Except ε Unit) (key : α → κ) (again : α → ε) (after : α → Except ε Unit) (items : List α) : Except ε (List κ) :=
  items.foldlM
    (fun seen item => do
      before item
      refuseIf (key item ∈ seen) (again item)
      after item
      return key item :: seen) []

theorem note_all_ok {before : α → Except ε Unit} {key : α → κ} {again : α → ε} {after : α → Except ε Unit}
    {items : List α} {seen : List κ} (noted : noteAll before key again after items = .ok seen) :
    seen = (items.map key).reverse ∧ (items.map key).Nodup ∧ ∀ item ∈ items, before item = .ok () ∧ after item = .ok () := by
  have kept := foldlM_keeps (fun (log : List α) (seen : List κ) =>
      seen = (log.map key).reverse ∧ (log.map key).Nodup ∧ ∀ item ∈ log, before item = .ok () ∧ after item = .ok ())
    ?_ items [] [] seen (by simp) noted
  · simpa using kept
  · rintro log seen item next ⟨listed, distinct, checked⟩ stepped
    obtain ⟨⟨⟩, passedBefore, continued⟩ := bind_ok stepped
    obtain ⟨⟨⟩, fresh, continued⟩ := bind_ok continued
    obtain ⟨⟨⟩, passedAfter, returned⟩ := bind_ok continued
    cases returned
    rw [refuse_if_ok, decide_eq_false_iff_not, listed, List.mem_reverse] at fresh
    refine ⟨by simp [listed], ?_, ?_⟩
    · rw [List.map_append, List.nodup_append]
      refine ⟨distinct, List.nodup_singleton _, ?_⟩
      rintro left leftMember right rightMember rfl
      rw [List.map_singleton, List.mem_singleton] at rightMember
      exact fresh (rightMember ▸ leftMember)
    · intro other member
      rcases List.mem_append.mp member with earlier | last
      · exact checked other earlier
      · rw [List.mem_singleton.mp last]
        exact ⟨passedBefore, passedAfter⟩

theorem note_all_succeeds {before : α → Except ε Unit} {key : α → κ} {again : α → ε} {after : α → Except ε Unit}
    {items : List α} (distinct : (items.map key).Nodup)
    (passes : ∀ item ∈ items, before item = .ok () ∧ after item = .ok ()) :
    noteAll before key again after items = .ok (items.map key).reverse := by
  induction items using List.reverseRecOn with
  | nil => rfl
  | append_singleton items item ih =>
    rw [List.map_append, List.nodup_append] at distinct
    rw [noteAll, foldlM_snoc]
    refine ⟨(items.map key).reverse, ih distinct.1 fun other member => passes other (by simp [member]), ?_⟩
    have fresh : key item ∉ (items.map key).reverse := fun member =>
      distinct.2.2 _ (List.mem_reverse.mp member) (key item) (by simp) rfl
    obtain ⟨passesBefore, passesAfter⟩ := passes item (by simp)
    refine bind_eq_ok passesBefore (bind_eq_ok ((refuse_if_ok).mpr (decide_eq_false fresh)) (bind_eq_ok passesAfter ?_))
    simp [pure, Except.pure]

variable {β : Type} {f : α → Except ε β} {items : List α}

theorem mapM_ok_iff (items : List α) (results : List β) :
    items.mapM f = .ok results ↔ List.Forall₂ (fun item result => f item = .ok result) items results := by
  induction items generalizing results with
  | nil =>
    rw [List.forall₂_nil_left_iff]
    exact ⟨fun same => (Except.ok.inj same).symm, fun empty => by rw [empty]; rfl⟩
  | cons item rest ih =>
    rw [List.mapM_cons, List.forall₂_cons_left_iff]
    constructor
    · intro ran
      obtain ⟨result, first, continued⟩ := bind_ok ran
      obtain ⟨others, remaining, returned⟩ := bind_ok continued
      cases returned
      exact ⟨result, others, first, (ih others).mp remaining, rfl⟩
    · rintro ⟨result, others, first, remaining, rfl⟩
      exact bind_eq_ok first (bind_eq_ok ((ih others).mpr remaining) rfl)

theorem mapM_ok_map {g : α → β} (succeeds : ∀ item ∈ items, f item = .ok (g item)) : items.mapM f = .ok (items.map g) := by
  rw [mapM_ok_iff, List.forall₂_map_right_iff, List.forall₂_same]
  exact succeeds

theorem forall₂_partner {γ δ : Type} {related : γ → δ → Prop} {firsts : List γ} {seconds : List δ}
    (paired : List.Forall₂ related firsts seconds) : ∀ first ∈ firsts, ∃ second ∈ seconds, related first second := by
  induction paired with
  | nil => simp
  | cons head _ ih =>
    intro first member
    rcases List.mem_cons.mp member with rfl | later
    · exact ⟨_, List.mem_cons_self, head⟩
    · obtain ⟨second, isSecond, holds⟩ := ih first later
      exact ⟨second, List.mem_cons_of_mem _ isSecond, holds⟩

theorem mapM_ok_mem {results : List β} (ran : items.mapM f = .ok results) : ∀ item ∈ items, ∃ result ∈ results, f item = .ok result :=
  forall₂_partner ((mapM_ok_iff _ _).mp ran)

theorem mapM_ok_source {results : List β} (ran : items.mapM f = .ok results) : ∀ result ∈ results, ∃ item ∈ items, f item = .ok result :=
  forall₂_partner ((mapM_ok_iff _ _).mp ran).flip

theorem mapM_ok_exists (succeeds : ∀ item ∈ items, ∃ result, f item = .ok result) : ∃ results, items.mapM f = .ok results := by
  induction items with
  | nil => exact ⟨[], rfl⟩
  | cons item rest ih =>
    obtain ⟨result, first⟩ := succeeds item List.mem_cons_self
    obtain ⟨others, remaining⟩ := ih fun other member => succeeds other (List.mem_cons_of_mem _ member)
    refine ⟨result :: others, ?_⟩
    rw [List.mapM_cons]
    exact bind_eq_ok first (bind_eq_ok remaining rfl)

def keepM (keep : α → Except ε Bool) : List α → Except ε (List α)
  | [] => .ok []
  | item :: rest => do
    let kept ← keep item
    let others ← keepM keep rest
    return if kept then item :: others else others

theorem keep_m_mem (keep : α → Except ε Bool) (items kept : List α) (ran : keepM keep items = .ok kept) {item : α} :
    item ∈ kept → item ∈ items ∧ keep item = .ok true := by
  induction items generalizing kept with
  | nil =>
    cases ran
    intro member
    cases member
  | cons head rest ih =>
    obtain ⟨isKept, tested, continued⟩ := bind_ok ran
    obtain ⟨others, remaining, returned⟩ := bind_ok continued
    cases returned
    intro member
    have inRest : item ∈ others → item ∈ head :: rest ∧ keep item = .ok true := fun inOthers =>
      (ih others remaining inOthers).imp_left (List.mem_cons_of_mem _)
    cases isKept with
    | false => exact inRest member
    | true =>
      rcases List.mem_cons.mp member with rfl | inOthers
      · exact ⟨List.mem_cons_self, tested⟩
      · exact inRest inOthers

theorem keep_m_append (keep : α → Except ε Bool) (first second kept : List α) : keepM keep (first ++ second) = .ok kept ↔
      ∃ left right, keepM keep first = .ok left ∧ keepM keep second = .ok right ∧ kept = left ++ right := by
  induction first generalizing kept with
  | nil =>
    constructor
    · exact fun ran => ⟨[], kept, rfl, ran, rfl⟩
    · rintro ⟨left, right, ran, second, rfl⟩
      cases ran
      exact second
  | cons head rest ih =>
    constructor
    · intro ran
      obtain ⟨isKept, tested, continued⟩ := bind_ok ran
      obtain ⟨others, remaining, returned⟩ := bind_ok continued
      obtain ⟨left, right, leftRan, rightRan, rfl⟩ := (ih others).mp remaining
      cases returned
      refine ⟨_, right, bind_eq_ok tested (bind_eq_ok leftRan rfl), rightRan, ?_⟩
      cases isKept <;> rfl
    · rintro ⟨left, right, leftRan, rightRan, rfl⟩
      obtain ⟨isKept, tested, continued⟩ := bind_ok leftRan
      obtain ⟨others, remaining, returned⟩ := bind_ok continued
      cases returned
      refine bind_eq_ok tested (bind_eq_ok ((ih _).mpr ⟨others, right, remaining, rightRan, rfl⟩) ?_)
      cases isKept <;> rfl

theorem keep_m_nil {keep : α → Except ε Bool} : keepM keep items = .ok [] ↔ ∀ item ∈ items, keep item = .ok false := by
  induction items with
  | nil => simp [keepM]
  | cons head rest ih =>
    rw [List.forall_mem_cons, ← ih]
    constructor
    · intro ran
      obtain ⟨isKept, tested, continued⟩ := bind_ok ran
      obtain ⟨others, remaining, returned⟩ := bind_ok continued
      cases isKept with
      | false =>
        cases returned
        exact ⟨tested, remaining⟩
      | true => cases returned
    · rintro ⟨tested, remaining⟩
      exact bind_eq_ok tested (bind_eq_ok remaining rfl)

theorem keep_m_returns (keep : α → Except ε Bool) (items : List α) (tests : ∀ item ∈ items, ∃ kept, keep item = .ok kept) :
    ∃ kept, keepM keep items = .ok kept ∧ ∀ item ∈ items, keep item = .ok true → item ∈ kept := by
  induction items with
  | nil => exact ⟨[], rfl, by simp⟩
  | cons head rest ih =>
    obtain ⟨isKept, tested⟩ := tests head List.mem_cons_self
    obtain ⟨others, remaining, complete⟩ := ih fun item member => tests item (List.mem_cons_of_mem _ member)
    refine ⟨_, bind_eq_ok tested (bind_eq_ok remaining rfl), ?_⟩
    intro item member passes
    rcases List.mem_cons.mp member with rfl | inRest
    · rw [tested] at passes
      cases passes
      exact List.mem_cons_self
    · have inOthers := complete item inRest passes
      cases isKept with
      | false => exact inOthers
      | true => exact List.mem_cons_of_mem _ inOthers

end Checks

-- Sets and maps that the source keeps in key order.
section SortedSet

variable {κ : Type} [LinearOrder κ]

def sortedSet (items : List κ) : List κ := items.dedup.insertionSort (· ≤ ·)

variable {items : List κ}

@[simp] theorem mem_sorted_set {item : κ} : item ∈ sortedSet items ↔ item ∈ items := by
  rw [sortedSet, List.mem_insertionSort, List.mem_dedup]

theorem sorted_set_nodup : (sortedSet items).Nodup := (List.perm_insertionSort _ _).nodup_iff.mpr items.nodup_dedup

theorem sorted_set_sorted : (sortedSet items).Pairwise (· < ·) := by
  have ordered := items.dedup.pairwise_insertionSort (· ≤ ·)
  exact (ordered.and (sorted_set_nodup)).imp fun both => lt_of_le_of_ne both.1 both.2

theorem sorted_ext {left right : List κ} (leftSorted : left.Pairwise (· < ·)) (rightSorted : right.Pairwise (· < ·))
    (same : ∀ item, item ∈ left ↔ item ∈ right) : left = right := by
  have leftDistinct : left.Nodup := leftSorted.imp fun below => ne_of_lt below
  have rightDistinct : right.Nodup := rightSorted.imp fun below => ne_of_lt below
  exact ((List.perm_ext_iff_of_nodup leftDistinct rightDistinct).mpr same).eq_of_pairwise
    (fun _ _ _ _ below above => absurd below (lt_asymm above)) leftSorted rightSorted

end SortedSet

-- The first `count` entries of a list in the order of its keys.
section Window

variable {α κ : Type} [LinearOrder κ] (key : α → κ)

def byKey (left right : α) : Prop := key left ≤ key right

instance : DecidableRel (byKey key) :=
  fun left right => inferInstanceAs (Decidable (key left ≤ key right))

instance : Std.Total (byKey key) :=
  ⟨fun left right => le_total (key left) (key right)⟩

instance : IsTrans α (byKey key) :=
  ⟨fun _ _ _ first second => le_trans first second⟩

variable {items : List α}

theorem insertion_sort_congr {other : α → κ} (same : ∀ item ∈ items, key item = other item) :
    items.insertionSort (byKey key) = items.insertionSort (byKey other) := by
  have inserted : ∀ (item : α) (sorted : List α), key item = other item → (∀ entry ∈ sorted, key entry = other entry) →
      sorted.orderedInsert (byKey key) item = sorted.orderedInsert (byKey other) item := by
    intro item sorted itemSame sortedSame
    induction sorted with
    | nil => rfl
    | cons head rest ih =>
      have sameOrder : byKey key item head ↔ byKey other item head := by
        rw [byKey, byKey, itemSame, sortedSame head List.mem_cons_self]
      rw [List.orderedInsert_cons, List.orderedInsert_cons, ih fun entry member => sortedSame entry (List.mem_cons_of_mem _ member)]
      by_cases below : byKey key item head
      · rw [if_pos below, if_pos (sameOrder.mp below)]
      · rw [if_neg below, if_neg fun above => below (sameOrder.mpr above)]
  induction items with
  | nil => rfl
  | cons head rest ih =>
    have restSame : ∀ item ∈ rest, key item = other item := fun item member => same item (List.mem_cons_of_mem _ member)
    rw [List.insertionSort_cons, ih restSame]
    exact inserted head _ (same head List.mem_cons_self) fun entry member =>
      restSame entry ((List.mem_insertionSort _).mp member)

theorem mem_take_sorted (sorted : items.Pairwise fun left right => key left < key right) (count : Nat) (item : α) :
    item ∈ items.take count ↔ item ∈ items ∧ items.countP (fun other => decide (key other < key item)) < count := by
  induction items generalizing count with
  | nil => simp
  | cons head rest ih =>
    obtain ⟨least, restSorted⟩ := List.pairwise_cons.mp sorted
    cases count with
    | zero => simp
    | succ count =>
      rw [List.take_succ_cons, List.mem_cons, ih restSorted count]
      by_cases first : item = head
      · subst first
        have none_below : rest.countP (fun other => decide (key other < key item)) = 0 := by
          rw [List.countP_eq_zero]
          intro other member
          simpa using (least other member).le
        simp [none_below]
      · have below : ∀ member : item ∈ rest, key head < key item := fun member => least item member
        simp only [first, false_or, List.mem_cons]
        refine and_congr_right fun member => ?_
        rw [List.countP_cons_of_pos (by simpa using below member)]
        omega

theorem mem_take_insertion_sort (distinct : (items.map key).Nodup) {count : Nat} {item : α} :
    item ∈ (items.insertionSort (byKey key)).take count ↔
      item ∈ items ∧ items.countP (fun other => decide (key other < key item)) < count := by
  have perm := List.perm_insertionSort (byKey key) items
  have sorted : (items.insertionSort (byKey key)).Pairwise fun left right => key left < key right := by
    have ordered := List.pairwise_insertionSort (byKey key) items
    have different := ((perm.map key).nodup_iff.mpr distinct)
    rw [List.Nodup, List.pairwise_map] at different
    exact (ordered.and different).imp fun both => lt_of_le_of_ne both.1 both.2
  rw [mem_take_sorted key sorted, perm.mem_iff, perm.countP_eq]

end Window

end PiAutopilot.Lib
