import PiAutopilot.Delivery.Dispatch

set_option autoImplicit false

/-! # The schedule takes the best ready items, in priority order -/

namespace PiAutopilot.Delivery

open EventLog Lib

def isCapped (cappedClass : String) (item : WorkItem) : Bool := item.capacityClass == cappedClass

structure Takes (cappedClass : String) (cappedOpen : Nat) (items chosen skipped : List WorkItem) : Prop where
  split : (chosen ++ skipped).Perm items
  inOrder : chosen.Pairwise (byKey itemKey)
  within : chosen.countP (isCapped cappedClass) ≤ cappedOpen
  cappedOnly : ∀ item ∈ skipped, isCapped cappedClass item = true
  best : ∀ item ∈ chosen, isCapped cappedClass item = true → ∀ other ∈ skipped, ¬itemKey other < itemKey item
  filled : skipped ≠ [] → chosen.countP (isCapped cappedClass) = cappedOpen

section Take

variable (cappedClass : String)

theorem Takes.nil (cappedOpen : Nat) : Takes cappedClass cappedOpen [] [] [] where
  split := .nil
  inOrder := .nil
  within := Nat.zero_le _
  cappedOnly _ member := nomatch member
  best _ member := nomatch member
  filled absent := absurd rfl absent

variable {cappedClass}
variable {cappedOpen : Nat} {rest chosen skipped : List WorkItem} (item : WorkItem)

theorem Takes.skip (capped : isCapped cappedClass item = true) (takes : Takes cappedClass 0 rest chosen skipped) :
    Takes cappedClass 0 (item :: rest) chosen (item :: skipped) where
  split := List.perm_middle.trans (takes.split.cons item)
  inOrder := takes.inOrder
  within := takes.within
  cappedOnly := by
    intro other member
    rcases List.mem_cons.mp member with rfl | inSkipped
    · exact capped
    · exact takes.cappedOnly other inSkipped
  best := by
    intro other member otherCapped
    have none := List.countP_eq_zero.mp (Nat.le_zero.mp takes.within) other member
    exact absurd otherCapped none
  filled _ := Nat.le_zero.mp takes.within

theorem Takes.head_first (takes : Takes cappedClass cappedOpen rest chosen skipped)
    (first : ∀ other ∈ rest, byKey itemKey item other) : (item :: chosen).Pairwise (byKey itemKey) :=
  List.pairwise_cons.mpr ⟨fun other member =>
    first other (takes.split.mem_iff.mp (List.mem_append_left skipped member)), takes.inOrder⟩

theorem Takes.take (capped : isCapped cappedClass item = true) (first : ∀ other ∈ rest, byKey itemKey item other)
    (takes : Takes cappedClass cappedOpen rest chosen skipped) :
    Takes cappedClass (cappedOpen + 1) (item :: rest) (item :: chosen) skipped where
  split := takes.split.cons item
  inOrder := takes.head_first item first
  within := by
    rw [List.countP_cons_of_pos capped]
    exact Nat.succ_le_succ takes.within
  cappedOnly := takes.cappedOnly
  best := by
    intro other member otherCapped left inSkipped
    rcases List.mem_cons.mp member with rfl | inChosen
    · exact not_lt.mpr (first left (takes.split.mem_iff.mp (List.mem_append_right chosen inSkipped)))
    · exact takes.best other inChosen otherCapped left inSkipped
  filled some := by
    rw [List.countP_cons_of_pos capped, takes.filled some]

theorem Takes.pass (uncapped : ¬isCapped cappedClass item = true) (first : ∀ other ∈ rest, byKey itemKey item other)
    (takes : Takes cappedClass cappedOpen rest chosen skipped) :
    Takes cappedClass cappedOpen (item :: rest) (item :: chosen) skipped where
  split := takes.split.cons item
  inOrder := takes.head_first item first
  within := by
    rw [List.countP_cons_of_neg uncapped]
    exact takes.within
  cappedOnly := takes.cappedOnly
  best := by
    intro other member otherCapped
    rcases List.mem_cons.mp member with rfl | inChosen
    · exact absurd otherCapped uncapped
    · exact takes.best other inChosen otherCapped
  filled some := by
    rw [List.countP_cons_of_neg uncapped, takes.filled some]

end Take

-- The loop over the sorted items: each item is skipped, takes a place, or passes without one.
theorem take_capped_takes {cappedClass : String} (cappedOpen : Nat) {items : List WorkItem}
    (sorted : items.Pairwise (byKey itemKey)) : ∃ chosen skipped, takeCapped cappedClass cappedOpen items = chosen.map WorkItem.id ∧
      Takes cappedClass cappedOpen items chosen skipped := by
  induction items generalizing cappedOpen with
  | nil => exact ⟨[], [], rfl, .nil cappedClass cappedOpen⟩
  | cons item rest ih =>
    obtain ⟨first, restSorted⟩ := List.pairwise_cons.mp sorted
    by_cases capped : item.capacityClass = cappedClass
    · have isIt : isCapped cappedClass item = true := beq_iff_eq.mpr capped
      cases cappedOpen with
      | zero =>
        obtain ⟨chosen, skipped, taken, takes⟩ := ih 0 restSorted
        refine ⟨chosen, item :: skipped, ?_, takes.skip item isIt⟩
        rw [takeCapped, if_pos capped, taken]
      | succ cappedOpen =>
        obtain ⟨chosen, skipped, taken, takes⟩ := ih cappedOpen restSorted
        refine ⟨item :: chosen, skipped, ?_, takes.take item isIt first⟩
        rw [takeCapped, if_pos capped, taken, List.map_cons]
    · obtain ⟨chosen, skipped, taken, takes⟩ := ih cappedOpen restSorted
      refine ⟨item :: chosen, skipped, ?_, takes.pass item (fun isIt => capped (beq_iff_eq.mp isIt)) first⟩
      cases cappedOpen <;> rw [takeCapped, if_neg capped, taken, List.map_cons]

theorem take_capped_mono (cappedClass : String) {fewer more : Nat} (places : fewer ≤ more) (items : List WorkItem) :
    (takeCapped cappedClass fewer items).Sublist (takeCapped cappedClass more items) := by
  induction items generalizing fewer more with
  | nil => exact .refl []
  | cons item rest ih =>
    by_cases capped : item.capacityClass = cappedClass
    · cases more with
      | zero =>
        obtain rfl := Nat.le_zero.mp places
        exact .refl _
      | succ more =>
        cases fewer with
        | zero =>
          rw [takeCapped, takeCapped, if_pos capped, if_pos capped]
          exact (ih (Nat.zero_le more)).cons item.id
        | succ fewer =>
          rw [takeCapped, takeCapped, if_pos capped, if_pos capped]
          exact (ih (Nat.le_of_succ_le_succ places)).cons_cons item.id
    · rw [takeCapped.eq_def, takeCapped.eq_def]
      simp only [if_neg capped]
      exact (ih places).cons_cons item.id

/-- A place that becomes free only adds to the schedule: what was taken stays taken, in the same order. -/
theorem more_places_keep_order (view : ScheduleView) (raised ended : Nat) : (dispatchOrder view).Sublist
    (dispatchOrder { view with parallelCap := view.parallelCap + raised, activeCapped := view.activeCapped - ended }) :=
  take_capped_mono view.cappedClass (by dsimp only; omega) _

def readyItems (view : ScheduleView) : List WorkItem :=
  view.items.filter fun item => item.readiness.allMet && resourcesAllow item.pressurePolicy view.resources

theorem item_key_id {left right : WorkItem} (same : itemKey left = itemKey right) : left.id = right.id := by
  simp only [itemKey, EmbeddingLike.apply_eq_iff_eq, Prod.mk.injEq] at same
  exact same.2.2.2

-- With distinct ids no two items tie, so the sorted list depends only on which items there are.
theorem sorted_items_perm {left : List WorkItem} (right : List WorkItem) (permuted : left.Perm right)
    (distinct : (left.map WorkItem.id).Nodup) :
    left.insertionSort (byKey itemKey) = right.insertionSort (byKey itemKey) := by
  refine List.Perm.eq_of_pairwise ?_ (left.pairwise_insertionSort _) (right.pairwise_insertionSort _) ?_
  · intro item other itemIn otherIn below above
    rw [List.mem_insertionSort] at itemIn otherIn
    exact List.inj_on_of_nodup_map distinct itemIn (permuted.mem_iff.mpr otherIn) (item_key_id (le_antisymm below above))
  · exact (left.perm_insertionSort _).trans (permuted.trans (right.perm_insertionSort _).symm)

/-- The schedule takes ready, permitted items in priority order: a capped one for each open place and the best
of them, and every other one.  With distinct ids the order of the items does not matter. -/
theorem dispatch_order_exact (view : ScheduleView) : (∃ chosen skipped, dispatchOrder view = chosen.map WorkItem.id ∧
      Takes view.cappedClass (view.parallelCap - view.activeCapped) (readyItems view) chosen skipped) ∧
    ∀ items, (view.items.map WorkItem.id).Nodup → items.Perm view.items → dispatchOrder { view with items } = dispatchOrder view := by
  constructor
  · obtain ⟨chosen, skipped, taken, takes⟩ := take_capped_takes (view.parallelCap - view.activeCapped)
      ((readyItems view).pairwise_insertionSort _)
    exact ⟨chosen, skipped, taken, { takes with split := takes.split.trans ((readyItems view).perm_insertionSort _) }⟩
  · intro items distinct permuted
    have sorted := sorted_items_perm (readyItems view)
      (permuted.filter _) (((permuted.map WorkItem.id).nodup_iff.mpr distinct).sublist (List.filter_sublist.map _))
    exact congrArg (takeCapped view.cappedClass (view.parallelCap - view.activeCapped)) sorted

end PiAutopilot.Delivery
