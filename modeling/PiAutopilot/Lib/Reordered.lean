import Mathlib.Data.List.Perm.Basic
import PiAutopilot.Lib.Checks

set_option autoImplicit false

namespace PiAutopilot.Lib

-- Two lists that hold the same items in whatever order, where an item may be replaced by a related one.
section Reordered

variable {α β : Type} (related : α → α → Prop)

def Reordered (left right : List α) : Prop := ∃ middle, left.Perm middle ∧ List.Forall₂ related middle right

variable {related} {left right : List α}

theorem Reordered.symm (symmetric : ∀ first second, related first second → related second first)
    (reordered : Reordered related left right) : Reordered related right left := by
  obtain ⟨middle, perm, pairs⟩ := reordered
  have back : List.Forall₂ related right middle := pairs.flip.imp fun first second => symmetric second first
  have composed : Relation.Comp (List.Forall₂ related) List.Perm right left := ⟨middle, back, perm.symm⟩
  rw [List.forall₂_comp_perm_eq_perm_comp_forall₂] at composed
  exact composed

theorem Reordered.exists_left (reordered : Reordered related left right) (item : α) (member : item ∈ right) :
    ∃ other ∈ left, related other item := by
  obtain ⟨middle, perm, pairs⟩ := reordered
  obtain ⟨position, bound, rfl⟩ := List.mem_iff_getElem.mp member
  have bound' : position < middle.length := by rw [pairs.length_eq]; exact bound
  exact ⟨middle[position], perm.mem_iff.mpr (List.getElem_mem bound'), pairs.get bound' bound⟩

theorem Reordered.map_perm (reordered : Reordered related left right) (f : α → β)
    (agrees : ∀ first second, related first second → f first = f second) : (left.map f).Perm (right.map f) := by
  obtain ⟨middle, perm, pairs⟩ := reordered
  have same : middle.map f = right.map f := by
    rw [← List.forall₂_eq_eq_eq, List.forall₂_map_left_iff, List.forall₂_map_right_iff]
    exact pairs.imp agrees
  exact same ▸ perm.map f

theorem reordered_of_map {f : α → α} (keeps : ∀ item, related item (f item)) (perm : (left.map f).Perm right) :
    Reordered related left right := by
  have pairs : Relation.Comp (List.Forall₂ related) List.Perm left right :=
    ⟨left.map f, List.forall₂_map_right_iff.mpr (List.forall₂_same.mpr fun item _ => keeps item), perm⟩
  rw [List.forall₂_comp_perm_eq_perm_comp_forall₂] at pairs
  exact pairs

end Reordered

-- A sort whose keys tell the items apart does not see the order it starts from.
theorem sort_eq_of_perm {α κ : Type} [LinearOrder κ] (key : α → κ) (left right : List α) (perm : left.Perm right)
    (distinct : ∀ first ∈ left, ∀ second ∈ left, key first = key second → first = second) :
    left.insertionSort (byKey key) = right.insertionSort (byKey key) := by
  have leftPerm := List.perm_insertionSort (byKey key) left
  have rightPerm := List.perm_insertionSort (byKey key) right
  refine (leftPerm.trans (perm.trans rightPerm.symm)).eq_of_pairwise ?_ (List.pairwise_insertionSort _ _) (List.pairwise_insertionSort _ _)
  intro first second inLeft inRight below above
  exact distinct first (leftPerm.mem_iff.mp inLeft) second (perm.mem_iff.mpr (rightPerm.mem_iff.mp inRight)) (le_antisymm below above)

theorem eq_of_perm_of_keys {α κ : Type} (key : α → κ) (left right : List α) (perm : left.Perm right)
    (sameKeys : left.map key = right.map key) (distinct : (left.map key).Nodup) : left = right := by
  refine List.ext_getElem perm.length_eq fun position inLeft inRight => ?_
  have keyed : key left[position] = key right[position] := by
    rw [← List.getElem_map key, ← List.getElem_map key]
    · simp only [sameKeys]
    · rwa [List.length_map]
    · rwa [List.length_map]
  exact List.inj_on_of_nodup_map distinct (List.getElem_mem inLeft) (perm.mem_iff.mpr (List.getElem_mem inRight)) keyed

end PiAutopilot.Lib
