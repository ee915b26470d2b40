import Mathlib.Data.List.Sort
import Mathlib.Data.List.Nodup
import Mathlib.Tactic

set_option autoImplicit false

namespace PiAutopilot.Lib

-- Association lists sorted by key. When the keys are distinct the sorted list
-- is a canonical form: it depends only on which entries are present.
section KeySort

variable {κ α β : Type} [LinearOrder κ]

def KeyLe (left right : κ × α) : Prop := left.1 ≤ right.1

instance : DecidableRel (KeyLe : κ × α → κ × α → Prop) :=
  fun left right => inferInstanceAs (Decidable (left.1 ≤ right.1))

instance : Std.Total (KeyLe : κ × α → κ × α → Prop) :=
  ⟨fun left right => le_total left.1 right.1⟩

instance : IsTrans (κ × α) KeyLe :=
  ⟨fun _ _ _ first second => le_trans first second⟩

def sortByKey (entries : List (κ × α)) : List (κ × α) := entries.insertionSort KeyLe

theorem sort_by_key_perm (entries : List (κ × α)) : (sortByKey entries).Perm entries := entries.perm_insertionSort KeyLe

theorem sort_by_key_sorted {entries : List (κ × α)} : (sortByKey entries).Pairwise KeyLe := entries.pairwise_insertionSort KeyLe

@[simp] theorem mem_sort_by_key (entries : List (κ × α)) (entry : κ × α) : entry ∈ sortByKey entries ↔ entry ∈ entries :=
  (sort_by_key_perm entries).mem_iff

end KeySort

end PiAutopilot.Lib
