import Mathlib.Data.List.Nodup
import Mathlib.Tactic

set_option autoImplicit false

namespace PiAutopilot.Lib

-- Association lists with at most one entry per key: own properties of an
-- object, or the entries of a map in insertion order.
section Assoc

variable {κ α : Type} [DecidableEq κ]

def hasOwn (fields : List (κ × α)) (key : κ) : Bool := fields.any fun field => field.1 == key

def getOwn (fields : List (κ × α)) (key : κ) : Option α := fields.lookup key

def setOwn (fields : List (κ × α)) (key : κ) (value : α) : List (κ × α) :=
  match fields with
  | [] => [(key, value)]
  | field :: rest => if field.1 = key then (key, value) :: rest else field :: setOwn rest key value

theorem mem_of_get_own {fields : List (κ × α)} {key : κ} {value : α} (found : getOwn fields key = some value) : (key, value) ∈ fields := by
  induction fields with
  | nil => simp [getOwn] at found
  | cons first rest ih =>
    obtain ⟨firstKey, firstValue⟩ := first
    by_cases same : key = firstKey
    · subst same
      simp only [getOwn, List.lookup_cons_self, Option.some.injEq] at found
      simp [← found]
    · rw [getOwn, List.lookup_cons, beq_false_of_ne same] at found
      exact List.mem_cons_of_mem _ (ih found)

theorem get_own_iff {fields : List (κ × α)} (distinct : (fields.map Prod.fst).Nodup)
    (key : κ) (value : α) : getOwn fields key = some value ↔ (key, value) ∈ fields := by
  refine ⟨mem_of_get_own, fun member => ?_⟩
  cases found : getOwn fields key with
  | none =>
    have absent := List.lookup_eq_none_iff.mp found (key, value) member
    simp at absent
  | some other =>
    have same : (key, other) = (key, value) := List.inj_on_of_nodup_map distinct (mem_of_get_own found) member rfl
    exact congrArg some (Prod.ext_iff.mp same).2

theorem get_own_set_own (fields : List (κ × α)) (key other : κ) (value : α) :
    getOwn (setOwn fields key value) other = if other = key then some value else getOwn fields other := by
  induction fields with
  | nil =>
    by_cases same : other = key
    · simp [setOwn, getOwn, same]
    · simp [setOwn, getOwn, same, List.lookup_cons, beq_false_of_ne same]
  | cons first rest ih =>
    obtain ⟨firstKey, firstValue⟩ := first
    simp only [getOwn] at ih ⊢
    by_cases replaced : firstKey = key
    · subst replaced
      rw [setOwn]
      by_cases same : other = firstKey
      · simp [same]
      · simp [List.lookup_cons, beq_false_of_ne same, same]
    · rw [setOwn, if_neg replaced]
      by_cases found : other = firstKey
      · subst found
        simp [replaced]
      · rw [List.lookup_cons, List.lookup_cons, beq_false_of_ne found]
        exact ih

/-! Items held under a key of their own. -/

theorem get_own_fold (value : κ → α) (keys : List κ) (fields : List (κ × α)) (key : κ) :
    getOwn (keys.foldl (fun fields key => setOwn fields key (value key)) fields) key =
      if key ∈ keys then some (value key) else getOwn fields key := by
  induction keys generalizing fields with
  | nil => simp
  | cons first rest ih =>
    rw [List.foldl_cons, ih, get_own_set_own]
    by_cases later : key ∈ rest
    · simp [later]
    · by_cases same : key = first
      · simp [same]
      · simp [later, same]

theorem get_own_isSome (fields : List (κ × α)) (key : κ) : (getOwn fields key).isSome ↔ key ∈ fields.map Prod.fst := by
  induction fields with
  | nil => simp [getOwn]
  | cons first rest ih =>
    obtain ⟨firstKey, firstValue⟩ := first
    simp only [getOwn, List.map_cons, List.mem_cons] at ih ⊢
    by_cases same : key = firstKey
    · simp [same]
    · simp [List.lookup_cons, beq_false_of_ne same, same, ih]

end Assoc

end PiAutopilot.Lib
