import Mathlib.Data.Set.Card

set_option autoImplicit false

namespace PiAutopilot.Lib

variable {κ V : Type} [Finite κ] [DecidableEq κ]

-- How many keys of a finite map hold a value that passes the test.
noncomputable def countWhere (test : V → Bool) (contents : κ → Option V) : Nat := Set.ncard { key | (contents key).any test }

omit [DecidableEq κ] in
theorem ncard_split (keys : Set κ) (key : κ) (present : Bool) (isMember : present = true ↔ key ∈ keys) :
    keys.ncard = (keys \ {key}).ncard + (if present then 1 else 0) := by
  by_cases member : key ∈ keys
  · rw [if_pos (isMember.mpr member), Set.ncard_sdiff_singleton_add_one member keys.toFinite]
  · rw [if_neg fun isTrue => member (isMember.mp isTrue), Set.sdiff_singleton_eq_self member, Nat.add_zero]

theorem count_where_update (test : V → Bool) (contents : κ → Option V) (key : κ) (next : Option V) :
    countWhere test (Function.update contents key next) + (if (contents key).any test then 1 else 0) =
      countWhere test contents + (if next.any test then 1 else 0) := by
  have elsewhere : { key' | (Function.update contents key next key').any test } \ {key} = { key' | (contents key').any test } \ {key} := by
    ext key'
    by_cases same : key' = key
    · simp [same]
    · simp [same]
  rw [countWhere, countWhere, ncard_split _ key (next.any test) (by simp),
    ncard_split { key' | (contents key').any test } key ((contents key).any test) (by simp), elsewhere]
  omega

omit [DecidableEq κ] in
theorem count_where_zero (test : V → Bool) (contents : κ → Option V) (empty : countWhere test contents = 0) (key : κ)
    (value : V) (stored : contents key = some value) : test value = false := by
  have noKey := (Set.ncard_eq_zero (Set.toFinite _)).mp empty
  by_contra fails
  have passes : test value = true := by
    simpa using fails
  have member : key ∈ { key | (contents key).any test } := by
    simp [stored, passes]
  rw [noKey] at member
  exact member

omit [DecidableEq κ] in
theorem count_where_pos {test : V → Bool} {contents : κ → Option V} {key : κ} {value : V} (stored : contents key = some value)
    (passes : test value = true) : 0 < countWhere test contents := by
  by_contra notPositive
  have fails := count_where_zero test contents (by omega) key value stored
  rw [passes] at fails
  cases fails

omit [Finite κ] [DecidableEq κ] in
theorem count_where_empty {test : V → Bool} : countWhere test (fun _ : κ => none) = 0 := by
  simp [countWhere]

end PiAutopilot.Lib
