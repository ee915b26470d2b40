import PiAutopilot.Lib.Assoc

set_option autoImplicit false

namespace PiAutopilot.Lib

-- A complete binary hash tree whose leaves are given by a function of the path
-- from the root, and the sibling paths that authenticate single leaves.
section SparseTree

variable {H : Type} (node : H → H → H)

def treeRoot : Nat → (List Bool → H) → H
  | 0, leaf => leaf []
  | depth + 1, leaf =>
    node (treeRoot depth fun bits => leaf (false :: bits)) (treeRoot depth fun bits => leaf (true :: bits))

-- Roots of the subtrees beside the path, from the leaf up.
def siblingPath : List Bool → (List Bool → H) → List H
  | [], _ => []
  | bit :: rest, leaf =>
    siblingPath rest (fun bits => leaf (bit :: bits)) ++ [treeRoot node rest.length fun bits => leaf ((!bit) :: bits)]

-- The root obtained by hashing upwards, with the bits in the same order as the siblings.
def climb : List Bool → List H → H → H
  | [], _, current => current
  | _ :: _, [], current => current
  | bit :: bits, sibling :: siblings, current =>
    climb bits siblings (if bit then node sibling current else node current sibling)

def defaultRoot (empty : H) : Nat → H
  | 0 => empty
  | level + 1 => node (defaultRoot empty level) (defaultRoot empty level)

theorem tree_root_default (empty : H) (depth : Nat) : treeRoot node depth (fun _ => empty) = defaultRoot node empty depth := by
  induction depth with
  | zero => rfl
  | succ depth ih => rw [treeRoot, defaultRoot, ih]

@[simp] theorem sibling_path_length (bits : List Bool) (leaf : List Bool → H) : (siblingPath node bits leaf).length = bits.length := by
  induction bits generalizing leaf with
  | nil => rfl
  | cons bit rest ih => rw [siblingPath, List.length_append, ih, List.length_singleton, List.length_cons]

theorem climb_append (bits : List Bool) (siblings : List H) (bit : Bool) (sibling current : H)
    (sameLength : siblings.length = bits.length) :
    climb node (bits ++ [bit]) (siblings ++ [sibling]) current =
      if bit then node sibling (climb node bits siblings current) else node (climb node bits siblings current) sibling := by
  induction bits generalizing siblings current with
  | nil =>
    obtain rfl : siblings = [] := List.length_eq_zero_iff.mp sameLength
    rfl
  | cons first bits ih =>
    cases siblings with
    | nil => cases sameLength
    | cons top siblings =>
      rw [List.cons_append, List.cons_append, climb, ih siblings _ (Nat.succ.inj sameLength), climb]

theorem tree_root_cons (bit : Bool) (depth : Nat) (leaf : List Bool → H) : treeRoot node (depth + 1) leaf =
      if bit then node (treeRoot node depth fun bits => leaf ((!bit) :: bits)) (treeRoot node depth fun bits => leaf (bit :: bits))
      else node (treeRoot node depth fun bits => leaf (bit :: bits)) (treeRoot node depth fun bits => leaf ((!bit) :: bits)) := by
  cases bit <;> rfl

theorem climb_injective (injective : ∀ a b c d, node a b = node c d → a = c ∧ b = d) (bits : List Bool) (siblings : List H)
    (left right : H) (same : climb node bits siblings left = climb node bits siblings right) : left = right := by
  induction bits generalizing siblings left right with
  | nil => exact same
  | cons bit rest ih =>
    cases siblings with
    | nil => exact same
    | cons sibling siblings =>
      have parents := ih siblings _ _ same
      cases bit with
      | true => exact (injective _ _ _ _ parents).2
      | false => exact (injective _ _ _ _ parents).1

-- A path that hashes up to the root carries the leaf that is there and its true siblings.
theorem climb_binds (injective : ∀ a b c d, node a b = node c d → a = c ∧ b = d) (bits : List Bool) (siblings : List H)
    (current : H) (leaf : List Bool → H) (sameLength : siblings.length = bits.length)
    (reaches : climb node bits.reverse siblings current = treeRoot node bits.length leaf) :
    current = leaf bits ∧ siblings = siblingPath node bits leaf := by
  induction bits generalizing siblings leaf with
  | nil =>
    obtain rfl : siblings = [] := List.length_eq_zero_iff.mp sameLength
    exact ⟨reaches, rfl⟩
  | cons bit rest ih =>
    rcases List.eq_nil_or_concat siblings with rfl | ⟨init, sibling, rfl⟩
    · cases sameLength
    · have initLength : init.length = rest.length := by simpa using sameLength
      rw [List.reverse_cons, List.concat_eq_append, climb_append node _ _ _ _ _ (by simpa using initLength),
        List.length_cons, tree_root_cons node bit] at reaches
      have parts : sibling = treeRoot node rest.length (fun bits => leaf ((!bit) :: bits)) ∧
          climb node rest.reverse init current = treeRoot node rest.length fun bits => leaf (bit :: bits) := by
        cases bit with
        | true => exact injective _ _ _ _ reaches
        | false => exact (injective _ _ _ _ reaches).symm
      obtain ⟨atLeaf, inner⟩ := ih init (fun bits => leaf (bit :: bits)) initLength parts.2
      exact ⟨atLeaf, by rw [List.concat_eq_append, siblingPath, ← inner, ← parts.1]⟩

theorem climb_sibling_path (bits : List Bool) (leaf : List Bool → H) (current : H) :
    climb node bits.reverse (siblingPath node bits leaf) current = treeRoot node bits.length (Function.update leaf bits current) := by
  induction bits generalizing leaf with
  | nil => simp [climb, treeRoot]
  | cons bit rest ih =>
    rw [List.reverse_cons, siblingPath, climb_append node _ _ _ _ _ (by simp), ih, List.length_cons, tree_root_cons node bit]
    have inside : (fun bits => Function.update leaf (bit :: rest) current (bit :: bits)) =
        Function.update (fun bits => leaf (bit :: bits)) rest current := by
      funext bits
      by_cases same : bits = rest
      · subst same
        rw [Function.update_self, Function.update_self]
      · rw [Function.update_of_ne (fun equal => same (List.cons.inj equal).2), Function.update_of_ne same]
    have outside : (fun bits => Function.update leaf (bit :: rest) current ((!bit) :: bits)) = fun bits => leaf ((!bit) :: bits) := by
      funext bits
      refine Function.update_of_ne (fun equal => ?_) _ _
      have flipped := (List.cons.inj equal).1
      cases bit <;> cases flipped
    rw [inside, outside]

-- One level of a tree that stores only the paths below which something is present.
def parentLevel (empty : H) (current : List (List Bool × H)) : List (List Bool × H) :=
  ((current.map fun entry => entry.1.dropLast).eraseDups).foldl
    (fun parents path => setOwn parents path
      (node ((getOwn current (path ++ [false])).getD empty) ((getOwn current (path ++ [true])).getD empty))) []

def levelMap (empty : H) (leaves : List (List Bool × H)) : Nat → List (List Bool × H)
  | 0 => leaves
  | level + 1 => parentLevel node (defaultRoot node empty level) (levelMap empty leaves level)

theorem get_own_parent_level (empty : H) (current : List (List Bool × H)) (path : List Bool) :
    getOwn (parentLevel node empty current) path =
      if path ∈ current.map (fun entry => entry.1.dropLast) then
        some (node ((getOwn current (path ++ [false])).getD empty) ((getOwn current (path ++ [true])).getD empty))
      else none := by
  rw [parentLevel, get_own_fold]
  simp only [List.mem_eraseDups]
  rfl

theorem absent_child {current : List (List Bool × H)} {path : List Bool} {bit : Bool}
    (absent : path ∉ current.map fun entry => entry.1.dropLast) : getOwn current (path ++ [bit]) = none := by
  by_contra present
  obtain ⟨entry, member, same⟩ := List.mem_map.mp ((get_own_isSome current (path ++ [bit])).mp (Option.isSome_iff_ne_none.mpr present))
  exact absent (List.mem_map.mpr ⟨entry, member, by rw [same, List.dropLast_concat]⟩)

-- Every level holds the roots of the subtrees it stands for, absent ones being empty.
theorem level_map_roots (empty : H) (leaves : List (List Bool × H)) {leaf : List Bool → H} (depth : Nat)
    (present : ∀ bits, bits.length = depth → (getOwn leaves bits).getD empty = leaf bits) (level : Nat)
    (path : List Bool) (length : path.length + level = depth) :
    (getOwn (levelMap node empty leaves level) path).getD (defaultRoot node empty level) =
      treeRoot node level fun bits => leaf (path ++ bits) := by
  induction level generalizing path with
  | zero =>
    rw [levelMap, treeRoot, List.append_nil]
    exact present path length
  | succ level ih =>
    have children : ∀ bit, (getOwn (levelMap node empty leaves level) (path ++ [bit])).getD (defaultRoot node empty level) =
        treeRoot node level fun bits => leaf (path ++ bit :: bits) := by
      intro bit
      rw [ih (path ++ [bit]) (by simp; omega)]
      simp
    rw [levelMap, get_own_parent_level, treeRoot, ← children false, ← children true]
    by_cases stored : path ∈ (levelMap node empty leaves level).map fun entry => entry.1.dropLast
    · rw [if_pos stored]
      rfl
    · rw [if_neg stored, absent_child stored, absent_child stored]
      rfl

def siblingOf (bits : List Bool) (level : Nat) : List Bool :=
  let path := bits.take (bits.length - level)
  path.dropLast ++ [!(path.getLast? == some true)]

theorem sibling_of_length (bits : List Bool) (level : Nat) (inside : level < bits.length) :
    (siblingOf bits level).length = bits.length - level := by
  rw [siblingOf, List.length_append, List.length_dropLast, List.length_take, List.length_singleton]
  omega

theorem sibling_of_cons {bit : Bool} {rest : List Bool} {level : Nat} (inside : level < rest.length) :
    siblingOf (bit :: rest) level = bit :: siblingOf rest level := by
  obtain ⟨count, more⟩ : ∃ count, rest.length - level = count + 1 := ⟨rest.length - level - 1, by omega⟩
  have outer : (bit :: rest).length - level = count + 1 + 1 := by
    rw [List.length_cons]
    omega
  cases rest with
  | nil => simp at inside
  | cons first others =>
    rw [siblingOf, siblingOf, more, outer]
    simp

theorem sibling_path_levels (bits : List Bool) (leaf : List Bool → H) : siblingPath node bits leaf =
      (List.range bits.length).map fun level => treeRoot node level fun rest => leaf (siblingOf bits level ++ rest) := by
  induction bits generalizing leaf with
  | nil => rfl
  | cons bit rest ih =>
    rw [siblingPath, ih, List.length_cons, List.range_succ, List.map_append]
    congr 1
    · refine List.map_congr_left fun level member => ?_
      rw [sibling_of_cons (List.mem_range.mp member)]
      rfl
    · cases bit <;> simp [siblingOf]

end SparseTree

end PiAutopilot.Lib
