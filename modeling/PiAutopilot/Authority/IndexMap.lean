import PiAutopilot.Authority.Index
import PiAutopilot.Lib.MapCount

set_option autoImplicit false

namespace PiAutopilot.Authority

open Lib Protocol

structure SparseCollisionFree [SparseHashing] : Prop where
  node : ∀ left right left' right', sparseNodeDigest left right = sparseNodeDigest left' right' →
    left = left' ∧ right = right'
  present : ∀ key value key' value', sparsePresentLeafDigest key value = sparsePresentLeafDigest key' value' →
    key = key' ∧ value = value'
  separated : ∀ key value, sparsePresentLeafDigest key value ≠ sparseEmptyLeafDigest

structure CollisionFree (V : Type) [SparseHashing] [ValueHashing V] : Prop where
  sparse : SparseCollisionFree
  value : Function.Injective (indexValueDigest : V → Digest)

theorem subtract_one_value {value : DecimalNatural} (positive : 0 < value.value) : subtractOne value = some (.ofNat (value.value - 1)) := by
  have different : compareDecimalNatural value (.ofNat 0) ≠ .equal := by
    rw [compare_decimal_natural, value_of_nat, if_neg (Nat.not_lt_zero _), if_neg (Nat.ne_of_gt positive)]
    decide
  rw [subtractOne, if_neg different, lowered_by_one_value value positive]

theorem subtract_one_zero {value : DecimalNatural} (zero : value.value = 0) : subtractOne value = none := by
  have equal : compareDecimalNatural value (.ofNat 0) = .equal := by
    rw [compare_decimal_natural, value_of_nat, zero, if_neg (Nat.lt_irrefl 0), if_pos rfl]
  rw [subtractOne, if_pos equal]

-- Every operation is the one on the values, and the decoders of the increment and the sum answer with what is
-- returned, so that neither falls back on its argument.
theorem decimal_arithmetic_exact (left right : DecimalNatural) : (compareDecimalNatural left right =
      if left.value < right.value then .less else if left.value = right.value then .equal else .greater) ∧
    ((incrementDecimalNatural left).value = left.value + 1 ∧
      decimalNatural (carryOne left.text.reverse).reverse = some (incrementDecimalNatural left)) ∧
    ((addDecimalNatural left right).value = left.value + right.value ∧
      decimalNatural (addReversed 0 left.text.reverse right.text.reverse).reverse = some (addDecimalNatural left right)) ∧
    (decrementDecimalNatural left).map DecimalNatural.value = (if left.value = 0 then none else some (left.value - 1)) ∧
    (subtractOne left).map DecimalNatural.value = (if left.value = 0 then none else some (left.value - 1)) := by
  refine ⟨compare_decimal_natural left right, ⟨increment_value left, ?_⟩, ⟨add_value left right, ?_⟩, ?_, ?_⟩
  · rw [carried_decodes, increment_of_nat]
  · rw [added_decodes, add_of_nat]
  · rw [decrement_value]
    split
    · rfl
    · rw [Option.map_some, value_of_nat]
  · split
    · rename_i zero
      rw [subtract_one_zero zero, Option.map_none]
    · rename_i positive
      rw [subtract_one_value (Nat.pos_of_ne_zero positive), Option.map_some, value_of_nat]

theorem within_hot_iff (count : Nat) :
    compareDecimalNatural (.ofNat count) (.ofNat maxHotIndexValues) ≠ .greater ↔ count ≤ maxHotIndexValues := by
  rw [compare_decimal_natural, value_of_nat]
  by_cases less : count < maxHotIndexValues
  · simp [less, Nat.le_of_lt less]
  · by_cases equal : count = maxHotIndexValues
    · simp [equal]
    · simp [less, equal]
      omega

section Count

variable {V : Type}

noncomputable def mapCount (contents : Key → Option V) : Nat := countWhere (fun _ => true) contents

theorem any_is_some (value : Option V) : value.any (fun _ => true) = value.isSome := by
  cases value with
  | none => rfl
  | some held => rfl

theorem map_count_is_ncard {contents : Key → Option V} : mapCount contents = Set.ncard { key | (contents key).isSome } := by
  rw [mapCount, countWhere]
  simp only [any_is_some]

theorem map_count_update (contents : Key → Option V) (key : Key) (next : Option V) :
    mapCount (Function.update contents key next) + (if (contents key).isSome then 1 else 0) =
      mapCount contents + (if next.isSome then 1 else 0) := by
  have updated := count_where_update (fun _ => true) contents key next
  exact updated

-- The counter never underflows: a removed key was counted.
theorem mutated_count_value {count : DecimalNatural} {contents : Key → Option V} (counted : count.value = mapCount contents)
    (key : Key) (next : Option V) :
    mutatedCount count (contents key) next = some (.ofNat (mapCount (Function.update contents key next))) := by
  have updated := map_count_update contents key next
  rw [mutatedCount]
  cases prior : contents key with
  | none =>
    cases next with
    | none =>
      simp only [prior, Option.isSome_none, Bool.false_eq_true, if_false, Nat.add_zero] at updated
      simp [updated, ← counted]
    | some value =>
      simp only [prior, Option.isSome_none, Bool.false_eq_true, if_false, Nat.add_zero, Option.isSome_some, if_true] at updated
      simp only [Option.isNone_none, Option.isSome_some, Bool.and_self, if_true, Option.some_inj]
      refine decimal_value_injective _ _ ?_
      rw [add_value, value_of_nat, value_of_nat, updated, counted]
  | some old =>
    cases next with
    | none =>
      simp only [prior, Option.isSome_none, Bool.false_eq_true, if_false, Nat.add_zero, Option.isSome_some, if_true] at updated
      simp only [Option.isNone_some, Option.isSome_none, Bool.and_self, Bool.false_eq_true, if_false, Option.isSome_some,
        Option.isNone_none, if_true]
      rw [subtract_one_value (by omega), counted, ← updated, Nat.add_sub_cancel]
    | some value =>
      simp only [prior, Option.isSome_some, if_true, Nat.add_right_cancel_iff] at updated
      simp [updated, ← counted]

end Count

section Map

variable [SparseHashing] {V : Type} [ValueHashing V] (contents : Key → Option V)

-- The leaf that a map puts at each of the 2^256 paths.
noncomputable def mapLeaf : List Bool → Digest :=
  Function.extend keyBits (fun key => leafDigest key ((contents key).map indexValueDigest)) fun _ => emptyLeaf

noncomputable def mapRoot : Digest := treeRoot sparseNodeDigest sparseProofDepth (mapLeaf contents)

variable (key : Key)

theorem map_leaf_key : mapLeaf contents (keyBits key) = leafDigest key ((contents key).map indexValueDigest) :=
  key_bits_injective.extend_apply _ _ key

theorem map_leaf_update (next : Option V) : mapLeaf (Function.update contents key next) =
      Function.update (mapLeaf contents) (keyBits key) (leafDigest key (next.map indexValueDigest)) := by
  funext bits
  by_cases isKey : ∃ key', keyBits key' = bits
  · obtain ⟨key', rfl⟩ := isKey
    rw [map_leaf_key]
    by_cases same : key' = key
    · subst same
      rw [Function.update_self, Function.update_self]
    · rw [Function.update_of_ne same, Function.update_of_ne (key_bits_injective.ne same), map_leaf_key]
  · have different : bits ≠ keyBits key := fun same => isKey ⟨key, same.symm⟩
    rw [Function.update_of_ne different, mapLeaf, mapLeaf, Function.extend_apply' _ _ _ isKey, Function.extend_apply' _ _ _ isKey]

theorem map_leaf_empty : mapLeaf (fun _ => (none : Option V)) = fun _ => emptyLeaf := by
  funext bits
  by_cases isKey : ∃ key, keyBits key = bits
  · obtain ⟨key, rfl⟩ := isKey
    exact map_leaf_key _ key
  · exact Function.extend_apply' _ _ _ isKey

theorem map_root_empty : mapRoot (fun _ => (none : Option V)) = emptyRoot := by
  rw [mapRoot, map_leaf_empty, tree_root_default]
  rfl

theorem leaf_digest_injective (collisionFree : SparseCollisionFree) {key : Key} {left right : Option Digest}
    (same : leafDigest key left = leafDigest key right) : left = right := by
  cases left with
  | none =>
    cases right with
    | none => rfl
    | some right => exact (collisionFree.separated key right same.symm).elim
  | some left =>
    cases right with
    | none => exact (collisionFree.separated key left same).elim
    | some right => rw [(collisionFree.present key left key right same).2]

noncomputable def mapPath : List Digest := siblingPath sparseNodeDigest (keyBits key) (mapLeaf contents)

theorem map_path_length : (mapPath contents key).length = sparseProofDepth := by
  rw [mapPath, sibling_path_length, key_bits_length]
  rfl

-- Climbing the map's own path from a new leaf gives the root of the updated map.
theorem sparse_root_map_path (next : Option V) : sparseRoot key (next.map indexValueDigest) (mapPath contents key) =
      some (mapRoot (Function.update contents key next)) := by
  have climbed := climb_sibling_path sparseNodeDigest (keyBits key) (mapLeaf contents) (leafDigest key (next.map indexValueDigest))
  rw [key_bits_length] at climbed
  rw [sparseRoot, if_neg (not_not_intro (map_path_length contents key)), mapPath, climbed, mapRoot, map_leaf_update]
  rfl

theorem sparse_root_binds (collisionFree : SparseCollisionFree) {contents : Key → Option V} {key : Key}
    {valueDigest : Option Digest} {siblings : List Digest}
    (binds : sparseRoot key valueDigest siblings = some (mapRoot contents)) :
    valueDigest = (contents key).map indexValueDigest ∧ siblings = mapPath contents key := by
  rw [sparseRoot] at binds
  by_cases depth : siblings.length ≠ sparseProofDepth
  · rw [if_pos depth] at binds
    cases binds
  · rw [if_neg depth, Option.some_inj] at binds
    have sameLength : siblings.length = (keyBits key).length := by
      rw [key_bits_length]
      exact not_not.mp depth
    have reaches : climb sparseNodeDigest (keyBits key).reverse siblings (leafDigest key valueDigest) =
        treeRoot sparseNodeDigest (keyBits key).length (mapLeaf contents) := by
      rw [key_bits_length]
      exact binds
    obtain ⟨leaf, path⟩ := climb_binds sparseNodeDigest collisionFree.node (keyBits key) siblings _ _ sameLength reaches
    rw [map_leaf_key] at leaf
    exact ⟨leaf_digest_injective collisionFree leaf, path⟩

theorem map_digest_injective (collisionFree : CollisionFree V) {left right : Option V}
    (same : left.map indexValueDigest = right.map indexValueDigest) : left = right :=
  Option.map_injective collisionFree.value same

variable (state : AuthenticatedIndexState V) (contents : Key → Option V) (key : Key) (next : Option V)
  {pages : List (ResolvedIndexPage V)} {witness : SparseWitness V}

theorem lookup_pages_spec (found : lookupPages state key pages = some witness) :
    witness.key = key ∧ witnessRoot witness = some state.root := by
  induction pages with
  | nil => cases found
  | cons page rest ih =>
    rw [lookupPages] at found
    by_cases skipped : page.index ≠ state.name ∨ page.root ≠ state.root ∨ page.witnesses.length > maxHotIndexValues
    · rw [if_pos skipped] at found
      exact ih found
    · rw [if_neg skipped] at found
      cases first : page.witnesses.find? fun entry => entry.key = key with
      | none =>
        rw [first] at found
        exact ih found
      | some entry =>
        simp only [first] at found
        by_cases binds : witnessRoot entry = some state.root
        · rw [if_pos binds, Option.some_inj] at found
          subst found
          have matched := List.find?_some first
          exact ⟨of_decide_eq_true matched, binds⟩
        · rw [if_neg binds] at found
          exact ih found

theorem lookup_hot_spec (found : lookupHot state key = some witness) : witness.key = key ∧ witnessRoot witness = some state.root := by
  rw [lookupHot] at found
  cases first : state.hot.find? fun entry => entry.1 = key with
  | none =>
    rw [first] at found
    cases found
  | some entry =>
    simp only [first, Option.ite_none_right_eq_some, Option.some_inj] at found
    obtain ⟨binds, rfl⟩ := found
    exact ⟨rfl, binds⟩

theorem lookup_absent_spec (found : lookupAbsent state key = some witness) : witness.key = key ∧ witnessRoot witness = some state.root := by
  simp only [lookupAbsent, Option.ite_none_right_eq_some, Option.some_inj] at found
  obtain ⟨binds, rfl⟩ := found
  exact ⟨rfl, binds⟩

variable {value prior : Option V} {mutation : IndexMutation}

theorem lookup_proved_spec (proved : lookupIndex state key pages = .proved value witness) :
    witness.key = key ∧ witnessRoot witness = some state.root ∧ witness.value = value := by
  rw [lookupIndex] at proved
  split at proved
  case h_1 found hit =>
    cases proved
    refine (fun spec => ⟨spec.1, spec.2, rfl⟩ : _ ∧ _ → _) ?_
    rw [Option.or_eq_some_iff] at hit
    rcases hit with fromHot | ⟨_, fromPages⟩
    · by_cases complete : state.hotComplete = true
      · rw [if_pos complete, Option.or_eq_some_iff] at fromHot
        rcases fromHot with present | ⟨_, absent⟩
        · exact lookup_hot_spec state key present
        · exact lookup_absent_spec state key absent
      · rw [if_neg complete] at fromHot
        cases fromHot
    · exact lookup_pages_spec state key fromPages
  case h_2 => cases proved

-- Whatever the pages hold, a proved value is the map's value and its path is the map's path.
theorem lookup_sound (collisionFree : CollisionFree V) {state : AuthenticatedIndexState V} {contents : Key → Option V}
    (represented : state.root = mapRoot contents) {key : Key} (proved : lookupIndex state key pages = .proved value witness) :
    value = contents key ∧ witness.siblings = mapPath contents key := by
  obtain ⟨rfl, binds, rfl⟩ := lookup_proved_spec state key proved
  rw [represented] at binds
  obtain ⟨digest, path⟩ := sparse_root_binds collisionFree.sparse binds
  exact ⟨map_digest_injective collisionFree digest, path⟩

structure Represents (state : AuthenticatedIndexState V) (contents : Key → Option V) : Prop where
  root : state.root = mapRoot contents
  count : state.count.value = mapCount contents

theorem initial_represents {name : IndexName} : Represents (initialAuthenticatedIndex name) fun _ => (none : Option V) where
  root := map_root_empty.symm
  count := by
    rw [initialAuthenticatedIndex, value_of_nat, mapCount, count_where_empty]

def hotPage (count : Nat) (retained : List (Key × V)) : List (Key × V) :=
  if count ≤ maxHotIndexValues then retained else retained.drop (retained.length - maxHotIndexValues)

noncomputable def mutated : AuthenticatedIndexState V where
  name := state.name
  root := mapRoot (Function.update contents key next)
  count := .ofNat (mapCount (Function.update contents key next))
  hotComplete := decide (mapCount (Function.update contents key next) ≤ maxHotIndexValues)
  hot := hotPage (mapCount (Function.update contents key next)) (retainedHot state.hot key next)

noncomputable def preparedMutation : IndexMutation where
  index := state.name
  key := key
  nextValueDigest := next.map indexValueDigest
  priorValueDigest := (contents key).map indexValueDigest
  siblings := mapPath contents key

theorem prepare_sound (collisionFree : CollisionFree V) {state : AuthenticatedIndexState V} {contents : Key → Option V}
    (represented : state.root = mapRoot contents) {key : Key} {next : Option V}
    (prepared : prepareIndexMutation state key next pages = .prepared mutation prior) :
    mutation = preparedMutation state contents key next ∧ prior = contents key := by
  rw [prepareIndexMutation] at prepared
  cases found : lookupIndex state key pages with
  | unproven diagnostic => simp [found] at prepared
  | proved value witness =>
    obtain ⟨rfl, path⟩ := lookup_sound collisionFree represented found
    simp only [found, MutationPreparation.prepared.injEq] at prepared
    obtain ⟨rfl, rfl⟩ := prepared
    rw [path]
    exact ⟨rfl, rfl⟩

theorem represented_root : sparseRoot key ((contents key).map indexValueDigest) (mapPath contents key) = some (mapRoot contents) := by
  rw [sparse_root_map_path, Function.update_eq_self]

theorem map_root_injective (collisionFree : CollisionFree V) (left right : Key → Option V) (same : mapRoot left = mapRoot right) :
    left = right := by
  funext key
  have binds := represented_root left key
  rw [same] at binds
  exact map_digest_injective collisionFree (sparse_root_binds collisionFree.sparse binds).1

theorem apply_prepared (represented : Represents state contents) (key : Key) (next : Option V) :
    applyIndexMutation state (preparedMutation state contents key next) (contents key) next =
      .applied (mutated state contents key next) := by
  have named : ¬((preparedMutation state contents key next).index ≠ state.name ∨
      (preparedMutation state contents key next).siblings.length ≠ sparseProofDepth) := by
    rintro (wrongName | wrongDepth)
    · exact wrongName rfl
    · exact wrongDepth (map_path_length contents key)
  rw [applyIndexMutation, if_neg named]
  simp only [preparedMutation, sparse_root_map_path, Function.update_eq_self, represented.root,
    mutated_count_value represented.count, within_hot_iff, mutated, hotPage]
  simp

theorem mutated_represents : Represents (mutated state contents key next) (Function.update contents key next) where
  root := rfl
  count := value_of_nat _

theorem mutation_step (collisionFree : CollisionFree V) {state after : AuthenticatedIndexState V} {contents : Key → Option V}
    (represented : Represents state contents) {key : Key} {next : Option V}
    (prepared : prepareIndexMutation state key next pages = .prepared mutation prior)
    (applied : applyIndexMutation state mutation prior next = .applied after) :
    prior = contents key ∧ after = mutated state contents key next := by
  obtain ⟨rfl, rfl⟩ := prepare_sound collisionFree represented.root prepared
  rw [apply_prepared state contents represented key next, MutationApplication.applied.injEq] at applied
  exact ⟨rfl, applied.symm⟩

end Map

end PiAutopilot.Authority
