import PiAutopilot.Authority.IndexMap

set_option autoImplicit false

namespace PiAutopilot.Authority

open Lib Protocol

section HotPage

variable [SparseHashing] {V : Type} [ValueHashing V]

-- While nothing is removed, a complete hot page lists the whole map. A removal
-- after an overflow breaks this: the count falls back to 32 but the page has lost
-- entries, and lookups are then left to the pages.
structure HotExact (state : AuthenticatedIndexState V) (contents : Key → Option V) : Prop where
  complete : state.hotComplete = decide (mapCount contents ≤ maxHotIndexValues)
  distinct : (state.hot.map Prod.fst).Nodup
  listed : state.hotComplete = true → ∀ key value, (key, value) ∈ state.hot ↔ contents key = some value

def addLeaf (leaves : List (List Bool × Digest)) (entry : DigestEntry) : List (List Bool × Digest) :=
  setOwn leaves (keyBits entry.key) (sparsePresentLeafDigest entry.key entry.valueDigest)

omit [ValueHashing V] in
theorem get_leaf_other (entries : List DigestEntry) (leaves : List (List Bool × Digest)) (bits : List Bool)
    (absent : ∀ entry ∈ entries, keyBits entry.key ≠ bits) :
    getOwn (entries.foldl addLeaf leaves) bits = getOwn leaves bits := by
  induction entries generalizing leaves with
  | nil => rfl
  | cons entry rest ih =>
    rw [List.foldl_cons, ih _ fun next member => absent next (List.mem_cons_of_mem _ member), addLeaf, get_own_set_own,
      if_neg fun same => absent entry List.mem_cons_self same.symm]

theorem get_leaf_of_mem {entries : List DigestEntry} (leaves : List (List Bool × Digest)) {entry : DigestEntry}
    (distinct : (entries.map DigestEntry.key).Nodup) (member : entry ∈ entries) :
    getOwn (entries.foldl addLeaf leaves) (keyBits entry.key) = some (sparsePresentLeafDigest entry.key entry.valueDigest) := by
  induction entries generalizing leaves with
  | nil => cases member
  | cons first rest ih =>
    rw [List.map_cons, List.nodup_cons] at distinct
    rw [List.foldl_cons]
    rcases List.mem_cons.mp member with rfl | later
    · rw [get_leaf_other, addLeaf, get_own_set_own, if_pos rfl]
      intro next inRest sameBits
      exact distinct.1 (List.mem_map.mpr ⟨next, inRest, key_bits_injective sameBits⟩)
    · exact ih _ distinct.2 later

variable (state : AuthenticatedIndexState V) (contents : Key → Option V)

theorem hot_leaves (exactly : HotExact state contents) (complete : state.hotComplete = true) {bits : List Bool} :
    (getOwn (leavesFor (hotEntries state)) bits).getD emptyLeaf = mapLeaf contents bits := by
  have distinct : ((hotEntries state).map DigestEntry.key).Nodup := by
    rw [hotEntries, List.map_map]
    exact exactly.distinct
  change (getOwn ((hotEntries state).foldl addLeaf []) bits).getD emptyLeaf = _
  by_cases isKey : ∃ key, keyBits key = bits
  · obtain ⟨key, rfl⟩ := isKey
    rw [map_leaf_key]
    cases stored : contents key with
    | some value =>
      have member : (⟨key, indexValueDigest value⟩ : DigestEntry) ∈ hotEntries state :=
        List.mem_map.mpr ⟨(key, value), (exactly.listed complete key value).mpr stored, rfl⟩
      rw [get_leaf_of_mem [] distinct member]
      rfl
    | none =>
      rw [get_leaf_other]
      · rfl
      · intro entry member sameBits
        obtain ⟨⟨key', value⟩, inHot, rfl⟩ := List.mem_map.mp member
        obtain rfl : key' = key := key_bits_injective sameBits
        have present := (exactly.listed complete key' value).mp inHot
        rw [stored] at present
        cases present
  · rw [get_leaf_other, mapLeaf, Function.extend_apply' _ _ _ isKey]
    · rfl
    · intro entry _ sameBits
      exact isKey ⟨entry.key, sameBits⟩

theorem hot_witness (exactly : HotExact state contents) (complete : state.hotComplete = true) (key : Key) (value : Option V) :
    witnessFor (hotEntries state) key value = ⟨key, mapPath contents key, value⟩ := by
  rw [witnessFor, SparseWitness.mk.injEq]
  refine ⟨rfl, ?_, rfl⟩
  rw [mapPath, sibling_path_levels, key_bits_length, sparseProofDepth]
  refine List.map_congr_left fun level inside => ?_
  have length : (siblingOf (keyBits key) level).length + level = 256 := by
    rw [sibling_of_length, key_bits_length]
    · have := List.mem_range.mp inside
      omega
    · rw [key_bits_length]
      exact List.mem_range.mp inside
  exact level_map_roots sparseNodeDigest emptyLeaf _ 256 (fun bits _ => hot_leaves state contents exactly complete) level _ length

theorem lookup_complete
    (represented : state.root = mapRoot contents) (exactly : HotExact state contents) (complete : state.hotComplete = true)
    (key : Key) (pages : List (ResolvedIndexPage V)) :
    lookupIndex state key pages = .proved (contents key) ⟨key, mapPath contents key, contents key⟩ := by
  have binds : witnessRoot ⟨key, mapPath contents key, contents key⟩ = some state.root := by
    rw [witnessRoot, represented_root, represented]
  rw [lookupIndex, if_pos complete]
  cases stored : contents key with
  | some value =>
    obtain ⟨entry, found⟩ : ∃ entry, state.hot.find? (fun entry => entry.1 = key) = some entry := by
      rw [← Option.isSome_iff_exists, List.find?_isSome]
      exact ⟨(key, value), (exactly.listed complete key value).mpr stored, decide_eq_true rfl⟩
    have sameKey : entry.1 = key := by
      have matched := List.find?_some found
      exact of_decide_eq_true matched
    have sameValue : contents entry.1 = some entry.2 := (exactly.listed complete entry.1 entry.2).mp (List.mem_of_find?_eq_some found)
    rw [sameKey, stored] at sameValue
    have hit : lookupHot state key = some ⟨key, mapPath contents key, some value⟩ := by
      rw [stored] at binds
      rw [lookupHot, found]
      simp only [hot_witness state contents exactly complete, ← sameValue, binds, if_true]
    rw [hit]
    rfl
  | none =>
    have missing : lookupHot state key = none := by
      rw [lookupHot, List.find?_eq_none.mpr]
      intro entry member isKey
      have present := (exactly.listed complete entry.1 entry.2).mp member
      rw [of_decide_eq_true isKey, stored] at present
      cases present
    have absent : lookupAbsent state key = some ⟨key, mapPath contents key, none⟩ := by
      rw [stored] at binds
      simp only [lookupAbsent, hot_witness state contents exactly complete, binds, if_true]
    rw [missing, absent]
    rfl

theorem prepare_complete
    (represented : state.root = mapRoot contents) (exactly : HotExact state contents) (complete : state.hotComplete = true)
    (key : Key) (next : Option V) (pages : List (ResolvedIndexPage V)) :
    prepareIndexMutation state key next pages = .prepared (preparedMutation state contents key next) (contents key) := by
  rw [prepareIndexMutation, lookup_complete state contents represented exactly complete key pages]
  rfl

omit [ValueHashing V] in
theorem initial_hot_exact {name : IndexName} : HotExact (initialAuthenticatedIndex name) fun _ => (none : Option V) where
  complete := by
    rw [mapCount, count_where_empty]
    rfl
  distinct := List.nodup_nil
  listed := by
    simp [initialAuthenticatedIndex]

omit [SparseHashing] [ValueHashing V] in
theorem mem_retained_hot {hot : List (Key × V)} {key : Key} {next : Option V} {entry : Key × V} :
    entry ∈ retainedHot hot key next ↔ (entry ∈ hot ∧ entry.1 ≠ key) ∨ (entry.1 = key ∧ next = some entry.2) := by
  rw [retainedHot, mem_sort_by_key, List.mem_append, List.mem_filter, decide_eq_true_iff, Option.mem_toList, Option.map_eq_some_iff]
  constructor
  · rintro (kept | ⟨value, rfl, rfl⟩)
    · exact Or.inl kept
    · exact Or.inr ⟨rfl, rfl⟩
  · rintro (kept | ⟨rfl, rfl⟩)
    · exact Or.inl kept
    · exact Or.inr ⟨entry.2, rfl, rfl⟩

omit [SparseHashing] [ValueHashing V] in
theorem retained_hot_distinct {hot : List (Key × V)} (key : Key) (next : Option V) (distinct : (hot.map Prod.fst).Nodup) :
    ((retainedHot hot key next).map Prod.fst).Nodup := by
  rw [retainedHot, ((sort_by_key_perm _).map Prod.fst).nodup_iff, List.map_append, List.nodup_append]
  refine ⟨distinct.sublist (List.filter_sublist.map _), ?_, ?_⟩
  · cases next with
    | none => exact List.nodup_nil
    | some value => exact List.nodup_singleton key
  · intro kept inKept added inAdded same
    obtain ⟨entry, member, rfl⟩ := List.mem_map.mp inKept
    cases next with
    | none => cases inAdded
    | some value =>
      obtain rfl : added = key := List.mem_singleton.mp inAdded
      exact of_decide_eq_true (List.mem_filter.mp member).2 same

theorem mutated_hot_exact {state : AuthenticatedIndexState V} {contents : Key → Option V} (exactly : HotExact state contents)
    (key : Key) (value : V) : HotExact (mutated state contents key (some value)) (Function.update contents key (some value)) where
  complete := rfl
  distinct := by
    have retained := retained_hot_distinct key (some value) exactly.distinct
    rw [mutated, hotPage]
    split
    · exact retained
    · exact retained.sublist ((List.drop_sublist _ _).map _)
  listed := by
    intro complete key' value'
    have small : mapCount (Function.update contents key (some value)) ≤ maxHotIndexValues := of_decide_eq_true complete
    have grown := map_count_update contents key (some value)
    rw [Option.isSome_some, if_pos rfl] at grown
    have wasSmall : mapCount contents ≤ maxHotIndexValues := by
      split at grown <;> omega
    have wasComplete : state.hotComplete = true := by
      rw [exactly.complete]
      exact decide_eq_true wasSmall
    rw [mutated, hotPage, if_pos small, mem_retained_hot, exactly.listed wasComplete]
    by_cases same : key' = key
    · subst same
      simp
    · simp [same]

end HotPage

end PiAutopilot.Authority
