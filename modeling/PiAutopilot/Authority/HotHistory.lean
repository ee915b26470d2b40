import PiAutopilot.Authority.SampleHashing
import PiAutopilot.Authority.StoredEntries

set_option autoImplicit false

namespace PiAutopilot.Authority

open Lib Protocol

structure IndexChange (V : Type) where
  mutation : IndexMutation
  prior : Option V
  next : Option V

section History

variable [SparseHashing] {V : Type} [ValueHashing V]

-- An index with the map it stands for. A rejected mutation leaves both alone.
abbrev HeldIndex (V : Type) := AuthenticatedIndexState V × (Key → Option V)

def applyChange (held : HeldIndex V) (change : IndexChange V) : HeldIndex V :=
  match applyIndexMutation held.1 change.mutation change.prior change.next with
  | .applied after => (after, Function.update held.2 change.mutation.key change.next)
  | .rejected _ => held

def applyChanges (name : IndexName) (changes : List (IndexChange V)) : HeldIndex V :=
  changes.foldl applyChange (initialAuthenticatedIndex name, fun _ => none)

theorem apply_changes_concat (name : IndexName) (changes : List (IndexChange V)) (change : IndexChange V) :
    applyChanges name (changes ++ [change]) = applyChange (applyChanges name changes) change := by
  rw [applyChanges, List.foldl_append]
  rfl

-- The hot page lists part of the map, in strict key order and within its bound. This holds after any history.
structure HotSound (held : HeldIndex V) : Prop where
  represented : Represents held.1 held.2
  complete : held.1.hotComplete = decide (mapCount held.2 ≤ maxHotIndexValues)
  sorted : (held.1.hot.map Prod.fst).Pairwise (· < ·)
  stored : ∀ entry ∈ held.1.hot, held.2 entry.1 = some entry.2
  bounded : held.1.hot.length ≤ maxHotIndexValues

def Lists (hot : List (Key × V)) (contents : Key → Option V) : Prop := ∀ key value, (key, value) ∈ hot ↔ contents key = some value

variable {contents : Key → Option V} {hot : List (Key × V)} {held : HeldIndex V}

theorem apply_accepted (collisionFree : CollisionFree V) {state after : AuthenticatedIndexState V}
    (represented : Represents state contents) {mutation : IndexMutation} {prior next : Option V}
    (applied : applyIndexMutation state mutation prior next = .applied after) :
    prior = contents mutation.key ∧ after = mutated state contents mutation.key next := by
  have accepted := applied
  rw [applyIndexMutation] at applied
  split at applied
  · cases applied
  rename_i named
  rw [not_or, not_not] at named
  dsimp only at applied
  split at applied
  · cases applied
  rename_i digests
  rw [not_or, not_not, not_not] at digests
  split at applied
  · cases applied
  split at applied
  · cases applied
  rename_i binds
  rw [not_not, represented.root] at binds
  obtain ⟨digest, path⟩ := sparse_root_binds collisionFree.sparse binds
  have samePrior := map_digest_injective collisionFree digest
  have prepared : mutation = preparedMutation state contents mutation.key next := by
    rw [IndexMutation.mk.injEq]
    exact ⟨named.1, rfl, digests.2, digests.1.trans digest, path⟩
  have expected := apply_prepared state contents represented mutation.key next
  rw [← prepared, ← samePrior, accepted, MutationApplication.applied.injEq] at expected
  exact ⟨samePrior, expected⟩

section

omit [SparseHashing] [ValueHashing V]

theorem keys_distinct (sorted : (hot.map Prod.fst).Pairwise (· < ·)) : (hot.map Prod.fst).Nodup :=
  sorted.imp fun below => ne_of_lt below

theorem retained_sorted (key : Key) (next : Option V) (distinct : (hot.map Prod.fst).Nodup) :
    ((retainedHot hot key next).map Prod.fst).Pairwise (· < ·) := by
  have ordered : ((retainedHot hot key next).map Prod.fst).Pairwise (· ≤ ·) := List.pairwise_map.mpr (sort_by_key_sorted)
  exact ordered.sortedLE.sortedLT_of_nodup (retained_hot_distinct key next distinct) |>.pairwise

theorem retained_length (hot : List (Key × V)) (key : Key) (next : Option V) :
    (retainedHot hot key next).length = (hot.filter fun entry => entry.1 ≠ key).length + next.toList.length := by
  rw [retainedHot, (sort_by_key_perm _).length_eq, List.length_append]
  cases next with
  | none => rfl
  | some value => rfl

theorem listed_keys (stored : ∀ entry ∈ hot, contents entry.1 = some entry.2) :
    ((hot.map Prod.fst).toFinset : Set Key) ⊆ { key | (contents key).isSome } := by
  intro key member
  obtain ⟨entry, inHot, rfl⟩ := List.mem_map.mp (List.mem_toFinset.mp member)
  rw [Set.mem_ofPred_eq, stored entry inHot]
  rfl

theorem listed_count (distinct : (hot.map Prod.fst).Nodup) : Set.ncard ((hot.map Prod.fst).toFinset : Set Key) = hot.length := by
  rw [Set.ncard_coe_finset, List.toFinset_card_of_nodup distinct, List.length_map]

theorem listed_le_count (distinct : (hot.map Prod.fst).Nodup)
    (stored : ∀ entry ∈ hot, contents entry.1 = some entry.2) : hot.length ≤ mapCount contents := by
  rw [← listed_count distinct]
  exact Set.ncard_le_ncard (listed_keys stored) (Set.toFinite _)

-- A sound page lists the whole map exactly when it is as long as the map.
theorem lists_iff_length (distinct : (hot.map Prod.fst).Nodup)
    (stored : ∀ entry ∈ hot, contents entry.1 = some entry.2) : Lists hot contents ↔ hot.length = mapCount contents := by
  rw [← listed_count distinct]
  constructor
  · intro lists
    congr 1
    refine (listed_keys stored).antisymm fun key isSome => ?_
    obtain ⟨value, found⟩ := Option.isSome_iff_exists.mp isSome
    exact List.mem_toFinset.mpr (List.mem_map.mpr ⟨(key, value), (lists key value).mpr found, rfl⟩)
  · intro sameCount key value
    refine ⟨fun member => stored (key, value) member, fun found => ?_⟩
    have sameKeys := Set.eq_of_subset_of_ncard_le (listed_keys stored) (le_of_eq sameCount.symm) (Set.toFinite _)
    have isKey : key ∈ ((hot.map Prod.fst).toFinset : Set Key) := by
      rw [sameKeys, Set.mem_ofPred_eq, found]
      rfl
    obtain ⟨⟨key', value'⟩, inHot, rfl⟩ := List.mem_map.mp (List.mem_toFinset.mp isKey)
    have sameValue := stored (key', value') inHot
    rw [found, Option.some_inj] at sameValue
    rw [sameValue]
    exact inHot

end

theorem initial_hot_sound {name : IndexName} : HotSound (initialAuthenticatedIndex name, fun _ => (none : Option V)) where
  represented := initial_represents
  complete := (initial_hot_exact).complete
  sorted := List.Pairwise.nil
  stored := fun _ member => absurd member List.not_mem_nil
  bounded := Nat.zero_le _

theorem mutated_hot_sound (sound : HotSound held) (key : Key) (next : Option V) :
    HotSound (mutated held.1 held.2 key next, Function.update held.2 key next) := by
  have sorted := retained_sorted key next (keys_distinct sound.sorted)
  have stored : ∀ entry ∈ retainedHot held.1.hot key next, Function.update held.2 key next entry.1 = some entry.2 := by
    intro entry member
    rcases (mem_retained_hot).mp member with ⟨kept, different⟩ | ⟨isKey, added⟩
    · rw [Function.update_of_ne different, sound.stored entry kept]
    · rw [isKey, Function.update_self, added]
  have within := listed_le_count (keys_distinct sorted) stored
  refine ⟨mutated_represents held.1 held.2 key next, rfl, ?_, ?_, ?_⟩
  · rw [mutated, hotPage]
    split
    · exact sorted
    · exact sorted.sublist ((List.drop_sublist _ _).map _)
  · rw [mutated, hotPage]
    split
    · exact stored
    · exact fun entry member => stored entry (List.mem_of_mem_drop member)
  · rw [mutated, hotPage]
    split
    · exact within.trans (by assumption)
    · rw [List.length_drop]
      omega

theorem apply_change_cases (collisionFree : CollisionFree V) (sound : HotSound held) {change : IndexChange V} :
    (applyChange held change = held ∧ ∀ after, applyIndexMutation held.1 change.mutation change.prior change.next ≠ .applied after) ∨
      ∃ after, applyIndexMutation held.1 change.mutation change.prior change.next = .applied after ∧
        change.prior = held.2 change.mutation.key ∧
        applyChange held change = (mutated held.1 held.2 change.mutation.key change.next,
          Function.update held.2 change.mutation.key change.next) := by
  rw [applyChange]
  cases outcome : applyIndexMutation held.1 change.mutation change.prior change.next with
  | rejected diagnostic => exact Or.inl ⟨rfl, fun after => nofun⟩
  | applied after =>
    obtain ⟨samePrior, rfl⟩ := apply_accepted collisionFree sound.represented outcome
    exact Or.inr ⟨_, rfl, samePrior, rfl⟩

theorem history_hot_sound (collisionFree : CollisionFree V) (name : IndexName) (changes : List (IndexChange V)) :
    HotSound (applyChanges name changes) := by
  induction changes using List.reverseRecOn with
  | nil => exact initial_hot_sound
  | append_singleton earlier change ih =>
    rw [apply_changes_concat]
    rcases apply_change_cases collisionFree ih with ⟨same, _⟩ | ⟨_, _, _, moved⟩
    · rw [same]
      exact ih
    · rw [moved]
      exact mutated_hot_sound ih _ _

def HotComplete (held : HeldIndex V) : Prop := held.1.hotComplete = true → Lists held.1.hot held.2

-- A removal that brings the count back to the bound must leave a full page behind.
def LeavesFullPage (state : AuthenticatedIndexState V) (change : IndexChange V) : Prop :=
  change.prior.isSome → change.next = none → state.count.value = maxHotIndexValues + 1 →
    (state.hot.filter fun entry => entry.1 ≠ change.mutation.key).length = maxHotIndexValues

omit [SparseHashing] [ValueHashing V] in
theorem retained_lists (lists : Lists hot contents) (key : Key)
    (next : Option V) : Lists (retainedHot hot key next) (Function.update contents key next) := by
  intro key' value
  rw [mem_retained_hot, lists]
  by_cases same : key' = key
  · subst same
    simp
  · simp [same]

theorem mutated_complete_iff (held : HeldIndex V) (sound : HotSound held) (complete : HotComplete held) (change : IndexChange V)
    (samePrior : change.prior = held.2 change.mutation.key) :
    HotComplete (mutated held.1 held.2 change.mutation.key change.next,
        Function.update held.2 change.mutation.key change.next) ↔ LeavesFullPage held.1 change := by
  obtain ⟨mutation, prior, next⟩ := change
  obtain ⟨state, contents⟩ := held
  dsimp only at samePrior ⊢
  subst samePrior
  have after := mutated_hot_sound sound mutation.key next
  have counted := map_count_update contents mutation.key next
  have wasCount : state.count.value = mapCount contents := sound.represented.count
  rw [HotComplete, LeavesFullPage, wasCount]
  dsimp only
  rw [lists_iff_length (keys_distinct after.sorted) after.stored, mutated, decide_eq_true_iff]
  by_cases small : mapCount contents ≤ maxHotIndexValues
  · -- the page was complete, so it is still the whole map
    have lists := retained_lists (complete (sound.complete.trans (decide_eq_true small))) mutation.key next
    have sorted := retained_sorted mutation.key next (keys_distinct sound.sorted)
    refine iff_of_true (fun within => ?_) (fun _ _ atBound => absurd atBound (by omega))
    rw [hotPage, if_pos within]
    exact (lists_iff_length (keys_distinct sorted) fun entry member => (lists entry.1 entry.2).mp member).mp lists
  · constructor
    · intro full isSome removed atBound
      subst removed
      rw [if_pos isSome, Option.isSome_none, if_neg Bool.false_ne_true] at counted
      have within : mapCount (Function.update contents mutation.key none) ≤ maxHotIndexValues := by
        omega
      have length := full within
      rw [hotPage, if_pos within, retained_length] at length
      simp only [Option.toList_none, List.length_nil, Nat.add_zero] at length
      omega
    · intro leaves within
      have isSome : (contents mutation.key).isSome := by
        by_contra absent
        rw [if_neg absent] at counted
        omega
      have removed : next = none := by
        cases next with
        | none => rfl
        | some value =>
          rw [if_pos isSome, Option.isSome_some, if_pos rfl] at counted
          omega
      subst removed
      rw [if_pos isSome, Option.isSome_none] at counted
      have length := leaves isSome rfl (by omega)
      rw [hotPage, if_pos within, retained_length]
      simp only [Option.toList_none, List.length_nil, Nat.add_zero]
      omega

end History

section Scans

variable [SparseHashing] [ValueHashing IndexValue]

-- The page and the scans that read it miss nothing and list nothing twice.
structure ScansExact (held : HeldIndex IndexValue) : Prop where
  lists : Lists held.1.hot held.2
  values : ∀ kind, ∃ values, indexValues held.1 kind = some values ∧
    ∀ value, value ∈ values ↔ value.kind = kind ∧ ∃ key, held.2 key = some value

omit [SparseHashing] [ValueHashing IndexValue] in
theorem scans_exact_iff (held : HeldIndex IndexValue) : (held.1.hotComplete = true → ScansExact held) ↔ HotComplete held := by
  constructor
  · exact fun scans complete => (scans complete).lists
  · intro lists complete
    refine ⟨lists complete, fun kind => ⟨(held.1.hot.map Prod.snd).filter fun value => value.kind = kind, ?_, ?_⟩⟩
    · rw [indexValues, complete]
      rfl
    · intro value
      have member : (∃ key, (key, value) ∈ held.1.hot) ↔ ∃ key, held.2 key = some value := exists_congr fun key => lists complete key value
      simp [member, and_comm]

theorem hot_page_exact_iff (collisionFree : CollisionFree IndexValue) (name : IndexName) (changes : List (IndexChange IndexValue)) :
    (∀ earlier, earlier <+: changes → ((applyChanges name earlier).1.hot.map Prod.fst).Pairwise (· < ·) ∧
      (applyChanges name earlier).1.hot.length ≤ maxHotIndexValues) ∧
    ((∀ earlier, earlier <+: changes → (applyChanges name earlier).1.hotComplete = true → ScansExact (applyChanges name earlier)) ↔
      ∀ earlier change after, earlier ++ [change] <+: changes →
        applyIndexMutation (applyChanges name earlier).1 change.mutation change.prior change.next = .applied after →
          LeavesFullPage (applyChanges name earlier).1 change) := by
  have sound := history_hot_sound collisionFree name
  refine ⟨fun earlier _ => ⟨(sound earlier).sorted, (sound earlier).bounded⟩, ?_⟩
  simp only [scans_exact_iff]
  constructor
  · intro complete earlier change after isPart applied
    have next := complete _ isPart
    rw [apply_changes_concat] at next
    rcases apply_change_cases collisionFree (sound earlier) with ⟨_, rejected⟩ | ⟨_, _, samePrior, moved⟩
    · exact absurd applied (rejected after)
    · rw [moved] at next
      exact (mutated_complete_iff _ (sound earlier) (complete _ ((List.prefix_append _ _).trans isPart)) change samePrior).mp next
  · intro leaves earlier isPart
    induction earlier using List.reverseRecOn with
    | nil => exact fun _ => (initial_hot_exact).listed rfl
    | append_singleton earlier change ih =>
      have before := ih ((List.prefix_append _ _).trans isPart)
      rw [apply_changes_concat]
      rcases apply_change_cases collisionFree (sound earlier) with ⟨same, _⟩ | ⟨after, applied, samePrior, moved⟩
      · rw [same]
        exact before
      · rw [moved]
        exact (mutated_complete_iff _ (sound earlier) before change samePrior).mpr (leaves earlier change after isPart applied)

end Scans

section Overflow

noncomputable local instance : SparseHashing := freshSparseHashing
noncomputable local instance (V : Type) [Countable V] : ValueHashing V := freshValueHashing V

theorem values_collision_free : CollisionFree IndexValue := fresh_collision_free

theorem actions_sound (changes : List (IndexChange IndexValue)) : HotSound (applyChanges .actions changes) :=
  history_hot_sound values_collision_free .actions changes

def recordedAction : IndexValue := .action ⟨⟨⟨[]⟩⟩, .runResumed, .ofNat 0⟩

def onesKey (count : Nat) : Key := ⟨((List.replicate count 1 : List (Fin 16)) ++ List.replicate 64 0).take 64, by simp⟩

variable {count : Nat} {held : HeldIndex IndexValue}

theorem ones_key_count (fits : count ≤ 64) : (onesKey count).hex.count 1 = count := by
  change (List.take 64 ((List.replicate count 1 : List (Fin 16)) ++ List.replicate 64 0)).count 1 = count
  rw [List.take_append, List.take_of_length_le (by simpa using fits), List.take_replicate, List.count_append,
    List.count_replicate_self, List.count_replicate, if_neg (by decide), Nat.add_zero]

noncomputable def writeChange (held : HeldIndex IndexValue) (key : Key) (next : Option IndexValue) : IndexChange IndexValue :=
  ⟨preparedMutation held.1 held.2 key next, held.2 key, next⟩

theorem apply_write (sound : HotSound held) (key : Key) (next : Option IndexValue) :
    applyChange held (writeChange held key next) = (mutated held.1 held.2 key next, Function.update held.2 key next) := by
  rw [applyChange, writeChange, apply_prepared held.1 held.2 sound.represented key next]
  rfl

noncomputable def insertions : Nat → List (IndexChange IndexValue)
  | 0 => []
  | count + 1 => insertions count ++ [writeChange (applyChanges .actions (insertions count)) (onesKey count) (some recordedAction)]

theorem insertions_insert : ∀ change ∈ insertions count, change.next = some recordedAction := by
  induction count with
  | zero =>
    intro change member
    cases member
  | succ count ih =>
    intro change member
    rcases List.mem_append.mp member with earlier | last
    · exact ih change earlier
    · rw [List.mem_singleton.mp last]
      rfl

theorem inserted (count : Nat) (fits : count ≤ 64) : mapCount (applyChanges .actions (insertions count)).2 = count ∧
      ∀ later, count ≤ later → later ≤ 64 → (applyChanges .actions (insertions count)).2 (onesKey later) = none := by
  induction count with
  | zero => exact ⟨count_where_empty, fun _ _ _ => rfl⟩
  | succ count ih =>
    obtain ⟨counted, absent⟩ := ih (by omega)
    have sound := actions_sound (insertions count)
    have grown := map_count_update (applyChanges .actions (insertions count)).2 (onesKey count) (some recordedAction)
    rw [absent count le_rfl (by omega), counted] at grown
    rw [insertions, apply_changes_concat, apply_write sound]
    refine ⟨grown, fun later after within => ?_⟩
    have different : onesKey later ≠ onesKey count := by
      intro same
      have sameCount := ones_key_count within
      rw [same, ones_key_count (by omega)] at sameCount
      omega
    exact (Function.update_of_ne different _ _).trans (absent later (by omega) within)

theorem full_page_complete : (applyChanges .actions (insertions maxHotIndexValues)).1.hotComplete = true ∧
    ScansExact (applyChanges .actions (insertions maxHotIndexValues)) := by
  have complete : (applyChanges .actions (insertions maxHotIndexValues)).1.hotComplete = true := by
    rw [(actions_sound _).complete, (inserted maxHotIndexValues (by decide)).1]
    exact decide_eq_true le_rfl
  refine ⟨complete, (hot_page_exact_iff values_collision_free .actions _).2.mpr ?_ _ List.prefix_rfl complete⟩
  intro earlier change after isPart _ _ removed
  rw [insertions_insert change (isPart.subset (List.mem_append_right _ List.mem_cons_self))] at removed
  cases removed

theorem insertion_listed (count : Nat) : ∃ entry, entry ∈ (applyChanges .actions (insertions (count + 1))).1.hot := by
  have before := actions_sound (insertions count)
  rw [insertions, apply_changes_concat, apply_write before]
  refine List.exists_mem_of_length_pos ?_
  rw [mutated, hotPage]
  split
  · rw [retained_length]
    exact Nat.succ_pos _
  · rw [List.length_drop, retained_length]
    simp only [Option.toList_some, List.length_singleton, maxHotIndexValues]
    omega

theorem removal_misses (sound : HotSound held) (counted : mapCount held.2 = maxHotIndexValues + 1)
    {entry : Key × IndexValue} (listed : entry ∈ held.1.hot) :
    ∃ key value, (mutated held.1 held.2 entry.1 none).hotComplete = true ∧
      Function.update held.2 entry.1 none key = some value ∧ (key, value) ∉ (mutated held.1 held.2 entry.1 none).hot := by
  have incomplete : HotComplete held := by
    intro complete
    rw [sound.complete] at complete
    exact absurd (of_decide_eq_true complete) (by omega)
  have missing : ¬ HotComplete (mutated held.1 held.2 entry.1 none, Function.update held.2 entry.1 none) := by
    intro complete
    have full := (mutated_complete_iff held sound incomplete (writeChange held entry.1 none) rfl).mp complete
    have length := full (Option.isSome_iff_exists.mpr ⟨_, sound.stored entry listed⟩) rfl (sound.represented.count.trans counted)
    have fewer : (held.1.hot.filter fun other => other.1 ≠ entry.1).length < held.1.hot.length :=
      List.length_filter_lt_length_iff_exists.mpr ⟨entry, listed, by simp⟩
    exact absurd sound.bounded (by rw [← length]; exact Nat.not_le.mpr fewer)
  rw [HotComplete, Lists] at missing
  push Not at missing
  obtain ⟨complete, key, value, ⟨member, absent⟩ | ⟨absent, found⟩⟩ := missing
  · exact absurd ((mutated_hot_sound sound entry.1 none).stored (key, value) member) absent
  · exact ⟨key, value, complete, found, absent⟩

-- The thirty-third insertion drops an entry from the page. Removing a listed entry then brings the count back to
-- thirty-two, and the page calls itself complete with an entry missing.
theorem removal_after_overflow_misses : ∃ (changes : List (IndexChange IndexValue)) (key : Key) (value : IndexValue),
    (applyChanges .actions changes).1.hotComplete = true ∧
      (applyChanges .actions changes).2 key = some value ∧ (key, value) ∉ (applyChanges .actions changes).1.hot := by
  have sound := actions_sound (insertions (maxHotIndexValues + 1))
  obtain ⟨entry, listed⟩ := insertion_listed maxHotIndexValues
  have counted := (inserted (maxHotIndexValues + 1) (by decide)).1
  obtain ⟨key, value, misses⟩ := removal_misses sound counted listed
  refine ⟨insertions (maxHotIndexValues + 1) ++
    [writeChange (applyChanges .actions (insertions (maxHotIndexValues + 1))) entry.1 none], key, value, ?_⟩
  rw [apply_changes_concat, apply_write sound]
  exact misses

end Overflow

end PiAutopilot.Authority
