import PiAutopilot.Authority.HotPage

set_option autoImplicit false

namespace PiAutopilot.Authority

open Lib Protocol

section Refinement

variable [SparseHashing] {V : Type} [ValueHashing V]

inductive Reaches (name : IndexName) : AuthenticatedIndexState V → (Key → Option V) → Prop where
  | initial : Reaches name (initialAuthenticatedIndex name) fun _ => none
  | mutate {state after : AuthenticatedIndexState V} {contents : Key → Option V} (key : Key) (next : Option V)
      (pages : List (ResolvedIndexPage V)) (mutation : IndexMutation) (prior : Option V) (before : Reaches name state contents)
      (prepared : prepareIndexMutation state key next pages = .prepared mutation prior)
      (applied : applyIndexMutation state mutation prior next = .applied after) :
      Reaches name after (Function.update contents key next)

theorem reached_represents (collisionFree : CollisionFree V) {name : IndexName} {state : AuthenticatedIndexState V}
    {contents : Key → Option V} (reached : Reaches name state contents) : Represents state contents := by
  induction reached with
  | initial => exact initial_represents
  | @mutate state after contents key next pages mutation prior _ prepared applied ih =>
    obtain ⟨_, rfl⟩ := mutation_step collisionFree ih prepared applied
    exact mutated_represents state contents key next

theorem index_refines_map (collisionFree : CollisionFree V) (name : IndexName) (state : AuthenticatedIndexState V)
    (contents : Key → Option V) (reached : Reaches name state contents) :
    (∀ key pages value witness, lookupIndex state key pages = .proved value witness → value = contents key) ∧
      state.count.value = Set.ncard { key | (contents key).isSome } ∧
      ∀ otherName other, Reaches otherName other contents → other.root = state.root := by
  have represented := reached_represents collisionFree reached
  refine ⟨?_, represented.count.trans (map_count_is_ncard), ?_⟩
  · intro key pages value witness proved
    exact (lookup_sound collisionFree represented.root proved).1
  · intro otherName other otherReached
    rw [(reached_represents collisionFree otherReached).root, represented.root]

noncomputable def honestPage (state : AuthenticatedIndexState V) (contents : Key → Option V) (key : Key) : ResolvedIndexPage V :=
  ⟨state.name, state.root, [⟨key, mapPath contents key, contents key⟩]⟩

theorem honest_page_found {state : AuthenticatedIndexState V} {contents : Key → Option V} (rooted : state.root = mapRoot contents)
    (key : Key) : lookupPages state key [honestPage state contents key] = some ⟨key, mapPath contents key, contents key⟩ := by
  simp [lookupPages, honestPage, maxHotIndexValues, witnessRoot, represented_root, rooted]

end Refinement

@[reducible] noncomputable def freshSparseHashing : SparseHashing where
  sparseEmptyLeafDigest := freshDigest (none : Option (Key × Digest))
  sparsePresentLeafDigest key value := freshDigest (some (key, value))
  sparseNodeDigest left right := freshDigest (left, right)

@[reducible] noncomputable def freshValueHashing (V : Type) [Countable V] : ValueHashing V where
  indexValueDigest := freshDigest

section Fresh

noncomputable local instance : SparseHashing := freshSparseHashing
noncomputable local instance (V : Type) [Countable V] : ValueHashing V := freshValueHashing V

theorem fresh_sparse_collision_free : SparseCollisionFree where
  node _ _ _ _ same := Prod.mk.inj (fresh_digest_injective same)
  present _ _ _ _ same := Prod.mk.inj (Option.some_inj.mp (fresh_digest_injective same))
  separated key value same := Option.some_ne_none (key, value) (fresh_digest_injective same)

theorem fresh_collision_free {V : Type} [Countable V] : CollisionFree V where
  sparse := fresh_sparse_collision_free
  value := fresh_digest_injective

def zeroKey : Key := ⟨List.replicate 64 0, List.length_replicate⟩

theorem single_insertion_reached : ∃ state, Reaches .atoms state (Function.update (fun _ => none) zeroKey (some 7)) := by
  have prepared : prepareIndexMutation (initialAuthenticatedIndex .atoms) zeroKey (some 7) [] = _ :=
    prepare_complete _ _ (initial_represents).root (initial_hot_exact) rfl zeroKey (some 7) []
  exact ⟨_, .mutate zeroKey (some 7) [] _ _ .initial prepared (apply_prepared _ _ (initial_represents) zeroKey (some 7))⟩

theorem single_insertion_refines_map :
    ∃ state, Reaches .atoms state (Function.update (fun _ => none) zeroKey (some 7)) ∧ state.count.value = 1 ∧
      ∀ pages value witness, lookupIndex state zeroKey pages = .proved value witness → value = some 7 := by
  obtain ⟨state, reached⟩ := single_insertion_reached
  obtain ⟨sound, count, _⟩ := index_refines_map (fresh_collision_free) .atoms state _ reached
  refine ⟨state, reached, ?_, fun pages value witness proved => ?_⟩
  · have counted := map_count_update (fun _ => (none : Option Nat)) zeroKey (some 7)
    rw [← map_count_is_ncard] at count
    rw [count]
    simpa [mapCount, count_where_empty] using counted
  · rw [sound zeroKey pages value witness proved, Function.update_self]

end Fresh

end PiAutopilot.Authority
