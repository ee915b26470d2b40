import Mathlib.Data.List.Dedup
import Mathlib.Data.List.Perm.Subperm
import PiAutopilot.Lib.Fallible

set_option autoImplicit false

namespace PiAutopilot.Lib

-- A depth-first walk that refuses a node of its own path. `visiting` is the path, `done` holds the nodes
-- already left, the last one first; the fuel bounds the length of a path.
section DepthFirst

variable {ν ε : Type} [DecidableEq ν] (children : ν → Except ε (List ν)) (cycleAt : ν → ε)

def visit : Nat → List ν → List ν → ν → Except ε (List ν)
  | 0, _, _, node => .error (cycleAt node)
  | fuel + 1, visiting, done, node =>
    if node ∈ done then .ok done
    else if node ∈ visiting then .error (cycleAt node)
    else do
      let next ← children node
      let done ← next.foldlM (visit fuel (node :: visiting)) done
      return node :: done

def visitAll (fuel : Nat) (nodes : List ν) : Except ε (List ν) := nodes.foldlM (visit children cycleAt fuel []) []

def Topological : List ν → Prop
  | [] => True
  | node :: rest => (∃ next, children node = .ok next ∧ ∀ child ∈ next, child ∈ rest) ∧ Topological rest

structure Walked (start visited done : List ν) : Prop where
  ordered : Topological children done
  kept : ∀ node ∈ start, node ∈ done
  left : ∀ node ∈ visited, node ∈ done

variable {children cycleAt}

section

omit [DecidableEq ν]

theorem walked_refl {done : List ν} (ordered : Topological children done) : Walked children done [] done :=
  ⟨ordered, fun _ member => member, by simp⟩

theorem walked_snoc {start visited done after : List ν} {node : ν} (before : Walked children start visited done)
    (step : Walked children done [node] after) : Walked children start (visited ++ [node]) after := by
  refine ⟨step.ordered, fun other member => step.kept other (before.kept other member), ?_⟩
  intro other member
  rcases List.mem_append.mp member with earlier | last
  · exact step.kept other (before.left other earlier)
  · exact step.left other last

theorem fold_walked (walk : List ν → ν → Except ε (List ν))
    (walks : ∀ done node after, Topological children done → walk done node = .ok after → Walked children done [node] after)
    (nodes done after : List ν) (ordered : Topological children done) (ran : nodes.foldlM walk done = .ok after) :
    Walked children done nodes after := by
  refine foldlM_keeps (Walked children done) ?_ nodes [] done after (walked_refl ordered) ran
  intro visited middle node next before stepped
  exact walked_snoc before (walks middle node next before.ordered stepped)

end

theorem visit_walked (fuel : Nat) (visiting done : List ν) (node : ν) (after : List ν)
    (ordered : Topological children done) (ran : visit children cycleAt fuel visiting done node = .ok after) :
    Walked children done [node] after := by
  induction fuel generalizing visiting done node after with
  | zero => cases ran
  | succ fuel ih =>
    rw [visit] at ran
    split at ran
    · rename_i present
      cases ran
      exact ⟨ordered, fun _ member => member, by simpa using present⟩
    · obtain ⟨_, ran⟩ := refused_ok ran
      obtain ⟨next, listed, continued⟩ := bind_ok ran
      obtain ⟨deeper, walked, returned⟩ := bind_ok continued
      cases returned
      have below := fold_walked _ (fun done child after => ih (node :: visiting) done child after) next done deeper ordered walked
      refine ⟨⟨⟨next, listed, below.left⟩, below.ordered⟩, ?_, by simp⟩
      exact fun other member => List.mem_cons_of_mem _ (below.kept other member)

theorem visit_all_walked {fuel : Nat} {nodes done : List ν} (ran : visitAll children cycleAt fuel nodes = .ok done) :
    Walked children [] nodes done :=
  fold_walked _ (visit_walked fuel []) nodes [] done trivial ran

structure Ranks (children : ν → Except ε (List ν)) (rank : ν → Nat) (bound : Nat) (nodes : List ν) : Prop where
  bounded : ∀ node ∈ nodes, rank node < bound
  falls : ∀ node ∈ nodes, ∃ next, children node = .ok next ∧ ∀ child ∈ next, child ∈ nodes ∧ rank child < rank node

-- The rank of a node is the number of nodes left before it.
theorem topological_ranks {done : List ν} (ordered : Topological children done) : ∃ rank, Ranks children rank done.dedup.length done := by
  induction done with
  | nil => exact ⟨fun _ => 0, by simp, by simp⟩
  | cons node rest ih =>
    obtain ⟨⟨next, listed, below⟩, restOrdered⟩ := ordered
    obtain ⟨rank, ranks⟩ := ih restOrdered
    by_cases again : node ∈ rest
    · refine ⟨rank, ?_, ?_⟩
      · intro other member
        rw [List.dedup_cons_of_mem again]
        rcases List.mem_cons.mp member with rfl | earlier
        · exact ranks.bounded other again
        · exact ranks.bounded other earlier
      · intro other member
        have known : other ∈ rest := by
          rcases List.mem_cons.mp member with rfl | earlier
          · exact again
          · exact earlier
        obtain ⟨children, found, fall⟩ := ranks.falls other known
        exact ⟨children, found, fun child isChild =>
          ⟨List.mem_cons_of_mem _ (fall child isChild).1, (fall child isChild).2⟩⟩
    · have other_ne : ∀ other ∈ rest, other ≠ node := fun other member same => again (same ▸ member)
      refine ⟨Function.update rank node rest.dedup.length, ?_, ?_⟩
      · intro other member
        rw [List.dedup_cons_of_notMem again]
        rcases List.mem_cons.mp member with rfl | earlier
        · rw [Function.update_self]
          exact Nat.lt_succ_self _
        · rw [Function.update_of_ne (other_ne other earlier)]
          exact Nat.lt_succ_of_lt (ranks.bounded other earlier)
      · intro other member
        rcases List.mem_cons.mp member with rfl | earlier
        · refine ⟨next, listed, fun child isChild => ⟨List.mem_cons_of_mem _ (below child isChild), ?_⟩⟩
          rw [Function.update_self, Function.update_of_ne (other_ne child (below child isChild))]
          exact ranks.bounded child (below child isChild)
        · obtain ⟨children, found, fall⟩ := ranks.falls other earlier
          refine ⟨children, found, fun child isChild => ⟨List.mem_cons_of_mem _ (fall child isChild).1, ?_⟩⟩
          rw [Function.update_of_ne (other_ne other earlier), Function.update_of_ne (other_ne child (fall child isChild).1)]
          exact (fall child isChild).2

theorem visit_all_ranks {fuel : Nat} {nodes done : List ν} (within : ∀ node next, children node = .ok next → node ∈ nodes)
    (ran : visitAll children cycleAt fuel nodes = .ok done) : ∃ rank, Ranks children rank nodes.length nodes := by
  have left := visit_all_walked ran
  obtain ⟨rank, ranks⟩ := topological_ranks left.ordered
  have inside : ∀ node ∈ done, node ∈ nodes := by
    intro node member
    obtain ⟨next, listed, _⟩ := ranks.falls node member
    exact within node next listed
  have few : done.dedup.length ≤ nodes.length :=
    (List.subperm_of_subset done.nodup_dedup fun node member => inside node (List.mem_dedup.mp member)).length_le
  refine ⟨rank, ?_, ?_⟩
  · exact fun node member => Nat.lt_of_lt_of_le (ranks.bounded node (left.left node member)) few
  · intro node member
    obtain ⟨next, listed, falls⟩ := ranks.falls node (left.left node member)
    exact ⟨next, listed, fun child isChild => ⟨inside child (falls child isChild).1, (falls child isChild).2⟩⟩

theorem visit_ranked (rank : ν → Nat) (bound : Nat) (nodes : List ν) (ranks : Ranks children rank bound nodes)
    (fuel : Nat) (visiting done : List ν) (node : ν) (known : node ∈ nodes) (enough : rank node < fuel)
    (above : ∀ other ∈ visiting, rank node < rank other) :
    ∃ after, visit children cycleAt fuel visiting done node = .ok after := by
  induction fuel generalizing visiting done node with
  | zero => exact absurd enough (Nat.not_lt_zero _)
  | succ fuel ih =>
    rw [visit]
    split
    · exact ⟨done, rfl⟩
    · rw [if_neg fun cycle => Nat.lt_irrefl _ (above node cycle)]
      obtain ⟨next, listed, falls⟩ := ranks.falls node known
      have walks : ∀ child ∈ next, ∀ done, ∃ after, visit children cycleAt fuel (node :: visiting) done child = .ok after := by
        intro child isChild done
        obtain ⟨childKnown, lower⟩ := falls child isChild
        refine ih (node :: visiting) done child childKnown (by omega) ?_
        intro other member
        rcases List.mem_cons.mp member with rfl | path
        · exact lower
        · exact Nat.lt_trans lower (above other path)
      obtain ⟨after, walked⟩ := foldlM_succeeds walks done
      refine ⟨node :: after, ?_⟩
      exact bind_eq_ok listed (bind_eq_ok walked rfl)

theorem visit_all_ranked (rank : ν → Nat) (bound : Nat) (ranked : List ν) (ranks : Ranks children rank bound ranked)
    {fuel : Nat} (enough : bound ≤ fuel) (nodes : List ν) (within : ∀ node ∈ nodes, node ∈ ranked) :
    ∃ done, visitAll children cycleAt fuel nodes = .ok done := by
  refine foldlM_succeeds ?_ []
  intro node member done
  have known := within node member
  exact visit_ranked rank bound ranked ranks fuel [] done node known (Nat.lt_of_lt_of_le (ranks.bounded node known) enough) (by simp)

end DepthFirst

end PiAutopilot.Lib
