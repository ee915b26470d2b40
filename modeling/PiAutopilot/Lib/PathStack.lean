import Mathlib.Data.List.Infix
import Mathlib.Data.List.Lex
import Mathlib.Order.Lattice

set_option autoImplicit false

/-! # A stack of open directories

In a walk that meets paths in ascending order, part by part, whatever lies between a directory and one of its children
lies in the directory.  So the directories met so far that are still open form a stack. -/

namespace PiAutopilot.Lib

variable {P α : Type}

theorem prefix_of_between [LinearOrder α] (parent path : List α) (last : α) (above : parent ≤ path) (below : path < parent ++ [last]) :
    parent <+: path := by
  induction parent generalizing path with
  | nil => exact List.nil_prefix
  | cons part rest ih =>
    cases path with
    | nil => exact absurd above (not_le.mpr (List.nil_lt_cons _ _))
    | cons other others =>
      rw [List.cons_append, List.cons_lt_cons_iff] at below
      rw [← not_lt, List.cons_lt_cons_iff, not_or, not_and, not_lt] at above
      have same : other = part := by
        rcases below with less | ⟨same, _⟩
        · exact absurd less (not_lt.mpr above.1)
        · exact same
      subst same
      have inner := ih others (not_lt.mp (above.2 rfl)) (by simpa using below)
      exact List.cons_prefix_cons.mpr ⟨rfl, inner⟩

/-- The stack holds the directories above the last path or at it, the innermost one first. -/
structure OpenDirectories (parts : P → List α) (directories : List P) (last : P) (stack : List P) : Prop where
  mem : ∀ directory, directory ∈ stack ↔ directory ∈ directories ∧ parts directory <+: parts last
  nested : stack.Pairwise fun inner outer => parts outer <+: parts inner ∧ outer ≠ inner

variable {parts : P → List α} {directories : List P} {last parent path : P} {stack : List P} {name : α}

theorem open_parent [LinearOrder α] (isOpen : OpenDirectories parts directories last stack)
    (known : parent ∈ directories) (above : parts parent ≤ parts last) (below : parts last < parts path) (child : parts path = parts parent ++ [name]) :
    parent ∈ stack :=
  (isOpen.mem parent).mpr ⟨known, prefix_of_between _ _ name above (child ▸ below)⟩

variable (injective : Function.Injective parts)

include injective

theorem open_popped [DecidableEq P] (isOpen : OpenDirectories parts directories last stack) (inStack : parent ∈ stack) :
    OpenDirectories parts directories parent (stack.dropWhile (· ≠ parent)) := by
  obtain ⟨closed, outer, rfl, notClosed⟩ := List.eq_append_cons_of_mem inStack
  have popped : (closed ++ parent :: outer).dropWhile (· ≠ parent) = parent :: outer := by
    rw [List.dropWhile_append_of_pos]
    · simp
    · intro directory member
      exact decide_eq_true fun same => notClosed (same ▸ member)
  obtain ⟨_, nested, apart⟩ := List.pairwise_append.mp isOpen.nested
  rw [popped]
  refine ⟨fun directory => ⟨fun member => ?_, fun inside => ?_⟩, nested⟩
  · refine ⟨((isOpen.mem directory).mp (List.mem_append_right _ member)).1, ?_⟩
    rcases List.mem_cons.mp member with rfl | further
    · exact List.prefix_rfl
    · exact (List.rel_of_pairwise_cons nested further).1
  · have stacked := (isOpen.mem directory).mpr ⟨inside.1, inside.2.trans ((isOpen.mem parent).mp inStack).2⟩
    rcases List.mem_append.mp stacked with early | member
    · obtain ⟨within, different⟩ := apart directory early parent List.mem_cons_self
      exact absurd (injective (inside.2.eq_of_length_le within.length_le)).symm different
    · exact member

theorem child_prefix_iff (child : parts path = parts parent ++ [name]) (directory : P) :
    parts directory <+: parts path ↔ directory = path ∨ parts directory <+: parts parent := by
  rw [child, List.prefix_concat_iff, ← child, injective.eq_iff]

theorem open_file (isOpen : OpenDirectories parts directories parent stack)
    (child : parts path = parts parent ++ [name]) (fresh : path ∉ directories) :
    OpenDirectories parts directories path stack := by
  refine ⟨fun directory => ?_, isOpen.nested⟩
  rw [isOpen.mem, child_prefix_iff injective child]
  constructor
  · rintro ⟨known, within⟩
    exact ⟨known, .inr within⟩
  · rintro ⟨known, rfl | within⟩
    · exact absurd known fresh
    · exact ⟨known, within⟩

theorem open_directory (isOpen : OpenDirectories parts directories parent stack)
    (child : parts path = parts parent ++ [name]) (fresh : path ∉ directories) :
    OpenDirectories parts (directories ++ [path]) path (path :: stack) := by
  have unchanged := open_file injective isOpen child fresh
  refine ⟨fun directory => ?_, List.pairwise_cons.mpr ⟨fun directory member => ?_, isOpen.nested⟩⟩
  · rw [List.mem_cons, unchanged.mem, List.mem_append, List.mem_singleton]
    constructor
    · rintro (rfl | ⟨known, within⟩)
      · exact ⟨.inr rfl, List.prefix_rfl⟩
      · exact ⟨.inl known, within⟩
    · rintro ⟨known | rfl, within⟩
      · exact .inr ⟨known, within⟩
      · exact .inl rfl
  · obtain ⟨known, within⟩ := (unchanged.mem directory).mp member
    exact ⟨within, fun same => fresh (same ▸ known)⟩

end PiAutopilot.Lib
