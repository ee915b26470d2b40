import Mathlib.Logic.Relation
import Mathlib.Order.WellFounded

set_option autoImplicit false

namespace PiAutopilot.Lib

-- A relation along which a rank grows, such as "must be done before".
section Ranked

variable {α : Type} {before : α → α → Prop} {rank : α → Nat}
  (increasing : ∀ first second, before first second → rank first < rank second)

include increasing

theorem ranked_trans {first last : α} (path : Relation.TransGen before first last) : rank first < rank last := by
  induction path with
  | single step => exact increasing _ _ step
  | tail _ step ih => exact ih.trans (increasing _ _ step)

theorem ranked_acyclic {item : α} : ¬ Relation.TransGen before item item := fun cycle => Nat.lt_irrefl _ (ranked_trans increasing cycle)

-- Among any items there is one that waits for none of the others.
theorem ranked_frontier {waiting : Set α} (nonempty : waiting.Nonempty) : ∃ item ∈ waiting, ∀ other ∈ waiting, ¬ before other item := by
  obtain ⟨item, member, least⟩ := (measure rank).wf.has_min waiting nonempty
  exact ⟨item, member, fun other waits earlier => least other waits (increasing other item earlier)⟩

end Ranked

end PiAutopilot.Lib
