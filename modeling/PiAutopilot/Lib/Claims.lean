import PiAutopilot.Lib.Checks

set_option autoImplicit false

namespace PiAutopilot.Lib

-- Loops that compare each item with the others.
section Claims

variable {α ε : Type}

def claimAll (against : α → α → Except ε Unit) (alone : α → Except ε Unit) (held items : List α) : Except ε (List α) :=
  items.foldlM
    (fun held item => do
      checkAll (against item) held
      alone item
      return held ++ [item]) held

structure Claimable (against : α → α → Except ε Unit) (alone : α → Except ε Unit) (held items : List α) : Prop where
  checked : ∀ item ∈ items, alone item = .ok ()
  beside : ∀ earlier ∈ held, ∀ item ∈ items, against item earlier = .ok ()
  pairs : items.Pairwise fun earlier later => against later earlier = .ok ()

theorem claimable_append (against : α → α → Except ε Unit) (alone : α → Except ε Unit) (held first second : List α) :
    Claimable against alone held (first ++ second) ↔
      Claimable against alone held first ∧ Claimable against alone (held ++ first) second := by
  constructor
  · rintro ⟨checked, beside, pairs⟩
    rw [List.forall_mem_append] at checked
    rw [List.pairwise_append] at pairs
    refine ⟨⟨checked.1, ?_, pairs.1⟩, checked.2, ?_, pairs.2.1⟩
    · exact fun earlier isEarlier item isItem => beside earlier isEarlier item (List.mem_append_left _ isItem)
    · rw [List.forall_mem_append]
      exact ⟨fun earlier isEarlier item isItem => beside earlier isEarlier item (List.mem_append_right _ isItem), pairs.2.2⟩
  · rintro ⟨⟨checked, beside, pairs⟩, later⟩
    have besideLater := List.forall_mem_append.mp later.beside
    refine ⟨List.forall_mem_append.mpr ⟨checked, later.checked⟩, fun earlier isEarlier => ?_, ?_⟩
    · exact List.forall_mem_append.mpr ⟨beside earlier isEarlier, besideLater.1 earlier isEarlier⟩
    · exact List.pairwise_append.mpr ⟨pairs, later.pairs, besideLater.2⟩

theorem claim_all_ok (against : α → α → Except ε Unit) (alone : α → Except ε Unit) (held items after : List α) :
    claimAll against alone held items = .ok after ↔ after = held ++ items ∧ Claimable against alone held items := by
  induction items generalizing held with
  | nil =>
    rw [List.append_nil]
    exact ⟨fun ran => ⟨(Except.ok.inj ran).symm, by simp, by simp, .nil⟩, fun ⟨same, _⟩ => congrArg Except.ok same.symm⟩
  | cons item rest ih =>
    have single : Claimable against alone held [item] ↔ (∀ earlier ∈ held, against item earlier = .ok ()) ∧ alone item = .ok () :=
      ⟨fun claimable => ⟨fun earlier isEarlier => claimable.beside earlier isEarlier item (by simp), claimable.checked item (by simp)⟩,
        fun ⟨beside, checked⟩ => ⟨by simpa using checked, by simpa using beside, List.pairwise_singleton _ _⟩⟩
    rw [claimAll, List.foldlM_cons, bind_assoc, then_ok, bind_assoc, then_ok, check_all_ok]
    show _ ∧ _ ∧ claimAll against alone (held ++ [item]) rest = .ok after ↔ _
    rw [ih (held ++ [item]), List.append_assoc, List.singleton_append, ← List.singleton_append, claimable_append, single]
    exact ⟨fun ⟨beside, checked, same, later⟩ => ⟨same, ⟨beside, checked⟩, later⟩,
      fun ⟨same, ⟨beside, checked⟩, later⟩ => ⟨beside, checked, same, later⟩⟩

variable {κ : Type} [DecidableEq κ]

end Claims

end PiAutopilot.Lib
