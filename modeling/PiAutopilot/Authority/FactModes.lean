import PiAutopilot.Authority.CompletedRun
import PiAutopilot.Authority.FactScript

set_option autoImplicit false

/-! # Folding a fact with prepared and with supplied mutations -/

namespace PiAutopilot.Authority

open Lib Protocol

section Modes

variable [Hashing]

-- The mutation that is applied: the prepared one, or the supplied one whose digest is that of the prepared one.
def Chosen (context : TransitionContext) (prepared mutation : IndexMutation) : Prop :=
  match context.supplied with
  | none => mutation = prepared
  | some supplied => supplied[context.cursor]? = some mutation ∧ indexMutationDigest mutation = indexMutationDigest prepared

structure Mutates (state : RunState) (pages : List IndexPage) (name : IndexName) (identity : JsString)
    (deriveNext : Option IndexValue → NextValue) (prepared mutation : IndexMutation) (prior next : Option IndexValue)
    (changed : RunIndex) : Prop where
  proved : ∃ witness, lookupIndex (state.indexes name) (indexKey name identity) pages = .proved prior witness
  derived : deriveNext prior = .next next
  prepares : ∃ before, prepareIndexMutation (state.indexes name) (indexKey name identity) next pages = .prepared prepared before
  applies : applyIndexMutation (state.indexes name) mutation prior next = .applied changed

def mutatedState (state : RunState) (name : IndexName) (changed : RunIndex) : RunState :=
  { state with indexes := replaceIndex state.indexes name changed }

def TransitionContext.after (context : TransitionContext) (mutation : IndexMutation) : TransitionContext :=
  { context with produced := context.produced ++ [mutation], cursor := context.cursor + 1 }

variable {state : RunState} {name : IndexName} {identity : JsString} {deriveNext : Option IndexValue → NextValue} {progress : Progress} {pages : List IndexPage} {fact : DomainFact} {applied : FactFoldApplied}

theorem mutate_ok_iff {context : TransitionContext} :
    mutate state context name identity deriveNext = .ok progress ↔ ∃ prepared mutation prior next changed,
      Mutates state context.pages name identity deriveNext prepared mutation prior next changed ∧
        Chosen context prepared mutation ∧ progress = ⟨mutatedState state name changed, context.after mutation⟩ := by
  obtain ⟨pages, supplied, produced, cursor⟩ := context
  constructor
  · intro moved
    rw [mutate] at moved
    dsimp only at moved
    split at moved
    · cases moved
    · rename_i prior witness proved
      split at moved
      · cases moved
      · rename_i next derived
        split at moved
        · cases moved
        · rename_i prepared before prepares
          obtain ⟨fits, moved⟩ := refused_ok moved
          split at moved
          · cases moved
          · rename_i changed applies
            cases moved
            refine ⟨prepared, _, prior, next, changed, ⟨⟨witness, proved⟩, derived, ⟨before, prepares⟩, applies⟩, ?_, rfl⟩
            cases supplied with
            | none => rfl
            | some supplied =>
              cases entry : supplied[cursor]? with
              | none => simp [entry] at fits
              | some mutation =>
                simp only [Option.isSome_some, Option.bind_some, entry, Option.any_some, sameMutation, Bool.true_and,
                  Bool.not_eq_true', Bool.not_eq_false, decide_eq_true_eq] at fits
                simpa [Chosen, entry] using fits
  · rintro ⟨prepared, mutation, prior, next, changed, ⟨⟨witness, proved⟩, derived, ⟨before, prepares⟩, applies⟩, chosen, rfl⟩
    rw [mutate]
    simp only [proved, derived, prepares]
    cases supplied with
    | none =>
      obtain rfl : mutation = prepared := chosen
      simp only [Option.isSome_none, Bool.false_and, Bool.false_eq_true, if_false, Option.bind_none, Option.getD_none, applies]
      rfl
    | some supplied =>
      obtain ⟨entry, same⟩ := chosen
      simp only [Option.isSome_some, Option.bind_some, entry, Option.any_some, sameMutation, same, decide_true, Bool.not_true,
        Bool.and_false, Bool.false_eq_true, if_false, Option.getD_some, applies]
      rfl

variable {cursor : Nat} {produced supplied : List IndexMutation}

theorem mutate_supplied (prepared : mutate state ⟨pages, none, produced, cursor⟩ name identity deriveNext = .ok progress) :
    ∃ mutation, progress.context = ⟨pages, none, produced ++ [mutation], cursor + 1⟩ ∧
      ∀ supplied, supplied[cursor]? = some mutation → mutate state ⟨pages, some supplied, produced, cursor⟩ name identity
        deriveNext = .ok ⟨progress.state, ⟨pages, some supplied, produced ++ [mutation], cursor + 1⟩⟩ := by
  obtain ⟨_, mutation, prior, next, changed, mutates, rfl, rfl⟩ := (mutate_ok_iff).mp prepared
  refine ⟨mutation, rfl, fun supplied entry => ?_⟩
  exact (mutate_ok_iff).mpr ⟨mutation, mutation, prior, next, changed, mutates, ⟨entry, rfl⟩, rfl⟩

theorem mutate_prepared (injective : Function.Injective indexMutationDigest)
    (moved : mutate state ⟨pages, some supplied, produced, cursor⟩ name identity deriveNext = .ok progress) :
    ∃ mutation, supplied[cursor]? = some mutation ∧ progress.context = ⟨pages, some supplied, produced ++ [mutation], cursor + 1⟩ ∧
      mutate state ⟨pages, none, produced, cursor⟩ name identity deriveNext =
        .ok ⟨progress.state, ⟨pages, none, produced ++ [mutation], cursor + 1⟩⟩ := by
  obtain ⟨prepared, mutation, prior, next, changed, mutates, ⟨entry, same⟩, rfl⟩ := (mutate_ok_iff).mp moved
  obtain rfl := injective same
  exact ⟨mutation, entry, rfl, (mutate_ok_iff).mpr ⟨mutation, mutation, prior, next, changed, mutates, rfl, rfl⟩⟩

-- The mutations of a run are those that the list holds from the cursor on.
theorem run_supplied (origin : RunState) (script : Script) (pages : List IndexPage) (produced : List IndexMutation)
    (cursor : Nat) (progress : Progress) (ran : script.run origin ⟨pages, none, produced, cursor⟩ = .ok progress) :
    ∃ mutations, progress.context = ⟨pages, none, produced ++ mutations, cursor + mutations.length⟩ ∧
      ∀ supplied, mutations <+: supplied.drop cursor → script.run origin ⟨pages, some supplied, produced, cursor⟩ =
        .ok ⟨progress.state, ⟨pages, some supplied, produced ++ mutations, cursor + mutations.length⟩⟩ := by
  induction script generalizing produced cursor with
  | refuse code diagnostic => cases ran
  | done after =>
    cases ran
    exact ⟨[], by simp, fun _ _ => by simp [Script.run]⟩
  | mutate state name identity deriveNext next ih =>
    obtain ⟨middle, moved, ran⟩ := bind_ok ran
    obtain ⟨mutation, context, supplies⟩ := mutate_supplied moved
    rw [context] at ran
    obtain ⟨mutations, after, rest⟩ := ih middle.state _ _ ran
    refine ⟨mutation :: mutations, by simpa [Nat.add_assoc, Nat.add_comm 1] using after, fun supplied begins => ?_⟩
    have first : supplied[cursor]? = some mutation := by
      obtain ⟨tail, split⟩ := begins
      have head := congrArg (·[0]?) split
      simpa using head.symm
    have later : mutations <+: supplied.drop (cursor + 1) := by
      obtain ⟨tail, split⟩ := begins
      refine ⟨tail, ?_⟩
      rw [← List.drop_drop, ← split]
      rfl
    refine bind_eq_ok (supplies supplied first) ?_
    have continued := rest supplied later
    simpa [Nat.add_assoc, Nat.add_comm 1] using continued

theorem run_prepared (injective : Function.Injective indexMutationDigest) (origin : RunState) (script : Script)
    (pages : List IndexPage) (supplied produced : List IndexMutation) (cursor : Nat) (inside : cursor ≤ supplied.length)
    (progress : Progress) (ran : script.run origin ⟨pages, some supplied, produced, cursor⟩ = .ok progress) :
    ∃ mutations, mutations <+: supplied.drop cursor ∧
      progress.context = ⟨pages, some supplied, produced ++ mutations, cursor + mutations.length⟩ ∧
      script.run origin ⟨pages, none, produced, cursor⟩ =
        .ok ⟨progress.state, ⟨pages, none, produced ++ mutations, cursor + mutations.length⟩⟩ := by
  induction script generalizing produced cursor with
  | refuse code diagnostic => cases ran
  | done after =>
    cases ran
    exact ⟨[], List.nil_prefix, by simp, by simp [Script.run]⟩
  | mutate state name identity deriveNext next ih =>
    obtain ⟨middle, moved, ran⟩ := bind_ok ran
    obtain ⟨mutation, entry, context, prepares⟩ := mutate_prepared injective moved
    obtain ⟨within, found⟩ := List.getElem?_eq_some_iff.mp entry
    rw [context] at ran
    obtain ⟨mutations, begins, after, rest⟩ := ih middle.state _ _ within ran
    refine ⟨mutation :: mutations, ?_, by simpa [Nat.add_assoc, Nat.add_comm 1] using after, bind_eq_ok prepares ?_⟩
    · rw [List.drop_eq_getElem_cons within, found]
      exact List.cons_prefix_cons.mpr ⟨rfl, begins⟩
    · simpa [Nat.add_assoc, Nat.add_comm 1] using rest

theorem fold_fact_ok {supplied : Option (List IndexMutation)} : foldDomainFact state fact pages supplied = .ok applied ↔ ∃ context,
      applySemanticFact state fact ⟨pages, supplied, [], 0⟩ = .ok ⟨applied.state, context⟩ ∧
        context.produced = applied.mutations ∧ ∀ mutations, supplied = some mutations → context.cursor = mutations.length := by
  obtain ⟨state', mutations'⟩ := applied
  constructor
  · intro folded
    obtain ⟨⟨after, context⟩, ran, returned⟩ := bind_ok folded
    cases supplied with
    | none =>
      cases returned
      exact ⟨context, ran, rfl, by simp⟩
    | some mutations =>
      by_cases used : context.cursor = mutations.length
      · simp only [Option.any_some, used, ne_eq, not_true_eq_false, decide_false, Bool.false_eq_true, if_false] at returned
        cases returned
        exact ⟨context, ran, rfl, fun other same => Option.some.inj same ▸ used⟩
      · simp [used, rejected] at returned
  · rintro ⟨context, ran, rfl, used⟩
    refine bind_eq_ok ran ?_
    cases supplied with
    | none => rfl
    | some mutations => simp [used mutations rfl]

theorem prepared_fold_accepts_own (prepared : foldDomainFact state fact pages none = .ok applied) :
    foldDomainFact state fact pages (some applied.mutations) = .ok applied := by
  obtain ⟨script, _, _, follows⟩ := semantic_fact_plans state pages
  dsimp only at follows
  obtain ⟨context, ran, produced, _⟩ := (fold_fact_ok).mp prepared
  rw [follows] at ran
  obtain ⟨mutations, rfl, supplies⟩ := run_supplied state script pages [] 0 _ ran
  obtain rfl : mutations = applied.mutations := produced
  refine (fold_fact_ok).mpr ⟨_, (follows _ _ _).trans (supplies _ (List.prefix_refl _)), rfl, ?_⟩
  rintro other same
  simp [← Option.some.inj same]

theorem supplied_fold_prepared (injective : Function.Injective indexMutationDigest)
    (folded : foldDomainFact state fact pages (some supplied) = .ok applied) :
    foldDomainFact state fact pages none = .ok applied ∧ supplied = applied.mutations := by
  obtain ⟨script, _, _, follows⟩ := semantic_fact_plans state pages
  dsimp only at follows
  obtain ⟨context, ran, produced, used⟩ := (fold_fact_ok).mp folded
  rw [follows] at ran
  obtain ⟨mutations, begins, rfl, prepares⟩ := run_prepared injective state script pages supplied [] 0 (Nat.zero_le _) _ ran
  have all : mutations.length = supplied.length := by simpa using used supplied rfl
  obtain rfl : mutations = supplied := begins.eq_of_length all
  exact ⟨(fold_fact_ok).mpr ⟨_, (follows _ _ _).trans prepares, produced, fun _ absurdly => by cases absurdly⟩, produced⟩

theorem prepared_and_supplied_agree (injective : Function.Injective indexMutationDigest) (state : RunState) (fact : DomainFact)
    (pages : List IndexPage) :
    (∀ applied, foldDomainFact state fact pages none = .ok applied →
      foldDomainFact state fact pages (some applied.mutations) = .ok applied ∧
        ∀ supplied, supplied ≠ applied.mutations → ∃ rejection, foldDomainFact state fact pages (some supplied) = .error rejection) ∧
      ∀ rejection, foldDomainFact state fact pages none = .error rejection →
        ∀ supplied, ∃ rejection', foldDomainFact state fact pages (some supplied) = .error rejection' := by
  constructor
  · intro applied prepared
    refine ⟨prepared_fold_accepts_own prepared, fun supplied different => ?_⟩
    cases folded : foldDomainFact state fact pages (some supplied) with
    | error rejection => exact ⟨rejection, rfl⟩
    | ok other =>
      obtain ⟨same, own⟩ := supplied_fold_prepared injective folded
      rw [prepared] at same
      cases same
      exact absurd own different
  · intro rejection refused supplied
    cases folded : foldDomainFact state fact pages (some supplied) with
    | error rejection' => exact ⟨rejection', rfl⟩
    | ok other =>
      rw [(supplied_fold_prepared injective folded).1] at refused
      cases refused

end Modes

section Sample

attribute [local instance] sampleWorld

noncomputable def authorOutput : DomainFact := ⟨sampleGenesis.runId, .workOutputAccepted (outputFact authorWork (sampleId [9, 0]))⟩

theorem author_output_folds : ∃ applied, foldDomainFact attested.run authorOutput [] none = .ok applied := by
  obtain ⟨mutations, folded⟩ := work_output_accepted_leads attested.state attested.book (tidy_orderly _ (by decide +kernel))
    (outputFact authorWork (sampleId [9, 0])) ⟨none, authorWork⟩ rfl rfl rfl rfl rfl (by decide +kernel) (by decide +kernel)
  exact ⟨_, folded⟩

theorem author_output_modes_agree : ∃ applied, foldDomainFact attested.run authorOutput [] none = .ok applied ∧
    foldDomainFact attested.run authorOutput [] (some applied.mutations) = .ok applied ∧
      ∃ rejection, foldDomainFact attested.run authorOutput [] (some (applied.mutations ++
        [⟨.work, zeroKey, none, none, []⟩])) = .error rejection := by
  obtain ⟨applied, folded⟩ := author_output_folds
  obtain ⟨own, others⟩ := (prepared_and_supplied_agree fresh_digest_injective attested.run authorOutput []).1 applied folded
  refine ⟨applied, folded, own, others _ fun same => ?_⟩
  have length := congrArg List.length same
  simp only [List.length_append, List.length_singleton] at length
  omega

end Sample

end PiAutopilot.Authority
