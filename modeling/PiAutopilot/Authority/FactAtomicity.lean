import PiAutopilot.Authority.FactModes

set_option autoImplicit false

/-! # What a rejected fact hands back

A fact that mutates two indexes hands back the state between its mutations when the second one is rejected. -/

namespace PiAutopilot.Authority

open Lib Protocol

section Atomicity

variable [Hashing] {state : RunState} {name : IndexName} {identity : JsString} {deriveNext : Option IndexValue → NextValue}
  {context : TransitionContext} {supplied : Option (List IndexMutation)} {pages : List IndexPage}

-- A mutation reads one index of the state.
theorem mutate_transfers {other : RunState} {context' : TransitionContext}
    (sameIndex : other.indexes name = state.indexes name) (samePages : context'.pages = context.pages)
    (sameSupplied : context'.supplied = context.supplied) (sameCursor : context'.cursor = context.cursor) (moves : ∃ progress, mutate state context name identity deriveNext = .ok progress) :
    ∃ progress, mutate other context' name identity deriveNext = .ok progress := by
  obtain ⟨progress, moved⟩ := moves
  obtain ⟨prepared, mutation, prior, next, changed, ⟨proved, derived, prepares, applies⟩, chosen, _⟩ := (mutate_ok_iff).mp moved
  refine ⟨_, (mutate_ok_iff).mpr ⟨prepared, mutation, prior, next, changed, ⟨?_, derived, ?_, ?_⟩, ?_, rfl⟩⟩
  · rw [sameIndex, samePages]
    exact proved
  · rw [sameIndex, samePages]
    exact prepares
  · rw [sameIndex]
    exact applies
  · rw [Chosen, sameSupplied, sameCursor]
    exact chosen

theorem apply_changes_root (collisionFree : CollisionFree IndexValue) {index changed : RunIndex} {mutation : IndexMutation}
    {prior next : Option IndexValue} (applies : applyIndexMutation index mutation prior next = .applied changed)
    (same : changed.root = index.root) : prior = next := by
  rw [applyIndexMutation] at applies
  split at applies
  · cases applies
  · dsimp only at applies
    split at applies
    · cases applies
    · split at applies
      · cases applies
      · rename_i newRoot climbed
        split at applies
        · cases applies
        · rename_i bound
          split at applies
          · cases applies
          · cases applies
            obtain rfl : newRoot = index.root := same
            rw [not_not] at bound
            rw [sparseRoot] at bound climbed
            split at bound
            · cases bound
            · rename_i depth
              rw [if_neg depth] at climbed
              have leaves := climb_injective sparseNodeDigest collisionFree.sparse.node _ _ _ _ (Option.some.inj (bound.trans climbed.symm))
              exact map_digest_injective collisionFree (leaf_digest_injective collisionFree.sparse leaves)

theorem mutation_changes_state (collisionFree : CollisionFree IndexValue)
    (renews : ∀ prior next, deriveNext prior = .next next → prior ≠ next) {progress : Progress}
    (moved : mutate state context name identity deriveNext = .ok progress) : progress.state.indexes ≠ state.indexes := by
  obtain ⟨prepared, mutation, prior, next, changed, mutates, _, rfl⟩ := (mutate_ok_iff).mp moved
  intro same
  have sameIndex : changed = state.indexes name := by
    rw [← same]
    exact (Function.update_self name changed state.indexes).symm
  exact renews prior next mutates.derived (apply_changes_root collisionFree mutates.applies (by rw [sameIndex]))

def Moves (state : RunState) (pages : List IndexPage) (supplied : Option (List IndexMutation)) (cursor : Nat) (name : IndexName)
    (identity : JsString) (deriveNext : Option IndexValue → NextValue) : Prop :=
  ∃ progress, mutate state ⟨pages, supplied, [], cursor⟩ name identity deriveNext = .ok progress

abbrev KeepsState {α : Type} (state : RunState) (attempt : Except Rejection α) : Prop :=
  FailsOnly (fun rejection => rejection.state = state) attempt

-- What the first of two mutations has left for the second.
structure Between (state : RunState) (pages : List IndexPage) (supplied : Option (List IndexMutation)) (name : IndexName)
    (middle : Progress) : Prop where
  changed : middle.state.indexes ≠ state.indexes
  sameIndex : middle.state.indexes name = state.indexes name
  pages : middle.context.pages = pages
  supplied : middle.context.supplied = supplied
  cursor : middle.context.cursor = 1

theorem between_mutations (collisionFree : CollisionFree IndexValue) (state : RunState) (pages : List IndexPage) (first second : IndexName) (apart : second ≠ first) (identity : JsString)
    (deriveNext : Option IndexValue → NextValue) (renews : ∀ prior next, deriveNext prior = .next next → prior ≠ next)
    (middle : Progress) (moved : mutate state ⟨pages, supplied, [], 0⟩ first identity deriveNext = .ok middle) :
    Between state pages supplied second middle := by
  have changed := mutation_changes_state collisionFree renews moved
  obtain ⟨prepared, mutation, prior, next, index, _, _, rfl⟩ := (mutate_ok_iff).mp moved
  refine ⟨changed, ?_, rfl, rfl, rfl⟩
  exact Function.update_of_ne (f := state.indexes) (v := index) apart

theorem two_mutations_keep_state {first : Transition} (keeps : KeepsState state first) {change : Progress → Progress}
    (between : ∀ middle, first = .ok middle → Between state pages supplied name middle) :
    KeepsState state (first >>= fun middle => (mutate middle.state middle.context name identity deriveNext).map change) ↔
      ((∃ middle, first = .ok middle) → Moves state pages supplied 1 name identity deriveNext) := by
  cases result : first with
  | error rejection =>
    refine ⟨fun _ applied => ?_, fun _ => (fails_only_error).mpr (keeps rejection result)⟩
    obtain ⟨_, absurdly⟩ := applied
    cases absurdly
  | ok middle =>
    obtain ⟨changed, sameIndex, samePages, sameSupplied, sameCursor⟩ := between middle result
    refine Iff.trans (fails_only_map) ⟨fun keepsState _ => ?_, fun moves => ?_⟩
    · cases second : mutate middle.state middle.context name identity deriveNext with
      | error rejection =>
        have back : rejection.state = state := keepsState rejection second
        rw [(mutate_fails rejection second).1] at back
        exact absurd (congrArg RunState.indexes back) changed
      | ok progress =>
        exact mutate_transfers sameIndex.symm samePages.symm sameSupplied.symm sameCursor.symm ⟨progress, second⟩
    · obtain ⟨progress, second⟩ : ∃ progress, mutate middle.state middle.context name identity deriveNext = .ok progress :=
        mutate_transfers sameIndex samePages sameSupplied sameCursor (moves ⟨middle, rfl⟩)
      rw [second]
      exact fails_only_ok

omit [Hashing] in
theorem insert_only_renews {value : IndexValue} {code : String} {diagnostic : JsString} (prior next : Option IndexValue)
    (derived : insertOnly value code diagnostic prior = .next next) : prior ≠ next := by
  cases prior with
  | none =>
    cases derived
    exact (Option.some_ne_none value).symm
  | some stored => cases derived

omit [Hashing] in
theorem accept_output_renews {inputRoot : ArtifactRoot} {acceptedOutput : AcceptedOutput} (prior next : Option IndexValue)
    (derived : acceptOutput inputRoot acceptedOutput prior = .next next) : prior ≠ next := by
  rw [acceptOutput.eq_def] at derived
  split at derived
  · rename_i work
    split at derived
    · cases derived
    · split at derived
      · cases derived
      · rename_i waiting
        cases derived
        intro same
        injection same with same
        injection same with same
        rw [same] at waiting
        exact waiting rfl
  · cases derived

variable (state : RunState)

-- The submission can be recorded if the output can.
def OutputFits (runId : RunId) (output : WorkOutputAccepted) (pages : List IndexPage) (supplied : Option (List IndexMutation)) : Prop :=
  state.currentPlan.map CurrentPlanState.planRootId = some output.planRootId →
    Moves state pages supplied 0 .work output.workItemId.text (acceptOutput output.inputRoot output.acceptedOutput) →
    Moves state pages supplied 1 .submissions output.submissionId.text
      (insertOnly (.submission ⟨output.acceptedOutput, output.planRootId, runId, output.workItemId⟩) "duplicate-submission"
        (js "submission already exists"))

variable (correction : CorrectionAssignment) (finding : Finding)

-- The finding can be recorded if its correction can.
def FindingFits (pages : List IndexPage) (supplied : Option (List IndexMutation)) : Prop :=
  finding.runId = state.identity.runId → blockingKind finding.kind = true →
    (∃ progress, declareCorrection state correction finding ⟨pages, supplied, [], 0⟩ = .ok progress) →
    Moves state pages supplied 1 .findings finding.findingId.text
      (insertOnly (.finding ⟨some correction.correctorWorkItemId, finding, none, .open⟩) "duplicate-finding"
        (js "finding already exists"))

def SecondFits (fact : DomainFact) (pages : List IndexPage) (supplied : Option (List IndexMutation)) : Prop :=
  match fact.body with
  | .workOutputAccepted output => fact.runId = state.identity.runId → OutputFits state fact.runId output pages supplied
  | .findingAccepted (.blockingWithCorrection correction finding) =>
    fact.runId = state.identity.runId → FindingFits state correction finding pages supplied
  | _ => True

theorem work_output_keeps_state (collisionFree : CollisionFree IndexValue) {state : RunState} {runId : RunId}
    {output : WorkOutputAccepted} :
    KeepsState state (applyWorkOutputAccepted state runId output ⟨pages, supplied, [], 0⟩) ↔
      OutputFits state runId output pages supplied := by
  rw [applyWorkOutputAccepted]
  by_cases planned : state.currentPlan.map CurrentPlanState.planRootId = some output.planRootId
  · rw [if_neg (not_not_intro planned)]
    refine Iff.trans (two_mutations_keep_state (fun rejection failed => (mutate_fails _ failed).1) fun middle moved => ?_) ⟨fun fits _ => fits, fun fits => fits planned⟩
    exact between_mutations collisionFree state pages .work .submissions (by decide) _ _ (accept_output_renews) middle moved
  · rw [if_pos planned]
    exact ⟨fun _ isPlanned => absurd isPlanned planned, fun _ => (fails_only_error).mpr rfl⟩

theorem declare_correction_keeps_state : KeepsState state (declareCorrection state correction finding context) := by
  rw [declareCorrection]
  split
  · exact (fails_only_error).mpr rfl
  · split
    · exact (fails_only_error).mpr rfl
    · split
      · exact (fails_only_error).mpr rfl
      · split
        · exact (fails_only_error).mpr rfl
        · exact (fails_only_map).mpr fun rejection failed => (mutate_fails _ failed).1
        · exact (fails_only_error).mpr rfl

theorem declare_correction_ok {middle : Progress} (declared : declareCorrection state correction finding context = .ok middle) :
    ∃ progress, middle = counted .declaredWork progress ∧ mutate state context .work correction.correctorWorkItemId.text
        (insertOnly (.work ⟨none, correction.work.workItem⟩) "duplicate-work-item" (js "correction work already exists")) =
        .ok progress := by
  rw [declareCorrection] at declared
  split at declared
  · cases declared
  · obtain ⟨_, declared⟩ := refused_ok declared
    obtain ⟨_, declared⟩ := refused_ok declared
    split at declared
    · cases declared
    · obtain ⟨progress, moved, rfl⟩ := map_ok declared
      exact ⟨progress, rfl, moved⟩
    · cases declared

theorem correction_keeps_state (collisionFree : CollisionFree IndexValue) (state : RunState) (correction : CorrectionAssignment)
    (finding : Finding) (pages : List IndexPage) (supplied : Option (List IndexMutation)) :
    KeepsState state (applyFindingAccepted state (.blockingWithCorrection correction finding) ⟨pages, supplied, [], 0⟩) ↔
      FindingFits state correction finding pages supplied := by
  rw [applyFindingAccepted, AcceptedFinding.finding]
  by_cases sameRun : finding.runId = state.identity.runId
  · rw [if_neg (not_not_intro sameRun)]
    by_cases blocking : blockingKind finding.kind = true
    · have unchecked : checkFinding state pages finding = .ok () := by
        cases finding with
        | planningGap gap => cases blocking
        | _ => rfl
      rw [unchecked]
      simp only [blocking, if_true]
      refine Iff.trans (two_mutations_keep_state (declare_correction_keeps_state state correction finding) fun middle declared => ?_) ⟨fun fits _ _ => fits, fun fits => fits sameRun blocking⟩
      obtain ⟨progress, rfl, moved⟩ := declare_correction_ok state correction finding declared
      obtain ⟨changed, sameIndex, samePages, sameSupplied, sameCursor⟩ := between_mutations collisionFree state pages
        .work .findings (by decide) _ _ (insert_only_renews) progress moved
      exact ⟨changed, sameIndex, samePages, sameSupplied, sameCursor⟩
    · refine ⟨fun _ _ isBlocking => absurd isBlocking blocking, fun _ => ?_⟩
      refine fails_only_bind (fun rejection failed => (check_finding_refuses state pages rejection failed).1) fun _ _ => ?_
      simp only [blocking]
      exact (fails_only_error).mpr rfl
  · rw [if_pos sameRun]
    exact ⟨fun _ isRun => absurd isRun sameRun, fun _ => (fails_only_error).mpr rfl⟩

theorem fold_keeps_state_iff {fact : DomainFact} : KeepsState state (foldDomainFact state fact pages supplied) ↔
      KeepsState state (applySemanticFact state fact ⟨pages, supplied, [], 0⟩) := by
  rw [foldDomainFact]
  cases result : applySemanticFact state fact ⟨pages, supplied, [], 0⟩ with
  | error rejection =>
    constructor
    · exact fun keeps => (fails_only_error).mpr (keeps rejection rfl)
    · exact fun keeps => (fails_only_error).mpr (keeps rejection rfl)
  | ok progress =>
    refine ⟨fun _ => fails_only_ok, fun _ => ?_⟩
    show KeepsState state (if _ then _ else _)
    split
    · exact (fails_only_error).mpr rfl
    · exact fails_only_ok

theorem rejected_fold_keeps_state_iff (collisionFree : CollisionFree IndexValue) (state : RunState) (fact : DomainFact)
    (pages : List IndexPage) (supplied : Option (List IndexMutation)) :
    (∀ rejection, foldDomainFact state fact pages supplied = .error rejection → rejection.state = state) ↔
      SecondFits state fact pages supplied := by
  refine (fold_keeps_state_iff state).trans ?_
  by_cases once : fact.body.mutatesOnce
  · obtain ⟨script, plain, _, follows⟩ := semantic_fact_plans state pages
    have keeps := plain_keeps_state (plain once) ⟨pages, supplied, [], 0⟩
    rw [← follows] at keeps
    refine ⟨fun _ => ?_, fun _ => keeps⟩
    rw [SecondFits]
    split
    · rename_i body
      simp [body, FactBody.mutatesOnce] at once
    · rename_i body
      simp [body, FactBody.mutatesOnce, AcceptedFinding.mutatesOnce] at once
    · trivial
  · rw [applySemanticFact]
    by_cases sameRun : fact.runId = state.identity.runId
    · rw [if_neg (not_not_intro sameRun), SecondFits]
      cases body : fact.body with
      | workOutputAccepted output =>
        refine (work_output_keeps_state collisionFree).trans ?_
        exact ⟨fun fits _ => fits, fun fits => fits sameRun⟩
      | findingAccepted acceptance =>
        cases acceptance with
        | blockingWithCorrection correction finding =>
          refine (correction_keeps_state collisionFree state correction finding pages supplied).trans ?_
          exact ⟨fun fits _ => fits, fun fits => fits sameRun⟩
        | nonblocking finding => simp [body, FactBody.mutatesOnce, AcceptedFinding.mutatesOnce] at once
      | _ => simp [body, FactBody.mutatesOnce] at once
    · rw [if_pos sameRun, SecondFits]
      refine ⟨fun _ => ?_, fun _ => (fails_only_error).mpr rfl⟩
      split
      · exact fun isRun => absurd isRun sameRun
      · exact fun isRun => absurd isRun sameRun
      · trivial

end Atomicity

section Sample

attribute [local instance] sampleWorld

theorem author_output_second_fits : SecondFits attested.run authorOutput [] none := by
  obtain ⟨applied, folded⟩ := author_output_folds
  refine (rejected_fold_keeps_state_iff sample_collision_free attested.run authorOutput [] none).mp fun rejection failed => ?_
  rw [folded] at failed
  cases failed

-- The record carries the mutation of the work item but not that of the submission.
theorem unmatched_submission_hands_back_work : ∃ mutation rejection,
    foldDomainFact attested.run authorOutput [] (some [mutation]) = .error rejection ∧ rejection.state.indexes ≠ attested.run.indexes := by
  obtain ⟨applied, folded⟩ := author_output_folds
  obtain ⟨context, ran, _⟩ := (fold_fact_ok).mp folded
  obtain ⟨work, moved, _⟩ := bind_ok (show (mutate attested.run ⟨[], none, [], 0⟩ .work _ _ >>= _) = _ from ran)
  obtain ⟨mutation, _, supplies⟩ := mutate_supplied moved
  have first := supplies [mutation] rfl
  have changed := mutation_changes_state sample_collision_free (accept_output_renews) moved
  cases second : mutate work.state ⟨[], some [mutation], [mutation], 1⟩ .submissions (sampleId [9, 0] : SubmissionId).text
      (insertOnly (.submission ⟨(outputFact authorWork (sampleId [9, 0])).acceptedOutput, authorWork.planRootId,
        sampleGenesis.runId, authorWork.workItemId⟩) "duplicate-submission" (js "submission already exists")) with
  | ok progress =>
    obtain ⟨_, absurdly, _⟩ := mutate_prepared fresh_digest_injective second
    cases absurdly
  | error rejection =>
    refine ⟨mutation, rejection, ?_, (mutate_fails rejection second).1 ▸ changed⟩
    have failed : applySemanticFact attested.run authorOutput ⟨[], some [mutation], [], 0⟩ = .error rejection := by
      show (mutate attested.run ⟨[], some [mutation], [], 0⟩ .work _ _ >>= _) = _
      rw [first]
      exact congrArg (Except.map (counted .acceptedWork)) second
    rw [foldDomainFact, failed]
    rfl

end Sample

end PiAutopilot.Authority
