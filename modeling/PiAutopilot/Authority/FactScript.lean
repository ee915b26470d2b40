import PiAutopilot.Authority.FactFold
import PiAutopilot.Lib.Fallible

set_option autoImplicit false

/-! # The mutations of a fact

The checks of a fact read the state and the pages only. What is left once they have passed is a script of mutations, the
same one whether the mutations are prepared or supplied. -/

namespace PiAutopilot.Authority

open Lib Protocol

@[simp] def underflowCode : String :=
  "finding-counter-underflow"

-- A mutation hands its state on; a refusal hands back the state the fact was folded into.
inductive Script where
  | refuse (code : String) (diagnostic : JsString)
  | done (after : RunState)
  | mutate (state : RunState) (name : IndexName) (identity : JsString) (deriveNext : Option IndexValue → NextValue)
      (next : RunState → Script)

def Script.Settles : Script → Prop
  | .mutate .. => False
  | _ => True

def Script.Plain (origin : RunState) : Script → Prop
  | .mutate state _ _ _ next => state = origin ∧ ∀ after, (next after).Settles
  | _ => True

def DerivesCounted (deriveNext : Option IndexValue → NextValue) : Prop :=
  ∀ prior code diagnostic, deriveNext prior = .rejected code diagnostic → code ≠ underflowCode

def Script.Counted : Script → Prop
  | .refuse code _ => code ≠ underflowCode
  | .done _ => True
  | .mutate _ _ _ deriveNext next => DerivesCounted deriveNext ∧ ∀ after, (next after).Counted

theorem insert_only_counted (value : IndexValue) (code : String) (diagnostic : JsString) (different : code ≠ underflowCode) :
    DerivesCounted (insertOnly value code diagnostic) := by
  intro prior code' diagnostic' derived
  cases prior with
  | none => cases derived
  | some stored =>
    cases derived
    exact different

theorem accept_output_counted (inputRoot : ArtifactRoot) (acceptedOutput : AcceptedOutput) :
    DerivesCounted (acceptOutput inputRoot acceptedOutput) := by
  intro prior code diagnostic derived
  rw [acceptOutput.eq_def] at derived
  split at derived
  · split at derived
    · cases derived
      decide
    · split at derived
      · cases derived
        decide
      · cases derived
  · cases derived
    decide

theorem supersede_counted {newPlanRootId : PlanRootId} : DerivesCounted (supersede newPlanRootId) := by
  intro prior code diagnostic derived
  rw [supersede.eq_def] at derived
  split at derived
  · split at derived
    · cases derived
      decide
    · cases derived
  · cases derived
    decide

theorem observe_publication_counted {fact : PublicationObserved} : DerivesCounted (observePublication fact) := by
  intro prior code diagnostic derived
  rw [observePublication.eq_def] at derived
  split at derived
  · split at derived
    · cases derived
      decide
    · cases derived
  · cases derived
    decide

theorem clear_finding_counted (resolution : ArtifactRef) : DerivesCounted (clearFinding resolution) := by
  intro prior code diagnostic derived
  rw [clearFinding.eq_def] at derived
  split at derived
  · split at derived
    · cases derived
      decide
    · cases derived
  · cases derived
    decide

abbrev Refuses (state : RunState) (check : Except Rejection Unit) : Prop :=
  FailsOnly (fun rejection => rejection.state = state ∧ rejection.code ≠ underflowCode) check

theorem refuses_rejected {state : RunState} {code : String} {diagnostic : JsString} (different : code ≠ underflowCode) :
    Refuses state (rejected state code diagnostic) :=
  (fails_only_error).mpr ⟨rfl, different⟩

section Scripts

variable [Hashing]

def Script.run (origin : RunState) : Script → TransitionContext → Transition
  | .refuse code diagnostic, _ => rejected origin code diagnostic
  | .done after, context => .ok ⟨after, context⟩
  | .mutate state name identity deriveNext next, context => do
    let progress ← Authority.mutate state context name identity deriveNext
    (next progress.state).run origin progress.context

abbrev Attempt := Option (List IndexMutation) → List IndexMutation → Nat → Transition

-- The two conditions say which facts have a script with at most one mutation, and which never count a finding out.
def Plans (single counted : Prop) (state : RunState) (pages : List IndexPage) (attempt : Attempt) : Prop :=
  ∃ script : Script, (single → script.Plain state) ∧ (counted → script.Counted) ∧
    ∀ supplied produced cursor, attempt supplied produced cursor = script.run state ⟨pages, supplied, produced, cursor⟩

section Leaves

variable {single counted : Prop} {state : RunState} {pages : List IndexPage} {code : String} {diagnostic : JsString}

theorem plans_refusal (different : code ≠ underflowCode) : Plans single counted state pages fun _ _ _ => rejected state code diagnostic :=
  ⟨.refuse code diagnostic, fun _ => trivial, fun _ => different, fun _ _ _ => rfl⟩

theorem plans_done {after : RunState} :
    Plans single counted state pages fun supplied produced cursor => .ok ⟨after, ⟨pages, supplied, produced, cursor⟩⟩ :=
  ⟨.done after, fun _ => trivial, fun _ => trivial, fun _ _ _ => rfl⟩

variable (name : IndexName) (identity : JsString) (deriveNext : Option IndexValue → NextValue)

theorem plans_bind (derives : DerivesCounted deriveNext) (next : RunState → Script) (settles : single → ∀ after, (next after).Settles)
    (counts : counted → ∀ after, (next after).Counted) {rest : Progress → Transition}
    (follows : ∀ progress, rest progress = (next progress.state).run state progress.context) :
    Plans single counted state pages fun supplied produced cursor =>
      mutate state ⟨pages, supplied, produced, cursor⟩ name identity deriveNext >>= rest := by
  refine ⟨.mutate state name identity deriveNext next, fun isSingle => ⟨rfl, settles isSingle⟩,
    fun isCounted => ⟨derives, counts isCounted⟩, fun supplied produced cursor => ?_⟩
  rw [Script.run, funext follows]

theorem plans_mutation (derives : DerivesCounted deriveNext) (change : RunState → RunState) :
    Plans single counted state pages fun supplied produced cursor =>
      (mutate state ⟨pages, supplied, produced, cursor⟩ name identity deriveNext).map (onState change) :=
  plans_bind name identity deriveNext derives (fun after => .done (change after)) (fun _ _ => trivial) (fun _ _ => trivial) fun _ => rfl

theorem plans_insertion {value : IndexValue} (different : code ≠ underflowCode) {change : RunState → RunState} :
    Plans single counted state pages fun supplied produced cursor =>
      (mutate state ⟨pages, supplied, produced, cursor⟩ name identity (insertOnly value code diagnostic)).map (onState change) :=
  plans_mutation name identity _ (insert_only_counted value code diagnostic different) change

theorem plans_bare_insertion (value : IndexValue) (different : code ≠ underflowCode) :
    Plans single counted state pages fun supplied produced cursor =>
      mutate state ⟨pages, supplied, produced, cursor⟩ name identity (insertOnly value code diagnostic) := by
  refine ⟨.mutate state name identity _ .done, fun _ => ⟨rfl, fun _ => trivial⟩,
    fun _ => ⟨insert_only_counted value code diagnostic different, fun _ => trivial⟩, fun supplied produced cursor => ?_⟩
  exact (bind_pure _).symm

-- The second mutation starts from what the first one has left.
theorem plans_two_mutations
    (derives : DerivesCounted deriveNext) (change : RunState → RunState) {next : IndexName} (nextIdentity : JsString)
    (value : IndexValue) (different : code ≠ underflowCode) (last : RunState → RunState) :
    Plans False counted state pages fun supplied produced cursor =>
      mutate state ⟨pages, supplied, produced, cursor⟩ name identity deriveNext >>= fun progress =>
        (mutate (change progress.state) progress.context next nextIdentity (insertOnly value code diagnostic)).map (onState last) := by
  refine plans_bind name identity deriveNext derives
    (fun after => .mutate (change after) next nextIdentity (insertOnly value code diagnostic) fun after => .done (last after))
    False.elim (fun _ _ => ⟨insert_only_counted value code diagnostic different, fun _ => trivial⟩) fun progress => ?_
  rfl

-- A check that reads the state alone refuses for the state or lets the rest go on.
theorem plans_checked {check : Except Rejection Unit} {attempt : Attempt}
    (refuses : Refuses state check) (rest : Plans single counted state pages attempt) :
    Plans single counted state pages fun supplied produced cursor => check >>= fun _ => attempt supplied produced cursor := by
  cases result : check with
  | error rejection =>
    obtain ⟨rfl, different⟩ := refuses rejection result
    exact plans_refusal different
  | ok passed => exact rest

end Leaves

section Checks

variable (state : RunState) (pages : List IndexPage)

theorem current_plan_work_refuses {planRootId : PlanRootId} {workItems : List WorkItemId} :
    Refuses state (currentPlanWork state pages planRootId workItems) := by
  induction workItems with
  | nil => exact fails_only_ok
  | cons workItemId rest ih =>
    rw [currentPlanWork]
    split
    · exact refuses_rejected (by simp)
    · split
      · exact ih
      · exact refuses_rejected (by simp)
    · exact refuses_rejected (by simp)

theorem planning_gap_atoms_refuses (atomIds : List AtomId) (anchors : List SourceAnchor) (evidences : List ArtifactRef) :
    Refuses state (planningGapAtoms state pages atomIds anchors evidences) := by
  induction atomIds generalizing anchors evidences with
  | nil =>
    exact fails_only_ok
  | cons atomId atomIds ih =>
    rw [planningGapAtoms.eq_def]
    split
    · exact fails_only_ok
    · rename_i anchor' anchors' evidence' evidences' sameAtoms
      cases sameAtoms
      split
      · exact refuses_rejected (by simp)
      · split
        · exact refuses_rejected (by simp)
        · exact ih _ _
      · exact refuses_rejected (by simp)
    · exact refuses_rejected (by simp)

theorem check_finding_refuses {finding : Finding} : Refuses state (checkFinding state pages finding) := by
  rw [checkFinding.eq_def]
  split
  · rw [checkPlanningGap]
    split
    · exact refuses_rejected (by simp)
    · split
      · exact refuses_rejected (by simp)
      · split
        · exact refuses_rejected (by simp)
        · apply fails_only_bind (planning_gap_atoms_refuses state pages _ _ _)
          intro _ _
          split
          · exact refuses_rejected (by simp)
          · split
            · exact refuses_rejected (by simp)
            · exact fails_only_ok
  · exact fails_only_ok

end Checks

section Facts

variable {single counted : Prop} (state : RunState) (pages : List IndexPage)

theorem atom_dispositioned_plans {disposition : AtomDisposition} : Plans single counted state pages fun supplied produced cursor =>
      applyAtomDispositioned state disposition ⟨pages, supplied, produced, cursor⟩ := by
  simp only [applyAtomDispositioned]
  split
  · exact plans_refusal (by simp)
  · split
    · exact plans_refusal (by simp)
    · split
      · exact plans_refusal (by simp)
      · split
        · exact plans_refusal (by simp)
        · split
          · exact plans_refusal (by simp)
          · exact plans_checked (current_plan_work_refuses state pages) (plans_insertion _ _ (by simp))
    · exact plans_refusal (by simp)

theorem dependency_declared_plans {runId : RunId} {fact : DependencyDeclared} :
    Plans single counted state pages fun supplied produced cursor =>
      applyDependencyDeclared state runId fact ⟨pages, supplied, produced, cursor⟩ := by
  simp only [applyDependencyDeclared]
  split
  · exact plans_refusal (by simp)
  · split
    · split
      · exact plans_refusal (by simp)
      · split
        · exact plans_refusal (by simp)
        · split
          · exact plans_refusal (by simp)
          · exact plans_refusal (by simp)
          · exact plans_bare_insertion _ _ _ (by simp)
    · exact plans_refusal (by simp)
    · exact plans_refusal (by simp)

theorem work_output_accepted_plans {runId : RunId} {fact : WorkOutputAccepted} :
    Plans False counted state pages fun supplied produced cursor =>
      applyWorkOutputAccepted state runId fact ⟨pages, supplied, produced, cursor⟩ := by
  simp only [applyWorkOutputAccepted]
  split
  · exact plans_refusal (by simp)
  · exact plans_two_mutations .work _ _ (accept_output_counted _ _) id _ _ (by simp) _

theorem plan_root_superseded_plans {fact : PlanRootSuperseded} : Plans single counted state pages fun supplied produced cursor =>
      applyPlanRootSuperseded state fact ⟨pages, supplied, produced, cursor⟩ := by
  simp only [applyPlanRootSuperseded]
  split
  · exact plans_refusal (by simp)
  · split
    · exact plans_refusal (by simp)
    · split
      · exact plans_refusal (by simp)
      · exact plans_mutation _ _ _ (supersede_counted) _
    · exact plans_refusal (by simp)

def AcceptedFinding.mutatesOnce : AcceptedFinding → Prop
  | .blockingWithCorrection _ _ => False
  | .nonblocking _ => True

theorem finding_accepted_plans {acceptance : AcceptedFinding} :
    Plans acceptance.mutatesOnce counted state pages fun supplied produced cursor =>
      applyFindingAccepted state acceptance ⟨pages, supplied, produced, cursor⟩ := by
  simp only [applyFindingAccepted]
  split
  · exact plans_refusal (by simp)
  · refine plans_checked (check_finding_refuses state pages) ?_
    cases acceptance with
    | nonblocking finding =>
      dsimp only
      split
      · exact plans_refusal (by simp)
      · exact plans_insertion _ _ (by simp)
    | blockingWithCorrection correction finding =>
      simp only [declareCorrection]
      split
      · split
        · exact plans_refusal (by simp)
        · split
          · exact plans_refusal (by simp)
          · split
            · exact plans_refusal (by simp)
            · split
              · exact plans_refusal (by simp)
              · simp only [map_then]
                exact plans_two_mutations .work _ _ (insert_only_counted _ _ _ (by simp))
                  (fun after => incrementCounter after .declaredWork) _ _ (by simp) _
              · exact plans_refusal (by simp)
      · exact plans_refusal (by simp)

theorem finding_cleared_plans (fact : FindingCleared) : Plans single False state pages fun supplied produced cursor =>
      applyFindingCleared state fact ⟨pages, supplied, produced, cursor⟩ := by
  simp only [applyFindingCleared]
  split
  · split
    · exact plans_bind _ _ _ (clear_finding_counted _) .done (fun _ _ => trivial) False.elim fun _ => rfl
    · rename_i counter _
      refine plans_bind _ _ _ (clear_finding_counted _) (fun after =>
        (decrementCounter after counter).elim (.refuse underflowCode (js "finding counter cannot underflow")) .done) ?_ False.elim ?_
      · intro _ after
        cases decrementCounter after counter with
        | none => trivial
        | some decremented => trivial
      · intro progress
        cases decrementCounter progress.state counter with
        | none => rfl
        | some decremented => rfl
  · exact plans_bind _ _ _ (clear_finding_counted _) (fun _ => .refuse "page-unproven" (js "cleared finding page is missing"))
      (fun _ _ => trivial) False.elim fun _ => rfl

theorem publication_observed_plans {fact : PublicationObserved} : Plans single counted state pages fun supplied produced cursor =>
      applyPublicationObserved state fact ⟨pages, supplied, produced, cursor⟩ := by
  simp only [applyPublicationObserved]
  split
  · split
    · exact plans_refusal (by simp)
    · split
      · exact plans_refusal (by simp)
      · split
        · exact plans_refusal (by simp)
        · exact plans_mutation _ _ _ (observe_publication_counted) _
  · exact plans_refusal (by simp)

def FactBody.mutatesOnce : FactBody → Prop
  | .workOutputAccepted _ => False
  | .findingAccepted acceptance => acceptance.mutatesOnce
  | _ => True

def FactBody.clearsNone : FactBody → Prop
  | .findingCleared _ => False
  | _ => True

theorem semantic_fact_plans {fact : DomainFact} :
    Plans fact.body.mutatesOnce fact.body.clearsNone state pages fun supplied produced cursor =>
      applySemanticFact state fact ⟨pages, supplied, produced, cursor⟩ := by
  simp only [applySemanticFact]
  split
  · exact plans_refusal (by simp)
  · cases fact.body with
    | requirementsBound body =>
      simp only [applyRequirementsBound]
      split
      · exact plans_refusal (by simp)
      · exact plans_done
    | atomDeclared atom =>
      simp only [applyAtomDeclared]
      split
      · exact plans_refusal (by simp)
      · exact plans_insertion _ _ (by simp)
    | atomInventorySealed body =>
      simp only [applyAtomInventorySealed]
      split
      · exact plans_refusal (by simp)
      · split
        · exact plans_refusal (by simp)
        · exact plans_done
    | atomDispositioned disposition => exact atom_dispositioned_plans state pages
    | workDeclared workItem =>
      simp only [applyWorkDeclared]
      split
      · exact plans_refusal (by simp)
      · split
        · exact plans_refusal (by simp)
        · exact plans_insertion _ _ (by simp)
    | dependencyDeclared body => exact dependency_declared_plans state pages
    | workOutputAccepted body => exact work_output_accepted_plans state pages
    | planRootAccepted body =>
      simp only [applyPlanRootAccepted]
      split
      · exact plans_refusal (by simp)
      · split
        · exact plans_insertion _ _ (by simp)
        · exact plans_refusal (by simp)
        · exact plans_refusal (by simp)
    | planRootSuperseded body => exact plan_root_superseded_plans state pages
    | findingAccepted acceptance => exact finding_accepted_plans state pages
    | findingCleared body => exact finding_cleared_plans state pages body
    | evidenceObserved evidence =>
      simp only [applyEvidenceObserved]
      split
      · exact plans_refusal (by simp)
      · split
        · exact plans_refusal (by simp)
        · exact plans_insertion _ _ (by simp)
    | routeVerificationObserved body =>
      simp only [applyRouteVerificationObserved]
      split
      · exact plans_done
      · exact plans_refusal (by simp)
    | candidateAccepted body =>
      simp only [applyCandidateAccepted]
      split
      · exact plans_refusal (by simp)
      · exact plans_insertion _ _ (by simp)
    | publicationIntended body =>
      simp only [applyPublicationIntended]
      split
      · exact plans_refusal (by simp)
      · exact plans_insertion _ _ (by simp)
    | publicationObserved body => exact publication_observed_plans state pages
    | finalAttestationsRecorded body =>
      simp only [applyFinalAttestationsRecorded]
      split
      · exact plans_refusal (by simp)
      · split
        · exact plans_refusal (by simp)
        · exact plans_done

end Facts

theorem mutate_fails {state : RunState} {context : TransitionContext} {name : IndexName} {identity : JsString}
    {deriveNext : Option IndexValue → NextValue} :
    FailsOnly (fun rejection => rejection.state = state ∧ (DerivesCounted deriveNext → rejection.code ≠ underflowCode))
      (mutate state context name identity deriveNext) := by
  rw [mutate]
  dsimp only
  split
  · simp [rejected]
  · split
    · rename_i derived
      exact (fails_only_error).mpr ⟨rfl, fun derives => derives _ _ _ derived⟩
    · split
      · simp [rejected]
      · split
        · simp [rejected]
        · split
          · simp [rejected]
          · exact fails_only_ok

theorem plain_keeps_state {state : RunState} {script : Script} (plain : script.Plain state) (context : TransitionContext) :
    FailsOnly (fun rejection => rejection.state = state) (script.run state context) := by
  cases script with
  | refuse code diagnostic => exact (fails_only_error).mpr rfl
  | done after => exact fails_only_ok
  | mutate from_ name identity deriveNext next =>
    obtain ⟨rfl, settles⟩ := plain
    refine fails_only_bind (fun rejection failed => (mutate_fails rejection failed).1) fun progress _ => ?_
    have settled := settles progress.state
    cases rest : next progress.state with
    | refuse code diagnostic => exact (fails_only_error).mpr rfl
    | done after => exact fails_only_ok
    | mutate => rw [rest] at settled; exact settled.elim

theorem counted_fails (state : RunState) {script : Script} (counted : script.Counted) (context : TransitionContext) :
    FailsOnly (fun rejection => rejection.code ≠ underflowCode) (script.run state context) := by
  induction script generalizing context with
  | refuse code diagnostic => exact (fails_only_error).mpr counted
  | done after => exact fails_only_ok
  | mutate from_ name identity deriveNext next ih =>
    refine fails_only_bind (fun rejection failed => (mutate_fails rejection failed).2 counted.1) fun progress _ => ?_
    exact ih progress.state (counted.2 progress.state) progress.context

end Scripts

end PiAutopilot.Authority
