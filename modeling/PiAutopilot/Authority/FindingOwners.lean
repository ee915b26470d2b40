import PiAutopilot.Authority.CorrectionRun

set_option autoImplicit false

namespace PiAutopilot.Authority

open Lib Protocol

namespace Scheduling

structure FindingOwner where
  findingId : FindingId
  scope : CorrectionScope
  ownerWorkItemId : WorkItemId

def ownerForBlocking (state : RunState) (finding : BlockingFinding) : Option FindingOwner :=
  state.currentPlan.map fun plan =>
    { findingId := finding.findingId
      scope := if finding.subjectWorkItemId.isNone then .crossLane else .local
      ownerWorkItemId := finding.subjectWorkItemId.getD plan.integrationOwnerWorkItemId }

def ownerForFinding (state : RunState) : Finding → Option FindingOwner
  | .advisory finding => some ⟨finding.findingId, .local, finding.raisedByWorkItemId⟩
  | .planningGap finding => state.currentPlan.map fun plan => ⟨finding.findingId, .planWide, plan.planAuthorWorkItemId⟩
  | .integrity finding => ownerForBlocking state finding
  | .definitionOfDone finding => ownerForBlocking state finding

end Scheduling

namespace Projection

def findingOwner (state : RunState) : Finding → Option WorkItemId
  | .advisory finding => some finding.raisedByWorkItemId
  | .planningGap _ => state.currentPlan.map CurrentPlanState.planAuthorWorkItemId
  | .integrity finding | .definitionOfDone finding =>
    finding.subjectWorkItemId.or (state.currentPlan.map CurrentPlanState.integrationOwnerWorkItemId)

end Projection

section Owners

variable [Hashing]

-- What the fold lets through: a correction against a finding names this owner.
def FoldDemands (state : RunState) (finding : Finding) (owner : WorkItemId) : Prop :=
  ∀ correction context progress, declareCorrection state correction finding context = .ok progress →
    correction.originalOwnerWorkItemId = owner

-- What admission makes of a finding: a correction with this scope and owner.
def AdmissionAssigns (state : RunState) (finding : Finding) (scope : CorrectionScope) (owner : WorkItemId) : Prop :=
  ∀ actionId pages fact, correctionFact state actionId pages finding = .ok fact →
    ∃ correction, fact.body = .findingAccepted (.blockingWithCorrection correction finding) ∧ correction.scope = scope ∧
      correction.originalOwnerWorkItemId = owner

variable {plan : CurrentPlanState} {state : RunState} {blocking : BlockingFinding} {finding : Finding}

theorem fold_demands (current : state.currentPlan = some plan) (finding : Finding) :
    FoldDemands state finding (expectedOwner plan finding) := by
  intro correction context progress declared
  rw [declareCorrection, current] at declared
  obtain ⟨_, declared⟩ := refused_ok declared
  obtain ⟨sameOwner, declared⟩ := refused_ok declared
  exact not_not.mp sameOwner

theorem blocking_assigns (current : state.currentPlan = some plan) {actionId : ActionId} {pages : List IndexPage} {fact : DomainFact}
    (assigned : blockingCorrection state actionId pages finding blocking = .ok fact) :
    ∃ correction, fact.body = .findingAccepted (.blockingWithCorrection correction finding) ∧
      correction.scope = (correctionOwner plan blocking).1 ∧
      correction.originalOwnerWorkItemId = (correctionOwner plan blocking).2 := by
  rw [blockingCorrection, current] at assigned
  dsimp only at assigned
  split at assigned
  · cases assigned
  · cases assigned
    exact ⟨_, rfl, rfl, rfl⟩
  · cases assigned

def Finding.blocking? : Finding → Option BlockingFinding
  | .integrity finding | .definitionOfDone finding => some finding
  | _ => none

theorem admission_assigns (state : RunState) (plan : CurrentPlanState) (current : state.currentPlan = some plan) (blocking : BlockingFinding) (isBlocking : finding.blocking? = some blocking) :
    AdmissionAssigns state finding (correctionOwner plan blocking).1 (correctionOwner plan blocking).2 := by
  intro actionId pages fact assigned
  cases finding with
  | planningGap gap => cases isBlocking
  | advisory advice => cases isBlocking
  | integrity found | definitionOfDone found =>
    cases isBlocking
    exact blocking_assigns current assigned

structure OneOwner (state : RunState) (plan : CurrentPlanState) (finding : Finding) (blocking : BlockingFinding) : Prop where
  scheduled : Scheduling.ownerForFinding state finding =
    some ⟨blocking.findingId, (correctionOwner plan blocking).1, expectedOwner plan finding⟩
  projected : Projection.findingOwner state finding = some (expectedOwner plan finding)
  corrected : (correctionOwner plan blocking).2 = expectedOwner plan finding

omit [Hashing] in
theorem correction_owner_expected (plan : CurrentPlanState)
    (isBlocking : finding.blocking? = some blocking) : (correctionOwner plan blocking).2 = expectedOwner plan finding := by
  cases finding with
  | planningGap gap => cases isBlocking
  | advisory advice => cases isBlocking
  | integrity found | definitionOfDone found =>
    cases isBlocking
    rw [correctionOwner, expectedOwner]
    cases blocking.subjectWorkItemId with
    | some subject => rfl
    | none =>
      by_cases planned : blocking.subjectRoot = plan.planRoot
      · simp [planned]
      · simp [planned]

theorem one_owner_iff (state : RunState) (plan : CurrentPlanState) (current : state.currentPlan = some plan) (finding : Finding)
    (blocking : BlockingFinding) (isBlocking : finding.blocking? = some blocking) :
    FoldDemands state finding (expectedOwner plan finding) ∧
    AdmissionAssigns state finding (correctionOwner plan blocking).1 (correctionOwner plan blocking).2 ∧
    (OneOwner state plan finding blocking ↔ (blocking.subjectWorkItemId = none → blocking.subjectRoot ≠ plan.planRoot)) := by
  have corrected := correction_owner_expected plan isBlocking
  refine ⟨fold_demands current finding, admission_assigns state plan current blocking isBlocking, ?_⟩
  cases finding with
  | planningGap gap => cases isBlocking
  | advisory advice => cases isBlocking
  | integrity found | definitionOfDone found =>
    cases isBlocking
    constructor
    · intro oneOwner noSubject planned
      have scope := oneOwner.scheduled
      simp [Scheduling.ownerForFinding, Scheduling.ownerForBlocking, correctionOwner, current, noSubject, planned] at scope
    · intro apart
      cases subject : blocking.subjectWorkItemId with
      | some owner =>
        refine ⟨?_, ?_, corrected⟩
        · simp [Scheduling.ownerForFinding, Scheduling.ownerForBlocking, correctionOwner, expectedOwner, current, subject]
        · simp [Projection.findingOwner, expectedOwner, subject]
      | none =>
        have different := apart subject
        refine ⟨?_, ?_, corrected⟩
        · simp [Scheduling.ownerForFinding, Scheduling.ownerForBlocking, correctionOwner, expectedOwner, current, subject, different]
        · simp [Projection.findingOwner, expectedOwner, current, subject, different]

end Owners

section Sample

attribute [local instance] sampleWorld

theorem subject_owns_finding : OneOwner adopted.run (leadingPlan.planValue sampleGenesis.runId).planState sampleFinding
    ⟨⟨sampleRef, []⟩, sampleId [7, 0], followingWork.workItemId, sampleRef, sampleId [3, 5], sampleGenesis.runId,
      leadingWork.inputRoot, some leadingWork.workItemId⟩ :=
  (one_owner_iff adopted.run _ rfl sampleFinding _ rfl).2.2.mpr nofun

def sharedPlan : PlanRootAccepted := { leadingPlan with integrationOwnerWorkItemId := followingWork.workItemId }

noncomputable def sharedBook : Book
  | .plans => [(indexKey .plans samplePlanRoot.text, .plan (sharedPlan.planValue sampleGenesis.runId))]
  | name => adoptedBook name

noncomputable def shared : Stage :=
  .reached (enterExecution (sharedPlan.planValue sampleGenesis.runId).planState ordered.state) 4 sharedBook

theorem shared_records : RecordsFact ordered.run (.planRootAccepted sharedPlan) shared.run :=
  stage_records ordered (enterExecution (sharedPlan.planValue sampleGenesis.runId).planState ordered.state) sharedBook [2, 3] _
    (plan_root_accepted_leads ordered.state orderedBook (tidy_orderly _ (by decide +kernel)) [] sharedPlan
      ⟨none, leadingWork⟩ rfl rfl rfl rfl (by decide +kernel) (by decide +kernel))
    (by decide +kernel) rfl rfl rfl (by funext name; cases name <;> rfl)

-- A finding against the plan itself: the fold and admission give it to the plan's author, the scheduler and the
-- projection to the owner of the integration.
def planFinding : BlockingFinding where
  evidence := ⟨sampleRef, []⟩
  findingId := sampleId [7, 0]
  observedByWorkItemId := followingWork.workItemId
  report := sampleRef
  ruleId := sampleId [3, 5]
  runId := sampleGenesis.runId
  subjectRoot := sharedPlan.planRoot
  subjectWorkItemId := none

theorem plan_finding_two_owners : RecordsFact ordered.run (.planRootAccepted sharedPlan) shared.run ∧
    Scheduling.ownerForFinding shared.run (.integrity planFinding) = some ⟨planFinding.findingId, .crossLane, followingWork.workItemId⟩ ∧
    Projection.findingOwner shared.run (.integrity planFinding) = some followingWork.workItemId ∧
    FoldDemands shared.run (.integrity planFinding) leadingWork.workItemId ∧
    AdmissionAssigns shared.run (.integrity planFinding) .planWide leadingWork.workItemId ∧
    followingWork.workItemId ≠ leadingWork.workItemId := by
  have current : shared.run.currentPlan = some (sharedPlan.planValue sampleGenesis.runId).planState := rfl
  have demanded := fold_demands current (.integrity planFinding)
  refine ⟨shared_records, rfl, rfl, demanded, ?_, by decide⟩
  exact admission_assigns shared.run _ current planFinding rfl

end Sample

end PiAutopilot.Authority
