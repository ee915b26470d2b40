import PiAutopilot.Authority.SampleRun

set_option autoImplicit false

namespace PiAutopilot.Authority

open Lib Protocol

-- A log of records that each carry one fact and no command: two work items, the second after the first, a plan, and a
-- finding against the first item whose correction brings along some work.
def leadingWork : WorkItem := producingWork [0, 2]

def followingWork : WorkItem := { producingWork [0, 3] with topologicalRank := .ofNat 1 }

def correctorId : WorkItemId := sampleId [2, 0, 4]

def correctingWork (workItemId : WorkItemId) (runId : RunId) (taskRoot : ArtifactRoot) : CorrectArtifactWork where
  toCommonWork := { leadingWork.toCommonWork with workItemId := workItemId, runId := runId, taskRoot := taskRoot }
  fields :=
    { assignmentId := sampleId [3, 6]
      findingId := sampleId [7, 0]
      integratedInput := leadingWork.inputRoot
      originalOwnerWorkItemId := leadingWork.workItemId
      priorOutputRoot := leadingWork.inputRoot
      scope := .local
      subjectRoot := leadingWork.inputRoot }

def sampleFinding : Finding :=
  .integrity
    { evidence := ⟨sampleRef, []⟩
      findingId := sampleId [7, 0]
      observedByWorkItemId := followingWork.workItemId
      report := sampleRef
      ruleId := sampleId [3, 5]
      runId := sampleGenesis.runId
      subjectRoot := leadingWork.inputRoot
      subjectWorkItemId := some leadingWork.workItemId }

def sampleCorrection (work : CorrectArtifactWork) : CorrectionAssignment :=
  ⟨work.fields.assignmentId, correctorId, leadingWork.workItemId, .local, work⟩

def carrier (digits : List (Fin 16)) : Stimulus :=
  .runReplayCompleted ⟨sampleAction digits, .ofNat 0, [], sampleGenesis.runId, ⟨[0]⟩⟩

section Sample

attribute [local instance] sampleWorld

def RecordsFact (before : RunState) (fact : FactBody) (after : RunState) : Prop :=
  ∃ record, recordFacts record = [⟨sampleGenesis.runId, fact⟩] ∧ fold before record = .ok after

noncomputable def enterableAlone (book : Book) (digits : List (Fin 16)) : Bool :=
  tidy book && (entryOf book .actions (actionKey (carrier digits))).isNone && decide ((book .actions).length < maxHotIndexValues)

theorem stage_records (stage : Stage) (after : RunState) {next : Book} (final : Book) (digits : List (Fin 16)) (fact : FactBody)
    (leads : Leads stage.state stage.book ⟨sampleGenesis.runId, fact⟩ [] after next)
    (enterable : enterableAlone next digits = true) (active : stage.state.terminal = none) (noGap : after.planningGap = none)
    (unattested : after.finalAttestations = none)
    (entered : committedBook stage.state next (carrier digits) [] none = final) :
    RecordsFact stage.run fact (onBook { after with lastSequence := incrementDecimalNatural stage.state.lastSequence } final) := by
  simp only [enterableAlone, Bool.and_eq_true, Option.isNone_iff_eq_none, decide_eq_true_eq] at enterable
  obtain ⟨⟨tidyNext, absent⟩, room⟩ := enterable
  exact fact_record_folds stage.state after stage.book next final (carrier digits) rfl active
    (tidy_orderly next tidyNext) leads (fun _ => no_outcome_unattested _ _ noGap unattested) ⟨rfl, absent, room⟩ entered

def RecordedAs (facts : List FactBody) (state : RunState) : Prop :=
  ∃ records : List JournalRecord, records.map recordFacts = facts.map (fun fact => [⟨sampleGenesis.runId, fact⟩]) ∧
    foldMany (initialState sampleGenesis) records = .ok state

theorem recorded_snoc {facts : List FactBody} {fact : FactBody} {before after : RunState} (recorded : RecordedAs facts before)
    (records : RecordsFact before fact after) : RecordedAs (facts ++ [fact]) after := by
  obtain ⟨log, carried, ran⟩ := recorded
  obtain ⟨record, carries, folds⟩ := records
  exact ⟨log ++ [record], by simp [carried, carries], (foldlM_snoc).mpr ⟨before, ran, folds⟩⟩

theorem recorded_facts {facts : List FactBody} {state : RunState} (recorded : RecordedAs facts state)
    {allowed : FactBody → Prop} (all : ∀ fact ∈ facts, allowed fact) :
    ∃ records, records.length = facts.length ∧ foldMany (initialState sampleGenesis) records = .ok state ∧
      ∀ record ∈ records, ∀ fact ∈ recordFacts record, allowed fact.body := by
  obtain ⟨records, carried, ran⟩ := recorded
  refine ⟨records, by simpa using congrArg List.length carried, ran, ?_⟩
  intro record member fact isFact
  have listed : recordFacts record ∈ records.map recordFacts := List.mem_map_of_mem member
  rw [carried] at listed
  obtain ⟨body, isBody, same⟩ := List.mem_map.mp listed
  rw [← same, List.mem_singleton] at isFact
  subst isFact
  exact all body isBody

noncomputable def ledBook : Book
  | .actions => [actedEntry [2, 0] .decisionCommitted 1]
  | .work => [workEntry ⟨none, leadingWork⟩]
  | _ => []

noncomputable def led : Stage := .reached (incrementCounter opened.state .declaredWork) 1 ledBook

theorem led_records : RecordsFact opened.run (.workDeclared leadingWork) led.run :=
  stage_records opened (incrementCounter opened.state .declaredWork) ledBook [2, 0] _
    (work_declared_leads opened.state opened.book empty_book_orderly [] leadingWork rfl rfl (by decide) rfl (by decide))
    (by decide +kernel) rfl rfl rfl (by funext name; cases name <;> rfl)

noncomputable def followedBook : Book
  | .actions => [actedEntry [2, 0] .decisionCommitted 1, actedEntry [2, 1] .decisionCommitted 2]
  | .work => [workEntry ⟨none, leadingWork⟩, workEntry ⟨none, followingWork⟩]
  | name => ledBook name

noncomputable def followed : Stage := .reached (incrementCounter led.state .declaredWork) 2 followedBook

theorem followed_records : RecordsFact led.run (.workDeclared followingWork) followed.run :=
  stage_records led (incrementCounter led.state .declaredWork) followedBook [2, 1] _
    (work_declared_leads led.state ledBook (tidy_orderly _ (by decide +kernel)) [] followingWork rfl rfl (by decide)
      (by decide +kernel) (by decide +kernel))
    (by decide +kernel) rfl rfl rfl (by funext name; cases name <;> rfl)

def sampleDependency : DependencyDeclared := ⟨leadingWork.workItemId, followingWork.workItemId, samplePlanRoot⟩

noncomputable def dependencyEntry : Key × IndexValue :=
  (indexKey .dependencies (edgeIdentity leadingWork.workItemId followingWork.workItemId),
    .dependency ⟨leadingWork.workItemId, followingWork.workItemId, samplePlanRoot, sampleGenesis.runId⟩)

noncomputable def orderedBook : Book
  | .actions => [actedEntry [2, 0] .decisionCommitted 1, actedEntry [2, 1] .decisionCommitted 2,
      actedEntry [2, 2] .decisionCommitted 3]
  | .dependencies => [dependencyEntry]
  | name => followedBook name

noncomputable def ordered : Stage := .reached followed.state 3 orderedBook

theorem ordered_records : RecordsFact followed.run (.dependencyDeclared sampleDependency) ordered.run :=
  stage_records followed followed.state orderedBook [2, 2] _
    (dependency_declared_leads followed.state followedBook (tidy_orderly _ (by decide +kernel)) [] sampleDependency ⟨none, leadingWork⟩ (by decide +kernel) rfl rfl rfl rfl (by decide +kernel) (by decide +kernel)
      (by decide +kernel) (by decide +kernel))
    (by decide +kernel) rfl rfl rfl (by funext name; cases name <;> rfl)

def leadingPlan : PlanRootAccepted where
  coverageRoot := ⟨[14]⟩
  integrationOwnerWorkItemId := leadingWork.workItemId
  planAuthorWorkItemId := leadingWork.workItemId
  planRoot := ⟨[14, 1]⟩
  planRootId := samplePlanRoot
  reviewedPlan := sampleRef

noncomputable def adoptedBook : Book
  | .actions => [actedEntry [2, 0] .decisionCommitted 1, actedEntry [2, 1] .decisionCommitted 2,
      actedEntry [2, 2] .decisionCommitted 3, actedEntry [2, 3] .decisionCommitted 4]
  | .plans => [(indexKey .plans samplePlanRoot.text, .plan (leadingPlan.planValue sampleGenesis.runId))]
  | name => orderedBook name

noncomputable def adopted : Stage :=
  .reached (enterExecution (leadingPlan.planValue sampleGenesis.runId).planState ordered.state) 4 adoptedBook

theorem adopted_records : RecordsFact ordered.run (.planRootAccepted leadingPlan) adopted.run :=
  stage_records ordered (enterExecution (leadingPlan.planValue sampleGenesis.runId).planState ordered.state) adoptedBook [2, 3] _
    (plan_root_accepted_leads ordered.state orderedBook (tidy_orderly _ (by decide +kernel)) [] leadingPlan
      ⟨none, leadingWork⟩ rfl rfl rfl rfl (by decide +kernel) (by decide +kernel))
    (by decide +kernel) rfl rfl rfl (by funext name; cases name <;> rfl)

theorem adopted_recorded : RecordedAs [.workDeclared leadingWork, .workDeclared followingWork,
    .dependencyDeclared sampleDependency, .planRootAccepted leadingPlan] adopted.run := by
  have start : RecordedAs [] opened.run := ⟨[], rfl, congrArg Except.ok opened_run.symm⟩
  have first := recorded_snoc start led_records
  have second := recorded_snoc first followed_records
  have third := recorded_snoc second ordered_records
  exact recorded_snoc third adopted_records

variable (work : CorrectArtifactWork)

-- The correction work as it came with the finding, with or without its output.
noncomputable def correctedEntry (output : Option AcceptedOutput) : Key × IndexValue :=
  (indexKey .work correctorId.text, .work ⟨output, work.workItem⟩)

noncomputable def correctedBook : Book
  | .actions => [actedEntry [2, 0] .decisionCommitted 1, actedEntry [2, 1] .decisionCommitted 2,
      actedEntry [2, 2] .decisionCommitted 3, actedEntry [2, 3] .decisionCommitted 4, actedEntry [2, 4] .decisionCommitted 5]
  | .findings => [(indexKey .findings sampleFinding.findingId.text,
      .finding ⟨some correctorId, sampleFinding, none, .open⟩)]
  | .work => [workEntry ⟨none, leadingWork⟩, workEntry ⟨none, followingWork⟩, correctedEntry work none]
  | name => adoptedBook name

noncomputable def corrected : Stage :=
  .reached (noteFinding sampleFinding (incrementCounter adopted.state .declaredWork)) 5 (correctedBook work)

theorem corrected_records (plan : work.planRootId = samplePlanRoot) :
    RecordsFact adopted.run (.findingAccepted (.blockingWithCorrection (sampleCorrection work) sampleFinding)) (corrected work).run :=
  stage_records adopted (noteFinding sampleFinding (incrementCounter adopted.state .declaredWork)) (correctedBook work) [2, 4] _
    (correction_leads adopted.state adoptedBook (tidy_orderly _ (by decide +kernel)) [] (sampleCorrection work) sampleFinding ⟨none, leadingWork⟩ rfl rfl rfl plan rfl rfl rfl rfl
      (by decide +kernel) (by decide +kernel))
    rfl rfl rfl rfl (by funext name; cases name <;> rfl)

theorem corrected_recorded (plan : work.planRootId = samplePlanRoot) :
    RecordedAs [.workDeclared leadingWork, .workDeclared followingWork, .dependencyDeclared sampleDependency,
      .planRootAccepted leadingPlan, .findingAccepted (.blockingWithCorrection (sampleCorrection work) sampleFinding)]
      (corrected work).run :=
  recorded_snoc adopted_recorded (corrected_records work plan)

def correctorOutput : WorkOutputAccepted where
  accountedDiff := sampleRef
  evidence := []
  inputRoot := leadingWork.inputRoot
  outputRoot := ⟨[14, 2]⟩
  planRootId := samplePlanRoot
  submissionId := sampleId [8, 0]
  workItemId := correctorId

noncomputable def resubmittedBook : Book
  | .actions => [actedEntry [2, 0] .decisionCommitted 1, actedEntry [2, 1] .decisionCommitted 2,
      actedEntry [2, 2] .decisionCommitted 3, actedEntry [2, 3] .decisionCommitted 4, actedEntry [2, 4] .decisionCommitted 5,
      actedEntry [2, 5] .decisionCommitted 6]
  | .submissions => [(indexKey .submissions correctorOutput.submissionId.text,
      .submission ⟨correctorOutput.acceptedOutput, samplePlanRoot, sampleGenesis.runId, correctorId⟩)]
  | .work => [workEntry ⟨none, leadingWork⟩, workEntry ⟨none, followingWork⟩,
      correctedEntry work (some correctorOutput.acceptedOutput)]
  | name => correctedBook work name

noncomputable def resubmitted : Stage := .reached (incrementCounter (corrected work).state .acceptedWork) 6 (resubmittedBook work)

theorem resubmitted_records (input : work.inputRoot = leadingWork.inputRoot) :
    RecordsFact (corrected work).run (.workOutputAccepted correctorOutput) (resubmitted work).run :=
  stage_records (corrected work) (incrementCounter (corrected work).state .acceptedWork) (resubmittedBook work) [2, 5] _
    (work_output_accepted_leads (corrected work).state (correctedBook work) (tidy_orderly _ rfl) correctorOutput
      ⟨none, work.workItem⟩ rfl rfl input rfl rfl (show 3 < maxHotIndexValues by decide)
      (show 0 < maxHotIndexValues by decide))
    rfl rfl rfl rfl (by funext name; cases name <;> rfl)

theorem resubmitted_recorded (plan : work.planRootId = samplePlanRoot) (input : work.inputRoot = leadingWork.inputRoot) :
    RecordedAs [.workDeclared leadingWork, .workDeclared followingWork, .dependencyDeclared sampleDependency,
      .planRootAccepted leadingPlan, .findingAccepted (.blockingWithCorrection (sampleCorrection work) sampleFinding),
      .workOutputAccepted correctorOutput] (resubmitted work).run :=
  recorded_snoc (corrected_recorded work plan) (resubmitted_records work input)

end Sample

end PiAutopilot.Authority
