import PiAutopilot.Authority.SampleRun
import PiAutopilot.Authority.StoredEntries

set_option autoImplicit false

namespace PiAutopilot.Authority

open Lib Protocol

section SinglePlan

variable [Hashing]

-- The phase, the plan in force and the plans index say the same.
structure SinglePlan (state : RunState) (contents : Contents) : Prop where
  phase : state.phase = .execution ↔ state.currentPlan ≠ none
  stored : PlansStored state contents
  current : Entries (contents .plans) fun _ value => ∃ plan, value = .plan plan ∧ state.currentPlan = some plan.planState

variable {state after : RunState} {contents : Contents} (single : SinglePlan state contents)

include single

theorem single_plan_entry {key : Key} {plan : PlanIndexValue} (found : contents .plans key = some (.plan plan)) :
    key = indexKey .plans plan.planRootId.text ∧ state.currentPlan = some plan.planState := by
  obtain ⟨keyedPlan, sameKeyed, keyed⟩ := single.stored.plans key _ found
  obtain ⟨currentPlan, sameCurrent, current⟩ := single.current key _ found
  cases sameKeyed
  cases sameCurrent
  exact ⟨keyed, current⟩

-- Every entry is a copy of the plan in force, so all entries carry one identity and hence one key.
theorem single_plan_key (key key' : Key)
    (value value' : IndexValue) (found : contents .plans key = some value) (found' : contents .plans key' = some value') :
    key = key' := by
  obtain ⟨plan, rfl, _⟩ := single.current key value found
  obtain ⟨plan', rfl, _⟩ := single.current key' value' found'
  obtain ⟨keyed, current⟩ := single_plan_entry single found
  obtain ⟨keyed', current'⟩ := single_plan_entry single found'
  have sameRoot : plan.planRootId = plan'.planRootId := by
    rw [current] at current'
    exact congrArg CurrentPlanState.planRootId (Option.some.inj current')
  rw [keyed, keyed', sameRoot]

theorem single_plan_frame {maps : Contents}
    (plans : maps .plans = contents .plans) (current : after.currentPlan = state.currentPlan)
    (phase : after.phase = state.phase) : SinglePlan after maps where
  phase := by
    rw [phase, current]
    exact single.phase
  stored := plans_stored_frame single.stored plans current
  current := by
    rw [plans, current]
    exact single.current

theorem single_plan_accept {runId : RunId}
    {fact : PlanRootAccepted} (noPlan : state.currentPlan = none) (phase : after.phase = .execution)
    (current : after.currentPlan = some (fact.planValue runId).planState) :
    SinglePlan after (putAt contents .plans fact.planRootId.text (.plan (fact.planValue runId))) where
  phase := by simp [phase, current]
  stored := plans_stored_accept single.stored current
  current := by
    refine entries_put ?_ ⟨_, rfl, current⟩
    intro key value found
    obtain ⟨_, _, isCurrent⟩ := single.current key value found
    rw [noPlan] at isCurrent
    cases isCurrent

variable {fact : PlanRootSuperseded} {body : FactBody}

-- Both plans a supersession names are the plan in force, so it changes no more than the mark.
theorem single_plan_supersede {target prior : PlanIndexValue}
    (targetStored : contents .plans (indexKey .plans fact.newPlanRootId.text) = some (.plan target))
    (priorStored : contents .plans (indexKey .plans fact.priorPlanRootId.text) = some (.plan prior))
    (phase : after.phase = state.phase) (current : after.currentPlan = some target.planState) :
    SinglePlan after (putAt contents .plans fact.priorPlanRootId.text (.plan { prior with supersededBy := some fact.newPlanRootId })) := by
  obtain ⟨_, targetCurrent⟩ := single_plan_entry single targetStored
  obtain ⟨_, priorCurrent⟩ := single_plan_entry single priorStored
  have unchanged : after.currentPlan = state.currentPlan := current.trans targetCurrent.symm
  refine ⟨?_, plans_stored_supersede single.stored targetStored priorStored current, ?_⟩
  · rw [phase, unchanged]
    exact single.phase
  · refine entries_put ?_ ⟨_, rfl, unchanged.trans priorCurrent⟩
    rw [unchanged]
    exact single.current

omit single

omit [Hashing] in
theorem note_finding_phase {finding : Finding} {state : RunState} : (noteFinding finding state).phase = state.phase := by
  cases finding <;> rfl

variable {state after : RunState} {contents maps : Contents} {runId : RunId}

theorem fact_step_phase (step : FactStep state contents runId body after maps) (other : ∀ fact, body ≠ .planRootAccepted fact) :
    after.phase = state.phase := by
  cases step with
  | planRootAccepted fact => exact absurd rfl (other fact)
  | blockingFindingAccepted correction finding => exact note_finding_phase
  | nonblockingFindingAccepted finding => exact note_finding_phase
  | findingCleared fact prior stored isOpen _ uncounted =>
    rw [FindingUncounted] at uncounted
    split at uncounted
    · rw [uncounted]
      rfl
    · rw [decrementCounter] at uncounted
      obtain ⟨next, _, rfl⟩ := Option.map_eq_some_iff.mp uncounted
      rfl
  | _ => rfl

theorem single_plan_fact_step
    (step : FactStep state contents runId body after maps) (single : SinglePlan state contents) : SinglePlan after maps := by
  have unwritten := fact_step_unwritten step
  have selection := fact_step_selection step
  have phase := fact_step_phase step
  cases step with
  | planRootAccepted fact _ noPlan => exact single_plan_accept single noPlan rfl rfl
  | planRootSuperseded fact _ _ target prior targetStored _ priorStored =>
    exact single_plan_supersede single targetStored priorStored rfl rfl
  | candidateAccepted | publicationIntended | publicationObserved | finalAttestationsRecorded =>
    exact single_plan_frame single (unwritten .plans (by simp [writtenIndexes])) rfl rfl
  | _ =>
    exact single_plan_frame single (unwritten .plans (by simp [writtenIndexes])) (selection rfl).plan (phase fun _ same => by cases same)

theorem single_plan_preserved : Preserved SinglePlan :=
  preserved_aside single_plan_fact_step fun single same => single_plan_frame single (same .plans (by decide)) rfl rfl

theorem initial_single_plan {genesis : RunGenesis} : SinglePlan (initialState genesis) fun _ _ => none where
  phase := by simp [initialState]
  stored := by
    constructor
    · intro key value found
      cases found
    · intro plan isCurrent
      cases isCurrent
  current := by
    intro key value found
    cases found

-- The key digest tells the two plans of a supersession apart.
def KeysDiffer (fact : PlanRootSuperseded) : Prop :=
  indexKey .plans fact.newPlanRootId.text = indexKey .plans fact.priorPlanRootId.text →
    fact.newPlanRootId = fact.priorPlanRootId

theorem supersession_never_steps (single : SinglePlan state contents) (differ : KeysDiffer fact)
    (step : FactStep state contents runId (.planRootSuperseded fact) after maps) : False := by
  cases step with
  | planRootSuperseded _ _ distinct target prior targetStored _ priorStored =>
    exact distinct (differ (single_plan_key single _ _ _ _ targetStored priorStored))

theorem supersession_never_folds {facts : List DomainFact}
    (steps : FactSteps state contents facts after maps) (single : SinglePlan state contents) :
    ∀ runId fact, ⟨runId, .planRootSuperseded fact⟩ ∈ facts → ¬ KeysDiffer fact := by
  induction steps with
  | nil => simp
  | cons first sameRun step _ ih =>
    intro runId fact member differ
    rcases List.mem_cons.mp member with rfl | later
    · exact supersession_never_steps single differ step
    · exact ih (single_plan_fact_step step single) runId fact later differ

theorem supersession_never_recorded {record : JournalRecord}
    (step : RecordStep state contents record after maps) (single : SinglePlan state contents) :
    ∀ runId fact, ⟨runId, .planRootSuperseded fact⟩ ∈ recordFacts record → ¬ KeysDiffer fact := by
  cases step with
  | semantic family step outcome =>
    cases step with
    | committed settle facts commands absent =>
      have folded := supersession_never_folds facts (settle_step_keeps single_plan_preserved settle single)
      cases family <;> exact folded
  | suspended | resumed => simp [recordFacts]

theorem single_plan (collisionFree : CollisionFree IndexValue) (genesis : RunGenesis) (records : List JournalRecord)
    (state : RunState) (accepted : foldMany (initialState genesis) records = .ok state) :
    ∃ contents, Reads state contents ∧
      (∀ key key' value value', contents .plans key = some value → contents .plans key' = some value' → key = key') ∧
      (state.phase = .execution ↔ state.currentPlan ≠ none) ∧
      (state.currentPlan ≠ none ↔ ∃ key value, contents .plans key = some value) ∧
      (∀ key value, contents .plans key = some value → ∃ plan, value = .plan plan ∧ state.currentPlan = some plan.planState) ∧
      (∀ runId fact pages, KeysDiffer fact →
        ∃ rejection, foldDomainFact state ⟨runId, .planRootSuperseded fact⟩ pages none = .error rejection) ∧
      ∀ record runId fact, ⟨runId, .planRootSuperseded fact⟩ ∈ recordFacts record → KeysDiffer fact →
        ∃ rejection, fold state record = .error rejection := by
  obtain ⟨contents, reads, single⟩ := run_keeps single_plan_preserved collisionFree (initial_single_plan) accepted
  refine ⟨contents, reads, single_plan_key single, single.phase, ?_, single.current, ?_, ?_⟩
  · constructor
    · intro hasPlan
      obtain ⟨plan, current⟩ := Option.ne_none_iff_exists'.mp hasPlan
      obtain ⟨stored, found, _⟩ := single.stored.current plan current
      exact ⟨_, _, found⟩
    · rintro ⟨key, value, found⟩
      obtain ⟨_, _, current⟩ := single.current key value found
      simp [current]
  · intro runId fact pages differ
    cases folded : foldDomainFact state ⟨runId, .planRootSuperseded fact⟩ pages none with
    | error rejection => exact ⟨rejection, rfl⟩
    | ok applied =>
      obtain ⟨_, maps, step, _⟩ := fold_domain_fact_step collisionFree reads folded
      exact absurd step fun step => supersession_never_steps single differ step
  · intro record runId fact member differ
    cases folded : fold state record with
    | error rejection => exact ⟨rejection, rfl⟩
    | ok after =>
      obtain ⟨_, maps, step, _⟩ := fold_step collisionFree reads folded
      exact absurd differ (supersession_never_recorded step single runId fact member)

end SinglePlan

section Sample

attribute [local instance] sampleWorld

theorem planned_single_plan : ∃ records state contents, records.length = 2 ∧
    foldMany (initialState sampleGenesis) records = .ok state ∧ Reads state contents ∧ state.phase = .execution ∧
      ∃ key value, contents .plans key = some value := by
  obtain ⟨records, counted, ran⟩ := planned_logged
  obtain ⟨contents, reads, _, phase, listed, _⟩ := single_plan sample_collision_free sampleGenesis records _ ran
  exact ⟨records, _, contents, counted, ran, reads, rfl, listed.mp (phase.mp rfl)⟩

end Sample

end PiAutopilot.Authority
