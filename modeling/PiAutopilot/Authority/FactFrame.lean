import PiAutopilot.Authority.RecordStep

set_option autoImplicit false

namespace PiAutopilot.Authority

open Lib Protocol

-- Two states that may only differ in their commands index, and the maps of two such states.
def withCommands (state : RunState) (index : RunIndex) : RunState :=
  { state with indexes := replaceIndex state.indexes .commands index }

def AlikeMaps (left right : Contents) : Prop := ∀ name, name ≠ .commands → right name = left name

section FactFrame

variable [Hashing]
  {state : RunState} {index : RunIndex} {name : IndexName} {contents' : Contents} {body : FactBody} {runId : RunId}

omit [Hashing] in
theorem with_commands_self : withCommands state (state.indexes .commands) = state := by
  rw [withCommands, replaceIndex, Function.update_eq_self]

omit [Hashing] in
theorem with_commands_other (different : name ≠ .commands) : (withCommands state index).indexes name = state.indexes name :=
  Function.update_of_ne different ..

theorem insert_with_commands {contents : Contents}
    {identity : JsString} {value : IndexValue} (different : name ≠ .commands) (same : contents' name = contents name) :
    insertAt (withCommands state index) contents' name identity value =
      withCommands (insertAt state contents name identity value) index := by
  simp only [insertAt, writeIndex, with_commands_other different, same]
  simp only [withCommands, replaceIndex, Function.update_comm different]

theorem put_alike {contents : Contents} (name : IndexName) (identity : JsString) (value : IndexValue)
    (alike : AlikeMaps contents contents') :
    AlikeMaps (putAt contents name identity value) (putAt contents' name identity value) := by
  intro other different
  by_cases same : other = name
  · subst same
    rw [putAt, putAt, put_same, put_same, alike other different]
  · rw [putAt, putAt, put_other same, put_other same, alike other different]

omit [Hashing] in
theorem stored_alike {contents : Contents} (alike : AlikeMaps contents contents') {key : Key}
    {left right : IndexValue} (different : name ≠ .commands) (first : contents name key = some left)
    (second : contents' name key = some right) : right = left := by
  rw [alike name different, first] at second
  exact (Option.some_inj.mp second).symm

omit [Hashing] in
theorem note_finding_commands (finding : Finding) (state : RunState) (index : RunIndex) :
    noteFinding finding (withCommands state index) = withCommands (noteFinding finding state) index := by
  cases finding <;> rfl

variable {state after after' : RunState} {index : RunIndex} {contents maps : Contents}

omit [Hashing] in
theorem uncounted_commands {finding : Finding}
    (first : FindingUncounted finding state after) (second : FindingUncounted finding (withCommands state index) after') :
    after' = withCommands after index := by
  rw [FindingUncounted] at first second
  cases counter : findingCounter finding with
  | none =>
    rw [counter] at first second
    rw [first, second]
  | some counter' =>
    rw [counter] at first second
    obtain ⟨next, lowered, rfl⟩ := Option.map_eq_some_iff.mp first
    obtain ⟨next', lowered', rfl⟩ := Option.map_eq_some_iff.mp second
    obtain rfl : next = next' := Option.some_inj.mp (lowered.symm.trans lowered')
    rfl

-- A fact reads the commands index only to decide whether it is accepted; what it writes does not depend on it.
theorem fact_step_alike {maps' : Contents} (alike : AlikeMaps contents contents')
    (step : FactStep state contents runId body after maps)
    (again : FactStep (withCommands state index) contents' runId body after' maps') :
    after' = withCommands after index ∧ AlikeMaps maps maps' := by
  cases step with
  | requirementsBound | finalAttestationsRecorded | routeVerificationObserved =>
    cases again
    exact ⟨rfl, alike⟩
  | atomInventorySealed fact requirements bound =>
    cases again with
    | atomInventorySealed _ requirements' bound' =>
      obtain rfl : requirements = requirements' := Option.some_inj.mp (bound.symm.trans bound')
      exact ⟨rfl, alike⟩
  | atomDeclared | atomDispositioned | workDeclared | dependencyDeclared | planRootAccepted | evidenceObserved
  | candidateAccepted | publicationIntended =>
    cases again
    rw [insert_with_commands (by decide) (alike _ (by decide))]
    exact ⟨rfl, put_alike _ _ _ alike⟩
  | workOutputAccepted fact inPlan prior stored =>
    cases again with
    | workOutputAccepted _ _ prior' stored' =>
      have same := stored_alike alike (by decide) stored stored'
      cases same
      have first := put_alike .work fact.workItemId.text (acceptedWorkValue prior fact) alike
      rw [insert_with_commands (by decide) (alike _ (by decide)), insert_with_commands (by decide) (first _ (by decide))]
      exact ⟨rfl, put_alike _ _ _ first⟩
  | planRootSuperseded fact current distinct target prior targetStored targetCurrent priorStored =>
    cases again with
    | planRootSuperseded _ _ _ target' prior' targetStored' _ priorStored' =>
      cases stored_alike alike (by decide) targetStored targetStored'
      cases stored_alike alike (by decide) priorStored priorStored'
      rw [insert_with_commands (by decide) (alike _ (by decide))]
      exact ⟨rfl, put_alike _ _ _ alike⟩
  | blockingFindingAccepted correction finding =>
    cases again
    have first := put_alike .work correction.correctorWorkItemId.text (correctionValue correction) alike
    rw [insert_with_commands (by decide) (alike _ (by decide))]
    change noteFinding finding (insertAt (withCommands (incrementCounter _ .declaredWork) index) _ _ _ _) = _ ∧ _
    rw [insert_with_commands (by decide) (first _ (by decide)), note_finding_commands]
    exact ⟨rfl, put_alike _ _ _ first⟩
  | nonblockingFindingAccepted finding =>
    cases again
    rw [insert_with_commands (by decide) (alike _ (by decide)), note_finding_commands]
    exact ⟨rfl, put_alike _ _ _ alike⟩
  | findingCleared fact prior stored isOpen _ uncounted =>
    cases again with
    | findingCleared _ prior' stored' _ _ uncounted' =>
      cases stored_alike alike (by decide) stored stored'
      rw [insert_with_commands (by decide) (alike _ (by decide))] at uncounted'
      exact ⟨uncounted_commands uncounted uncounted', put_alike _ _ _ alike⟩
  | publicationObserved fact publication candidate isCurrent hasCandidate samePublication sameTree sameGitTree atHead offHead
      prior stored =>
      cases again with
      | publicationObserved _ publication' candidate' isCurrent' hasCandidate' _ _ _ _ _ prior' stored' =>
        obtain rfl : publication = publication' := Option.some_inj.mp (isCurrent.symm.trans isCurrent')
        cases stored_alike alike (by decide) stored stored'
        rw [insert_with_commands (by decide) (alike _ (by decide))]
        exact ⟨rfl, put_alike _ _ _ alike⟩

theorem fact_steps_alike {maps' : Contents} {facts : List DomainFact} (alike : AlikeMaps contents contents')
    (steps : FactSteps state contents facts after maps)
    (again : FactSteps (withCommands state index) contents' facts after' maps') :
    after' = withCommands after index ∧ AlikeMaps maps maps' := by
  induction steps generalizing contents' with
  | nil state contents =>
    cases again
    exact ⟨rfl, alike⟩
  | cons fact sameRun step _ ih =>
    cases again with
    | cons _ _ step' rest' =>
      obtain ⟨rfl, middle⟩ := fact_step_alike alike step step'
      exact ih middle rest'

-- A fact writes its maps and its indexes together.
theorem fact_step_reads
    (step : FactStep state contents runId body after maps) (reads : Reads state contents) : Reads after maps := by
  cases step with
  | requirementsBound | atomInventorySealed | routeVerificationObserved | finalAttestationsRecorded =>
    exact reads_of_indexes state _ reads rfl
  | atomDeclared | atomDispositioned | workDeclared | dependencyDeclared | planRootAccepted | planRootSuperseded
  | evidenceObserved | candidateAccepted | publicationIntended | publicationObserved =>
    exact reads_of_indexes _ _ (reads_insert reads _ _ _) rfl
  | workOutputAccepted fact inPlan prior =>
    have written := reads_insert reads .work fact.workItemId.text (acceptedWorkValue prior fact)
    exact reads_of_indexes _ _ (reads_insert written _ _ _) rfl
  | blockingFindingAccepted correction finding =>
    have written := reads_insert reads .work correction.correctorWorkItemId.text (correctionValue correction)
    have counted := reads_increment written .declaredWork
    exact reads_note_finding (reads_insert counted _ _ _) finding
  | nonblockingFindingAccepted finding =>
    exact reads_note_finding (reads_insert reads _ _ _) finding
  | findingCleared fact prior stored isOpen _ uncounted =>
    refine reads_of_indexes _ _ (reads_insert reads _ _ _) ?_
    rw [FindingUncounted] at uncounted
    split at uncounted
    · rw [uncounted]
    · obtain ⟨next, _, rfl⟩ := Option.map_eq_some_iff.mp uncounted
      rfl

end FactFrame

end PiAutopilot.Authority
