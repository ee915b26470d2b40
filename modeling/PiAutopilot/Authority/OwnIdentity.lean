import PiAutopilot.Authority.CorrectionRun
import PiAutopilot.Authority.StoredEntries

set_option autoImplicit false

namespace PiAutopilot.Authority

open Lib Protocol

-- The identity that an entry of an index carries in its value. A value of another index's kind carries none.
def embeddedIdentity : IndexName → IndexValue → Option JsString
  | .actions, .action action => some action.actionId.text
  | .atoms, .atom atom => some atom.atomId.text
  | .candidates, .candidate candidate => some candidate.candidateId.text
  | .commands, .command entry => if entry.commandId = entry.command.commandId then some entry.commandId.text else none
  | .dependencies, .dependency edge => some (edgeIdentity edge.dependency edge.dependent)
  | .dispositions, .disposition disposition => some disposition.atomId.text
  | .evidence, .evidence evidence => some evidence.envelope.evidenceId.text
  | .findings, .finding entry => some entry.finding.findingId.text
  | .plans, .plan plan => some plan.planRootId.text
  | .publications, .publication publication => some publication.publicationId.text
  | .submissions, .submission submission => some submission.acceptedOutput.submissionId.text
  | .work, .work work => some work.workItem.workItemId.text
  | _, _ => none

-- What fold does not check about the work a correction brings along.
def NamedCorrection : FactBody → Prop
  | .findingAccepted (.blockingWithCorrection correction _) => correction.work.workItemId = correction.correctorWorkItemId
  | _ => True

def BoundCorrection (genesis : RunGenesis) : FactBody → Prop
  | .findingAccepted (.blockingWithCorrection correction _) =>
    correction.work.workItemId = correction.correctorWorkItemId ∧ correction.work.runId = genesis.runId ∧
      correction.work.taskRoot = genesis.taskSnapshot
  | _ => True

section OwnIdentity

variable [Hashing]

def OwnKey (name : IndexName) (key : Key) (value : IndexValue) : Prop :=
  ∃ identity, embeddedIdentity name value = some identity ∧ key = indexKey name identity

def OwnIdentity (contents : Contents) : Prop := ∀ name, Entries (contents name) (OwnKey name)

variable {contents : Contents} {name : IndexName} {body : FactBody} {maps : Contents} {runId : RunId}

theorem own_identity_put (own : OwnIdentity contents) {key : Key} {value : IndexValue}
    (keyed : OwnKey name key value) : OwnIdentity (put contents name key value) := by
  intro other
  by_cases same : other = name
  · subst same
    exact entries_put (own other) keyed
  · exact entries_put_other (own other) same

theorem own_identity_insert (own : OwnIdentity contents) (name : IndexName) (identity : JsString)
    (value : IndexValue) (embedded : embeddedIdentity name value = some identity) :
    OwnIdentity (putAt contents name identity value) :=
  own_identity_put own ⟨identity, embedded, rfl⟩

-- An entry may be replaced by one that carries the same identity.
theorem own_identity_update (own : OwnIdentity contents) (identity : JsString)
    (prior value : IndexValue) (stored : contents name (indexKey name identity) = some prior)
    (same : embeddedIdentity name value = embeddedIdentity name prior) : OwnIdentity (putAt contents name identity value) := by
  obtain ⟨carried, embedded, keyed⟩ := own name _ prior stored
  exact own_identity_put own ⟨carried, same.trans embedded, keyed⟩

def WorkBound (genesis : RunGenesis) (contents : Contents) : Prop :=
  Entries (contents .work) fun _ value => ∀ work, value = .work work →
    work.workItem.runId = genesis.runId ∧ work.workItem.taskRoot = genesis.taskSnapshot

structure Bound (genesis : RunGenesis) (state : RunState) (contents : Contents) : Prop where
  runId : state.identity.runId = genesis.runId
  taskSnapshot : state.identity.taskSnapshot = genesis.taskSnapshot
  own : OwnIdentity contents
  work : WorkBound genesis contents

theorem own_identity_fact_step {state after : RunState}
    (step : FactStep state contents runId body after maps) (named : NamedCorrection body) (own : OwnIdentity contents) :
    OwnIdentity maps := by
  cases step with
  | requirementsBound | atomInventorySealed | routeVerificationObserved | finalAttestationsRecorded => exact own
  | atomDeclared | atomDispositioned | workDeclared | dependencyDeclared | planRootAccepted | nonblockingFindingAccepted
  | evidenceObserved | candidateAccepted | publicationIntended => exact own_identity_insert own _ _ _ rfl
  | workOutputAccepted fact _ prior stored =>
    have accepted := own_identity_update own _ _ (acceptedWorkValue prior fact) stored rfl
    exact own_identity_insert accepted .submissions _ _ rfl
  | planRootSuperseded fact _ _ target prior _ _ stored => exact own_identity_update own _ _ _ stored rfl
  | blockingFindingAccepted correction finding =>
    have carried : embeddedIdentity .work (correctionValue correction) = some correction.correctorWorkItemId.text :=
      congrArg (fun workItemId : WorkItemId => some workItemId.text) named
    exact own_identity_insert (own_identity_insert own .work _ _ carried) _ _ _ rfl
  | findingCleared fact prior stored => exact own_identity_update own _ _ _ stored rfl
  | publicationObserved fact _ _ _ _ _ _ _ _ _ prior stored => exact own_identity_update own _ _ _ stored rfl

theorem work_bound_fact_step {genesis : RunGenesis} {state after : RunState} (step : FactStep state contents runId body after maps) (permitted : BoundCorrection genesis body)
    (bound : Bound genesis state contents) : WorkBound genesis maps := by
  have unwritten := fact_step_unwritten step
  cases step with
  | workDeclared workItem sameRun sameTask =>
    refine entries_put bound.work ?_
    rintro _ ⟨⟩
    exact ⟨sameRun.trans bound.runId, sameTask.trans bound.taskSnapshot⟩
  | workOutputAccepted fact _ prior stored =>
    refine entries_put_other (entries_put bound.work ?_) (by decide)
    rintro _ ⟨⟩
    exact bound.work _ _ stored prior rfl
  | blockingFindingAccepted correction finding =>
    refine entries_put_other (entries_put bound.work ?_) (by decide)
    rintro _ ⟨⟩
    exact permitted.2
  | _ =>
    exact bound.work

variable {genesis : RunGenesis}

omit [Hashing] in
theorem bound_correction_named (bound : BoundCorrection genesis body) : NamedCorrection body := by
  rw [BoundCorrection.eq_def] at bound
  rw [NamedCorrection.eq_def]
  split at bound
  · exact bound.1
  · trivial

theorem own_identity_preserved : PreservedWhen NamedCorrection fun _ contents => OwnIdentity contents where
  fact _ _ _ _ _ named own step := own_identity_fact_step step named own
  issue _ _ _ own _ := own_identity_insert own _ _ _ (by simp [embeddedIdentity, issuedValue])
  settle _ _ _ _ _ own stored _ _ := own_identity_update own _ _ _ stored rfl
  act _ _ _ _ _ own _ := own_identity_insert own _ _ _ rfl
  envelope _ _ _ _ _ own := own

theorem bound_preserved : PreservedWhen (BoundCorrection genesis) (Bound genesis) where
  fact state contents body after maps permitted bound step := by
    have envelope := fact_step_envelope step
    exact ⟨envelope.identity ▸ bound.runId, envelope.identity ▸ bound.taskSnapshot,
      own_identity_fact_step step (bound_correction_named permitted) bound.own, work_bound_fact_step step permitted bound⟩
  issue state contents command bound absent :=
    ⟨bound.runId, bound.taskSnapshot, own_identity_preserved.issue state contents command bound.own absent,
      entries_put_other bound.work (by decide)⟩
  settle state contents commandId entry observation bound stored issued same := ⟨bound.runId, bound.taskSnapshot,
      own_identity_preserved.settle state contents commandId entry observation bound.own stored issued same,
      entries_put_other bound.work (by decide)⟩
  act state contents actionId kind sequence bound absent :=
    ⟨bound.runId, bound.taskSnapshot, own_identity_preserved.act state contents actionId kind sequence bound.own absent,
      entries_put_other bound.work (by decide)⟩
  envelope state contents suspension terminal sequence bound := ⟨bound.runId, bound.taskSnapshot, bound.own, bound.work⟩

theorem initial_bound : Bound genesis (initialState genesis) fun _ _ => none where
  runId := rfl
  taskSnapshot := rfl
  own := by
    intro name key value stored
    cases stored
  work := by
    intro key value stored
    cases stored

theorem entries_own_identity (collisionFree : CollisionFree IndexValue) (genesis : RunGenesis) (records : List JournalRecord)
    (state : RunState) (accepted : foldMany (initialState genesis) records = .ok state)
    (permitted : ∀ record ∈ records, ∀ fact ∈ recordFacts record, BoundCorrection genesis fact.body) :
    ∃ contents, Reads state contents ∧ (∀ name key value, contents name key = some value →
        ∃ identity, embeddedIdentity name value = some identity ∧ key = indexKey name identity) ∧
      ∀ key work, contents .work key = some (.work work) →
        work.workItem.runId = state.identity.runId ∧ work.workItem.taskRoot = state.identity.taskSnapshot := by
  obtain ⟨contents, reads, bound⟩ := run_keeps_when (bound_preserved) collisionFree (initial_bound) accepted permitted
  refine ⟨contents, reads, bound.own, ?_⟩
  intro key work stored
  rw [bound.runId, bound.taskSnapshot]
  exact bound.work key _ stored work rfl

end OwnIdentity

section Sample

attribute [local instance] sampleWorld

def boundWork : CorrectArtifactWork := correctingWork correctorId sampleGenesis.runId sampleGenesis.taskSnapshot

theorem bound_correction_own_identity : ∃ records state contents, records.length = 5 ∧
    foldMany (initialState sampleGenesis) records = .ok state ∧ Reads state contents ∧
      ∀ key work, contents .work key = some (.work work) → work.workItem.taskRoot = state.identity.taskSnapshot := by
  have permitted : ∀ fact ∈ [FactBody.workDeclared leadingWork, .workDeclared followingWork,
      .dependencyDeclared sampleDependency, .planRootAccepted leadingPlan,
      .findingAccepted (.blockingWithCorrection (sampleCorrection boundWork) sampleFinding)],
      BoundCorrection sampleGenesis fact := by
    simp [BoundCorrection, sampleCorrection, boundWork, correctingWork]
  obtain ⟨records, counted, ran, carried⟩ := recorded_facts (corrected_recorded boundWork rfl) permitted
  obtain ⟨contents, reads, _, work⟩ := entries_own_identity sample_collision_free sampleGenesis records _ ran carried
  exact ⟨records, _, contents, counted, ran, reads, fun key entry stored => (work key entry stored).2⟩

-- The work carries the identity of another item, another run and another task.
def strayingWork : CorrectArtifactWork := correctingWork leadingWork.workItemId (sampleId [1, 9]) ⟨[13, 1]⟩

theorem straying_correction_stored : ∃ records state contents, foldMany (initialState sampleGenesis) records = .ok state ∧
    Reads state contents ∧ ∃ (workItemId : WorkItemId) (work : WorkIndexValue),
      contents .work (indexKey .work workItemId.text) = some (.work work) ∧ work.workItem.workItemId ≠ workItemId ∧
        indexKey .work work.workItem.workItemId.text ≠ indexKey .work workItemId.text ∧
        work.workItem.runId ≠ state.identity.runId ∧ work.workItem.taskRoot ≠ state.identity.taskSnapshot := by
  obtain ⟨records, _, ran⟩ := corrected_recorded strayingWork rfl
  have reads := on_book_reads (corrected strayingWork).state _ (tidy_orderly (correctedBook strayingWork) (by decide +kernel))
  exact ⟨records, _, _, ran, reads, correctorId, ⟨none, strayingWork.workItem⟩, rfl, by decide +kernel, by decide +kernel,
    by decide +kernel, by decide +kernel⟩

end Sample

end PiAutopilot.Authority
