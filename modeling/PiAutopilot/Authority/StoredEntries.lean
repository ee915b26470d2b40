import PiAutopilot.Authority.Growth

set_option autoImplicit false

namespace PiAutopilot.Authority

open Lib Protocol

def Entries (entries : Key → Option IndexValue) (allowed : Key → IndexValue → Prop) : Prop :=
  ∀ key value, entries key = some value → allowed key value

variable {allowed : Key → IndexValue → Prop} {value : IndexValue}
  {contents : Contents} {key : Key} {name : IndexName} {entries : Key → Option IndexValue} {index : RunIndex}
  {kind : IndexValueKind} {values : List IndexValue}

theorem entries_put (entries : Entries (contents name) allowed) (isAllowed : allowed key value) :
    Entries (put contents name key value name) allowed := by
  intro key' value' stored
  rw [put_same, Function.update_apply] at stored
  split at stored
  · rename_i same
    cases stored
    rw [same]
    exact isAllowed
  · exact entries key' value' stored

theorem entries_put_other (entries : Entries (contents name) allowed) {written : IndexName} (different : name ≠ written) :
    Entries (put contents written key value name) allowed := by
  rw [put_other different]
  exact entries

theorem entries_mono {weaker : Key → IndexValue → Prop}
    (stored : Entries entries allowed) (implies : ∀ key value, allowed key value → weaker key value) : Entries entries weaker :=
  fun key value found => implies key value (stored key value found)

theorem index_values_some (listed : indexValues index kind = some values) :
    index.hotComplete = true ∧ values = (index.hot.map Prod.snd).filter fun value => value.kind = kind := by
  rw [indexValues] at listed
  split at listed
  · cases listed
  · rename_i complete
    exact ⟨by simpa using complete, (Option.some_inj.mp listed).symm⟩

theorem mem_index_values (exactly : HotExact index entries) (listed : indexValues index kind = some values) :
    value ∈ values ↔ value.kind = kind ∧ ∃ key, entries key = some value := by
  obtain ⟨complete, rfl⟩ := index_values_some listed
  simp [exactly.listed complete, and_comm]

section Stored

variable [Hashing]

def AtomEntry (key : Key) (value : IndexValue) : Prop := ∃ atom, value = .atom atom ∧ key = indexKey .atoms atom.atomId.text

-- A disposition is stored under its atom's identity, and the atom it is legal for is stored too.
def DispositionEntry (atoms : Key → Option IndexValue) (key : Key) (value : IndexValue) : Prop :=
  ∃ disposition atom, value = .disposition disposition ∧ key = indexKey .dispositions disposition.atomId.text ∧
    atoms (indexKey .atoms disposition.atomId.text) = some (.atom atom) ∧ dispositionIsLegal atom disposition = true

structure AtomsStored (contents : Contents) : Prop where
  atoms : Entries (contents .atoms) AtomEntry
  dispositions : Entries (contents .dispositions) (DispositionEntry (contents .atoms))

variable {contents : Contents}

theorem atoms_stored_frame {maps : Contents} (stored : AtomsStored contents) (atoms : maps .atoms = contents .atoms)
    (dispositions : maps .dispositions = contents .dispositions) : AtomsStored maps where
  atoms := by
    rw [atoms]
    exact stored.atoms
  dispositions := by
    rw [atoms, dispositions]
    exact stored.dispositions

theorem atoms_stored_declare (stored : AtomsStored contents) {atom : Atom}
    (absent : contents .atoms (indexKey .atoms atom.atomId.text) = none) :
    AtomsStored (putAt contents .atoms atom.atomId.text (.atom atom)) where
  atoms := entries_put stored.atoms ⟨atom, rfl, rfl⟩
  dispositions := by
    rw [putAt]
    refine entries_mono stored.dispositions ?_
    rintro key value ⟨disposition, legalAtom, same, keyed, found, legal⟩
    refine ⟨disposition, legalAtom, same, keyed, ?_, legal⟩
    rw [put_same, Function.update_of_ne, found]
    intro sameKey
    rw [sameKey, absent] at found
    cases found

theorem atoms_stored_disposition (stored : AtomsStored contents) {disposition : AtomDisposition} {atom : Atom}
    (found : contents .atoms (indexKey .atoms disposition.atomId.text) = some (.atom atom))
    (legal : dispositionIsLegal atom disposition = true) :
    AtomsStored (putAt contents .dispositions disposition.atomId.text (.disposition disposition)) where
  atoms := by
    exact stored.atoms
  dispositions := by
    have sameAtoms : putAt contents .dispositions disposition.atomId.text (.disposition disposition) .atoms = contents .atoms :=
      put_other (by decide)
    exact entries_put stored.dispositions ⟨disposition, atom, rfl, rfl, found, legal⟩

variable {state after : RunState} {contents maps : Contents} {runId : RunId} {body : FactBody}

theorem atoms_stored_fact_step
    (step : FactStep state contents runId body after maps) (stored : AtomsStored contents) : AtomsStored maps := by
  have unwritten := fact_step_unwritten step
  cases step with
  | atomDeclared atom _ _ _ _ absent => exact atoms_stored_declare stored absent
  | atomDispositioned disposition _ _ _ atom found legal => exact atoms_stored_disposition stored found legal
  | _ => exact atoms_stored_frame stored (unwritten .atoms (by simp [writtenIndexes])) (unwritten .dispositions (by simp [writtenIndexes]))

theorem atoms_stored_preserved : Preserved fun _ contents => AtomsStored contents :=
  preserved_aside atoms_stored_fact_step fun stored same =>
    atoms_stored_frame stored (same .atoms (by decide)) (same .dispositions (by decide))

def WorkEntry (_ : Key) (value : IndexValue) : Prop := ∃ work, value = .work work

def WorkStored (contents : Contents) : Prop := Entries (contents .work) WorkEntry

theorem work_stored_fact_step (step : FactStep state contents runId body after maps) (stored : WorkStored contents) : WorkStored maps := by
  have unwritten := fact_step_unwritten step
  cases step with
  | workDeclared workItem => exact entries_put stored ⟨_, rfl⟩
  | workOutputAccepted fact _ prior =>
    exact entries_put_other (entries_put stored ⟨_, rfl⟩) (by decide)
  | blockingFindingAccepted correction =>
    exact entries_put_other (entries_put stored ⟨_, rfl⟩) (by decide)
  | _ =>
    exact stored

theorem work_stored_preserved : Preserved fun _ contents => WorkStored contents :=
  preserved_aside work_stored_fact_step fun stored same => by rwa [WorkStored, same .work (by decide)]

-- The plan in force is a copy of its index entry, apart from the supersession mark.
structure PlansStored (state : RunState) (contents : Contents) : Prop where
  plans : Entries (contents .plans) fun key value => ∃ plan, value = .plan plan ∧ key = indexKey .plans plan.planRootId.text
  current : ∀ plan, state.currentPlan = some plan →
    ∃ stored, contents .plans (indexKey .plans plan.planRootId.text) = some (.plan stored) ∧ stored.planState = plan

theorem plans_stored_frame (stored : PlansStored state contents)
    (plans : maps .plans = contents .plans) (current : after.currentPlan = state.currentPlan) : PlansStored after maps where
  plans := by
    rw [plans]
    exact stored.plans
  current := by
    rw [plans, current]
    exact stored.current

theorem plans_stored_accept {contents : Contents} (stored : PlansStored state contents) {runId : RunId}
    {fact : PlanRootAccepted} (current : after.currentPlan = some (fact.planValue runId).planState) :
    PlansStored after (putAt contents .plans fact.planRootId.text (.plan (fact.planValue runId))) where
  plans := entries_put stored.plans ⟨_, rfl, rfl⟩
  current := by
    intro plan isCurrent
    rw [current] at isCurrent
    cases isCurrent
    refine ⟨fact.planValue runId, ?_, rfl⟩
    exact Function.update_self ..

theorem plans_stored_supersede {contents : Contents} (stored : PlansStored state contents)
    {fact : PlanRootSuperseded} {target prior : PlanIndexValue}
    (targetStored : contents .plans (indexKey .plans fact.newPlanRootId.text) = some (.plan target))
    (priorStored : contents .plans (indexKey .plans fact.priorPlanRootId.text) = some (.plan prior))
    (current : after.currentPlan = some target.planState) :
    PlansStored after (putAt contents .plans fact.priorPlanRootId.text (.plan { prior with supersededBy := some fact.newPlanRootId })) where
  plans := by
    obtain ⟨_, same, keyed⟩ := stored.plans _ _ priorStored
    cases same
    exact entries_put stored.plans ⟨_, rfl, keyed⟩
  current := by
    intro plan isCurrent
    rw [current] at isCurrent
    cases isCurrent
    obtain ⟨_, same, keyed⟩ := stored.plans _ _ targetStored
    cases same
    rw [keyed] at targetStored
    rw [putAt, put_same, Function.update_apply]
    split
    · -- Two plan roots under one key: the superseded entry is then the target's own.
      rename_i sameKey
      have samePlan : prior = target := by
        rw [show indexKey .plans target.planRootId.text = _ from sameKey, priorStored] at targetStored
        cases targetStored
        rfl
      exact ⟨_, rfl, by rw [samePlan]; rfl⟩
    · exact ⟨target, targetStored, rfl⟩

theorem plans_stored_fact_step
    (step : FactStep state contents runId body after maps) (stored : PlansStored state contents) : PlansStored after maps := by
  have unwritten := fact_step_unwritten step
  have selection := fact_step_selection step
  cases step with
  | planRootAccepted fact => exact plans_stored_accept stored rfl
  | planRootSuperseded fact _ _ target prior targetStored _ priorStored =>
    exact plans_stored_supersede stored targetStored priorStored rfl
  | candidateAccepted | publicationIntended | publicationObserved | finalAttestationsRecorded =>
    exact plans_stored_frame stored (unwritten .plans (by simp [writtenIndexes])) rfl
  | _ => exact plans_stored_frame stored (unwritten .plans (by simp [writtenIndexes])) (selection rfl).plan

theorem plans_stored_preserved : Preserved PlansStored :=
  preserved_aside plans_stored_fact_step fun stored same => plans_stored_frame stored (same .plans (by decide)) rfl

def CandidateStored (state : RunState) (contents : Contents) : Prop :=
  ∀ candidate, state.currentCandidate = some candidate →
    ∃ stored, contents .candidates (indexKey .candidates candidate.candidateId.text) = some (.candidate stored) ∧
      stored.candidateState = candidate

theorem candidate_stored_frame (stored : CandidateStored state contents)
    (candidates : maps .candidates = contents .candidates) (current : after.currentCandidate = state.currentCandidate) :
    CandidateStored after maps := by
  rw [CandidateStored, candidates, current]
  exact stored

theorem candidate_stored_fact_step (step : FactStep state contents runId body after maps) (stored : CandidateStored state contents) :
    CandidateStored after maps := by
  have unwritten := fact_step_unwritten step
  have selection := fact_step_selection step
  cases step with
  | candidateAccepted fact =>
    intro candidate isCurrent
    cases isCurrent
    refine ⟨fact.candidateValue runId, ?_, rfl⟩
    exact Function.update_self ..
  | planRootSuperseded =>
    intro candidate isCurrent
    cases isCurrent
  | planRootAccepted | publicationIntended | publicationObserved | finalAttestationsRecorded =>
    exact candidate_stored_frame stored (unwritten .candidates (by simp [writtenIndexes])) rfl
  | _ => exact candidate_stored_frame stored (unwritten .candidates (by simp [writtenIndexes])) (selection rfl).candidate

theorem candidate_stored_preserved : Preserved CandidateStored := preserved_aside candidate_stored_fact_step fun stored same =>
    candidate_stored_frame stored (same .candidates (by decide)) rfl

structure PublicationCopy (stored : PublicationIndexValue) (publication : CurrentPublicationState) : Prop where
  publicationId : stored.publicationId = publication.publicationId
  candidateId : stored.candidateId = publication.candidateId
  desiredHead : stored.desiredHead = publication.desiredHead
  status : stored.status = publication.status
  observedHead : stored.observedHead = publication.observedHead
  attestation : stored.publicationTreeAttestation = publication.publicationTreeAttestation

def PublicationStored (state : RunState) (contents : Contents) : Prop :=
  ∀ publication, state.currentPublication = some publication →
    ∃ stored, contents .publications (indexKey .publications publication.publicationId.text) = some (.publication stored) ∧
      PublicationCopy stored publication

theorem publication_stored_frame (stored : PublicationStored state contents) (publications : maps .publications = contents .publications)
    (current : after.currentPublication = state.currentPublication) : PublicationStored after maps := by
  rw [PublicationStored, publications, current]
  exact stored

theorem publication_stored_fact_step (step : FactStep state contents runId body after maps) (stored : PublicationStored state contents) :
    PublicationStored after maps := by
  have unwritten := fact_step_unwritten step
  have selection := fact_step_selection step
  cases step with
  | publicationIntended fact =>
    intro publication isCurrent
    cases isCurrent
    refine ⟨fact.publicationValue runId, ?_, rfl, rfl, rfl, rfl, rfl, rfl⟩
    exact Function.update_self ..
  | publicationObserved fact publication _ isCurrent _ samePublication _ _ _ _ prior priorStored =>
    intro observed isObserved
    cases isObserved
    obtain ⟨entry, found, copy⟩ := stored publication isCurrent
    rw [samePublication, priorStored] at found
    cases found
    refine ⟨observedValue prior fact, ?_, copy.publicationId, copy.candidateId, copy.desiredHead, rfl, rfl, rfl⟩
    rw [show (observedState publication fact).publicationId = fact.publicationId from samePublication, putAt]
    exact Function.update_self ..
  | planRootSuperseded =>
    intro publication isCurrent
    cases isCurrent
  | planRootAccepted | candidateAccepted | finalAttestationsRecorded =>
    exact publication_stored_frame stored (unwritten .publications (by simp [writtenIndexes])) rfl
  | _ => exact publication_stored_frame stored (unwritten .publications (by simp [writtenIndexes])) (selection rfl).publication

theorem publication_stored_preserved : Preserved PublicationStored := preserved_aside publication_stored_fact_step fun stored same =>
    publication_stored_frame stored (same .publications (by decide)) rfl

-- The work items a fact declares, with the identity each is stored under.
def declaredWork : FactBody → List (WorkItemId × WorkItem)
  | .workDeclared workItem => [(workItem.workItemId, workItem)]
  | .findingAccepted (.blockingWithCorrection correction _) => [(correction.correctorWorkItemId, correction.work.workItem)]
  | _ => []

def DeclaredEntry (contents : Contents) (declared : WorkItemId × WorkItem) : Prop :=
  ∃ work, StoredWork contents declared.1 work ∧ work.workItem = declared.2

theorem declared_entry_same {contents : Contents} {workItemId : WorkItemId} {work : WorkIndexValue} :
    DeclaredEntry (putAt contents .work workItemId.text (.work work)) (workItemId, work.workItem) := by
  refine ⟨work, ?_, rfl⟩
  exact Function.update_self ..

theorem declared_entry_frame (same : maps .work = contents .work) (declared : WorkItemId × WorkItem)
    (entry : DeclaredEntry contents declared) : DeclaredEntry maps declared := by
  obtain ⟨work, stored, item⟩ := entry
  exact ⟨work, by rw [StoredWork, same]; exact stored, item⟩

theorem declared_entry_grows (grown : Grows contents maps) (declared : WorkItemId × WorkItem)
    (entry : DeclaredEntry contents declared) : DeclaredEntry maps declared := by
  obtain ⟨work, stored, item⟩ := entry
  obtain ⟨later, found, same, _⟩ := grown _ _ _ stored
  cases later with
  | work next =>
    simp only [IndexValue.opened, IndexValue.work.injEq, WorkIndexValue.mk.injEq, true_and] at same
    exact ⟨next, found, same.trans item⟩
  | _ => cases same

theorem fact_step_declares (step : FactStep state contents runId body after maps) :
    ∀ declared ∈ declaredWork body, DeclaredEntry maps declared := by
  intro declared member
  cases step with
  | workDeclared =>
    obtain rfl := List.mem_singleton.mp member
    exact declared_entry_same
  | blockingFindingAccepted =>
    obtain rfl := List.mem_singleton.mp member
    exact declared_entry_frame (put_other (by decide)) _ declared_entry_same
  | _ => exact absurd member List.not_mem_nil

end Stored

end PiAutopilot.Authority
