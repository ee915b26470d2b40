import PiAutopilot.Authority.OwnIdentity
import PiAutopilot.Lib.Ranked

set_option autoImplicit false

namespace PiAutopilot.Authority

open Lib Protocol

namespace Scheduling

inductive ReadyWorkResult where
  | ready (work : List WorkIndexValue)
  | unproven (diagnostic : JsString)

def workOf : IndexValue → Option WorkIndexValue
  | .work work => some work
  | _ => none

def dependencyOf : IndexValue → Option DependencyIndexValue
  | .dependency edge => some edge
  | _ => none

def findingOf : IndexValue → Option FindingIndexValue
  | .finding finding => some finding
  | _ => none

def completeWork (state : RunState) : Option (List WorkIndexValue) :=
  (indexValues (state.indexes .work) .work).map fun values => values.filterMap workOf

def completeDependencies (state : RunState) : Option (List DependencyIndexValue) :=
  (indexValues (state.indexes .dependencies) .dependency).map fun values => values.filterMap dependencyOf

def completeFindings (state : RunState) : Option (List FindingIndexValue) :=
  (indexValues (state.indexes .findings) .finding).map fun values => values.filterMap findingOf

def setById (known : WorkItemId → Option WorkIndexValue) (entry : WorkIndexValue) : WorkItemId → Option WorkIndexValue :=
  Function.update known entry.workItem.workItemId (some entry)

variable (work : List WorkIndexValue) (known : WorkItemId → Option WorkIndexValue) (state : RunState)

-- A Map filled in page order, so the last entry that embeds an identity stays.
def workById : WorkItemId → Option WorkIndexValue := work.foldl setById fun _ => none

def outsidePlan (entry : WorkIndexValue) : Bool :=
  state.phase = .execution && state.currentPlan.map CurrentPlanState.planRootId ≠ some entry.workItem.planRootId

-- An identity the Map does not know has no output to wait for.
def waits (dependencies : List DependencyIndexValue) (entry : WorkIndexValue) : Bool :=
  (dependencies.filter fun edge => edge.dependent = entry.workItem.workItemId).any fun edge =>
    (known edge.dependency).any fun work => work.acceptedOutput.isNone

def correctionClosed (findings : List FindingIndexValue) (item : WorkItem) : Bool :=
  match item.kind with
  | .correctArtifact fields =>
    (findings.find? fun value => value.finding.findingId = fields.findingId).map FindingIndexValue.status ≠ some .open
  | _ => false

def candidateDiffers (item : WorkItem) : Bool :=
  match item.kind with
  | .verifyCandidate candidateRoot _ => state.currentCandidate.map CurrentCandidateState.tree ≠ some candidateRoot
  | _ => false

def isReady (known : WorkItemId → Option WorkIndexValue) (dependencies : List DependencyIndexValue)
    (findings : List FindingIndexValue) (entry : WorkIndexValue) : Bool :=
  entry.acceptedOutput.isNone && !outsidePlan state entry && !waits known dependencies entry &&
    !correctionClosed findings entry.workItem && !candidateDiffers state entry.workItem

def sortedByText : List WorkIndexValue := (sortByKey (work.map fun entry => (entry.workItem.workItemId.text, entry))).map Prod.snd

def readyWork : ReadyWorkResult :=
  if state.terminal.isSome || isSuspended state.suspension then .ready []
  else
    match completeWork state, completeDependencies state, completeFindings state with
    | some work, some dependencies, some findings =>
      .ready (sortedByText (work.filter (isReady state (workById work) dependencies findings)))
    | _, _, _ => .unproven (js "ready frontier requires complete bounded work, dependency, and finding pages")

theorem mem_sorted_by_text (entry : WorkIndexValue) : entry ∈ sortedByText work ↔ entry ∈ work := by
  simp [sortedByText]

theorem sorted_by_text_perm : (sortedByText work).Perm work := by
  have sorted := (sort_by_key_perm (work.map fun entry => (entry.workItem.workItemId.text, entry))).map Prod.snd
  simpa [sortedByText, List.map_map, Function.comp_def] using sorted

variable {workItemId : WorkItemId}

theorem work_by_id_found {entry : WorkIndexValue} (found : work.foldl setById known workItemId = some entry) :
    entry ∈ work ∧ entry.workItem.workItemId = workItemId ∨ known workItemId = some entry := by
  induction work generalizing known with
  | nil => exact Or.inr found
  | cons first rest ih =>
    rcases ih _ found with ⟨member, same⟩ | earlier
    · exact Or.inl ⟨List.mem_cons_of_mem _ member, same⟩
    · rw [setById, Function.update_apply] at earlier
      split at earlier
      · rename_i same
        cases earlier
        exact Or.inl ⟨List.mem_cons_self, same.symm⟩
      · exact Or.inr earlier

theorem work_by_id_known (present : (∃ entry ∈ work, entry.workItem.workItemId = workItemId) ∨ (known workItemId).isSome = true) :
    (work.foldl setById known workItemId).isSome = true := by
  induction work generalizing known with
  | nil =>
    rcases present with ⟨entry, member, _⟩ | isKnown
    · cases member
    · exact isKnown
  | cons first rest ih =>
    apply ih
    by_cases same : first.workItem.workItemId = workItemId
    · exact Or.inr (by simp [setById, same])
    · rcases present with ⟨entry, member, identity⟩ | isKnown
      · rcases List.mem_cons.mp member with rfl | later
        · exact absurd identity same
        · exact Or.inl ⟨entry, later, identity⟩
      · exact Or.inr (by rw [setById, Function.update_of_ne (Ne.symm same)]; exact isKnown)

-- With one entry for each identity the Map finds exactly that entry.
theorem work_by_id_iff
    (unique : ∀ first ∈ work, ∀ second ∈ work, first.workItem.workItemId = second.workItem.workItemId → first = second) {entry : WorkIndexValue} :
    workById work workItemId = some entry ↔ entry ∈ work ∧ entry.workItem.workItemId = workItemId := by
  constructor
  · intro found
    rcases work_by_id_found work _ found with listed | none
    · exact listed
    · cases none
  · rintro ⟨member, rfl⟩
    obtain ⟨other, found⟩ := Option.isSome_iff_exists.mp (work_by_id_known work (fun _ => none) (Or.inl ⟨entry, member, rfl⟩))
    rcases work_by_id_found work _ found with ⟨otherMember, same⟩ | none
    · rw [unique other otherMember entry member same] at found
      exact found
    · cases none

section Frontier

variable [Hashing]

def Edge (contents : Contents) (dependency dependent : WorkItemId) : Prop :=
  ∃ key edge, contents .dependencies key = some (.dependency edge) ∧ edge.dependency = dependency ∧ edge.dependent = dependent

-- Both ends of an edge are declared work of the edge's plan, and the rank grows along it.
structure Ordered (contents : Contents) (edge : DependencyIndexValue) (dependency dependent : WorkItem) : Prop where
  dependencyDeclared : DeclaredEntry contents (edge.dependency, dependency)
  dependentDeclared : DeclaredEntry contents (edge.dependent, dependent)
  dependencyPlan : dependency.planRootId = edge.planRootId
  dependentPlan : dependent.planRootId = edge.planRootId
  ranked : dependency.topologicalRank.value < dependent.topologicalRank.value

def EdgesOrdered (contents : Contents) : Prop :=
  Entries (contents .dependencies) fun _ value => ∃ edge dependency dependent, value = .dependency edge ∧
    Ordered contents edge dependency dependent

variable {contents maps : Contents}

theorem edges_ordered_mono (ordered : EdgesOrdered contents) (declared : ∀ entry, DeclaredEntry contents entry → DeclaredEntry maps entry) :
    Entries (contents .dependencies) fun _ value => ∃ edge dependency dependent, value = .dependency edge ∧
      Ordered maps edge dependency dependent := by
  refine entries_mono ordered ?_
  rintro key value ⟨edge, dependency, dependent, same, edgeOrdered⟩
  exact ⟨edge, dependency, dependent, same, declared _ edgeOrdered.dependencyDeclared, declared _ edgeOrdered.dependentDeclared,
    edgeOrdered.dependencyPlan, edgeOrdered.dependentPlan, edgeOrdered.ranked⟩

theorem edges_ordered_frame (ordered : EdgesOrdered contents) (dependencies : maps .dependencies = contents .dependencies)
    (declared : ∀ entry, DeclaredEntry contents entry → DeclaredEntry maps entry) : EdgesOrdered maps := by
  rw [EdgesOrdered, dependencies]
  exact edges_ordered_mono ordered declared

theorem edges_ordered_fact_step {state after : RunState} {runId : RunId} {body : FactBody}
    (step : FactStep state contents runId body after maps) (ordered : EdgesOrdered contents) : EdgesOrdered maps := by
  have unwritten := fact_step_unwritten step
  have declared := declared_entry_grows (fact_step_grows step (grows_refl contents))
  cases step with
  | dependencyDeclared fact _ dependent dependency dependentStored dependencyStored dependentPlan dependencyPlan ranked =>
    have less : dependency.workItem.topologicalRank.value < dependent.workItem.topologicalRank.value := by
      rw [compare_decimal_natural] at ranked
      split at ranked
      · assumption
      · split at ranked <;> cases ranked
    refine entries_put (edges_ordered_mono ordered declared) ⟨_, dependency.workItem, dependent.workItem, rfl, ?_⟩
    exact ⟨declared _ ⟨dependency, dependencyStored, rfl⟩, declared _ ⟨dependent, dependentStored, rfl⟩, dependencyPlan,
      dependentPlan, less⟩
  | _ => exact edges_ordered_frame ordered (unwritten .dependencies (by simp [writtenIndexes])) declared

theorem edges_ordered_preserved : Preserved fun _ contents => EdgesOrdered contents :=
  preserved_aside edges_ordered_fact_step fun ordered same =>
    edges_ordered_frame ordered (same .dependencies (by decide)) (declared_entry_frame (same .work (by decide)))

-- The rank of the work that is stored under an identity.
def rankOf (contents : Contents) (workItemId : WorkItemId) : Nat :=
  match contents .work (indexKey .work workItemId.text) with
  | some (.work work) => work.workItem.topologicalRank.value
  | _ => 0

theorem rank_of_declared {workItemId : WorkItemId} {item : WorkItem}
    (declared : DeclaredEntry contents (workItemId, item)) : rankOf contents workItemId = item.topologicalRank.value := by
  obtain ⟨work, stored, same⟩ := declared
  rw [rankOf, stored]
  exact congrArg (fun item : WorkItem => item.topologicalRank.value) same

theorem edge_ranked (ordered : EdgesOrdered contents) (dependency dependent : WorkItemId)
    (edge : Edge contents dependency dependent) : rankOf contents dependency < rankOf contents dependent := by
  obtain ⟨key, stored, found, rfl, rfl⟩ := edge
  obtain ⟨_, first, second, same, edgeOrdered⟩ := ordered key _ found
  cases same
  rw [rank_of_declared edgeOrdered.dependencyDeclared, rank_of_declared edgeOrdered.dependentDeclared]
  exact edgeOrdered.ranked

-- What the frontier is for, said of the maps: waiting work that the filters let through and whose dependencies are all done.
structure Ready (state : RunState) (contents : Contents) (entry : WorkIndexValue) : Prop where
  stored : ∃ key, contents .work key = some (.work entry)
  waiting : entry.acceptedOutput = none
  inPlan : state.phase = .execution → state.currentPlan.map CurrentPlanState.planRootId = some entry.workItem.planRootId
  corrects : ∀ fields, entry.workItem.kind = .correctArtifact fields → ∃ key finding,
    contents .findings key = some (.finding finding) ∧ finding.finding.findingId = fields.findingId ∧ finding.status = .open
  verifies : ∀ root plan, entry.workItem.kind = .verifyCandidate root plan →
    state.currentCandidate.map CurrentCandidateState.tree = some root
  done : ∀ dependency, Edge contents dependency entry.workItem.workItemId →
    ∃ work, StoredWork contents dependency work ∧ work.acceptedOutput.isSome = true

-- The key digest does not confuse the dependency of an edge with other work.
def KeysApart (contents : Contents) : Prop :=
  ∀ dependency dependent key work, Edge contents dependency dependent → contents .work key = some (.work work) →
    indexKey .work dependency.text = indexKey .work work.workItem.workItemId.text → dependency = work.workItem.workItemId

section

omit [Hashing]

-- The values of one kind that a complete page lists are those of the map.
theorem mem_complete {α : Type} {index : RunIndex} {entries : Key → Option IndexValue} (exactly : HotExact index entries)
    (kind : IndexValueKind) (select : IndexValue → Option α) (build : α → IndexValue) (kinded : ∀ item, (build item).kind = kind)
    (selects : ∀ value item, select value = some item ↔ value = build item) (items : List α)
    (listed : (indexValues index kind).map (fun values => values.filterMap select) = some items) (item : α) :
    item ∈ items ↔ ∃ key, entries key = some (build item) := by
  obtain ⟨values, complete, rfl⟩ := Option.map_eq_some_iff.mp listed
  rw [List.mem_filterMap]
  constructor
  · rintro ⟨value, member, selected⟩
    rw [(selects value item).mp selected] at member
    exact ((mem_index_values exactly complete).mp member).2
  · intro stored
    exact ⟨build item, (mem_index_values exactly complete).mpr ⟨kinded item, stored⟩, (selects _ item).mpr rfl⟩

theorem work_of_some (value : IndexValue) (work : WorkIndexValue) : workOf value = some work ↔ value = .work work := by
  cases value <;> simp [workOf]

theorem dependency_of_some (value : IndexValue) (edge : DependencyIndexValue) :
    dependencyOf value = some edge ↔ value = .dependency edge := by
  cases value <;> simp [dependencyOf]

theorem finding_of_some (value : IndexValue) (finding : FindingIndexValue) : findingOf value = some finding ↔ value = .finding finding := by
  cases value <;> simp [findingOf]

end

variable {state : RunState} {contents : Contents} (reads : Reads state contents) (own : OwnIdentity contents)

include own

theorem work_key {key : Key} {entry : WorkIndexValue} (stored : contents .work key = some (.work entry)) :
    key = indexKey .work entry.workItem.workItemId.text := by
  obtain ⟨identity, embedded, keyed⟩ := own .work key _ stored
  cases embedded
  exact keyed

theorem work_unique {firstKey secondKey : Key} {first second : WorkIndexValue}
    (firstStored : contents .work firstKey = some (.work first)) (secondStored : contents .work secondKey = some (.work second))
    (same : first.workItem.workItemId = second.workItem.workItemId) : first = second := by
  rw [work_key own firstStored, same, ← work_key own secondStored, secondStored] at firstStored
  cases firstStored
  rfl

theorem finding_unique {firstKey secondKey : Key} {first second : FindingIndexValue}
    (firstStored : contents .findings firstKey = some (.finding first))
    (secondStored : contents .findings secondKey = some (.finding second))
    (same : first.finding.findingId = second.finding.findingId) : first = second := by
  obtain ⟨_, embedded, firstKeyed⟩ := own .findings firstKey _ firstStored
  cases embedded
  obtain ⟨_, embedded, secondKeyed⟩ := own .findings secondKey _ secondStored
  cases embedded
  rw [firstKeyed, same, ← secondKeyed, secondStored] at firstStored
  cases firstStored
  rfl

-- The dependency of an edge is stored under its own identity, where the Map finds it.
theorem edge_dependency (ordered : EdgesOrdered contents) (apart : KeysApart contents) {dependency dependent : WorkItemId}
    (edge : Edge contents dependency dependent) :
    ∃ work, StoredWork contents dependency work ∧ work.workItem.workItemId = dependency := by
  obtain ⟨key, value, found, rfl, rfl⟩ := edge
  obtain ⟨_, first, second, same, edgeOrdered⟩ := ordered key _ found
  cases same
  obtain ⟨work, stored, _⟩ := edgeOrdered.dependencyDeclared
  exact ⟨work, stored, (apart _ _ _ work ⟨key, value, found, rfl, rfl⟩ stored (work_key own stored)).symm⟩

theorem waits_iff (ordered : EdgesOrdered contents) (apart : KeysApart contents) {work : List WorkIndexValue}
    {dependencies : List DependencyIndexValue}
    (workListed : ∀ entry, entry ∈ work ↔ ∃ key, contents .work key = some (.work entry))
    (dependenciesListed : ∀ edge, edge ∈ dependencies ↔ ∃ key, contents .dependencies key = some (.dependency edge))
    (entry : WorkIndexValue) :
    waits (workById work) dependencies entry = false ↔ ∀ dependency, Edge contents dependency entry.workItem.workItemId →
      ∃ prior, StoredWork contents dependency prior ∧ prior.acceptedOutput.isSome = true := by
  have unique : ∀ first ∈ work, ∀ second ∈ work, first.workItem.workItemId = second.workItem.workItemId → first = second := by
    intro first firstMember second secondMember same
    obtain ⟨firstKey, firstStored⟩ := (workListed first).mp firstMember
    obtain ⟨secondKey, secondStored⟩ := (workListed second).mp secondMember
    exact work_unique own firstStored secondStored same
  rw [waits, List.any_eq_false]
  constructor
  · intro free dependency edge
    obtain ⟨prior, stored, named⟩ := edge_dependency own ordered apart edge
    refine ⟨prior, stored, ?_⟩
    obtain ⟨key, value, found, rfl, isDependent⟩ := edge
    have listed := (work_by_id_iff work unique).mpr ⟨(workListed prior).mpr ⟨_, stored⟩, named⟩
    have member : value ∈ dependencies.filter fun edge => edge.dependent = entry.workItem.workItemId :=
      List.mem_filter.mpr ⟨(dependenciesListed value).mpr ⟨key, found⟩, by simpa using isDependent⟩
    have notNone := free value member
    rw [listed] at notNone
    simpa [Option.isSome_iff_ne_none] using notNone
  · intro done edge member
    obtain ⟨edgeListed, isDependent⟩ := List.mem_filter.mp member
    obtain ⟨key, found⟩ := (dependenciesListed edge).mp edgeListed
    have stored : Edge contents edge.dependency entry.workItem.workItemId := ⟨key, edge, found, rfl, by simpa using isDependent⟩
    obtain ⟨prior, priorStored, named⟩ := edge_dependency own ordered apart stored
    obtain ⟨same, sameStored, accepted⟩ := done edge.dependency stored
    rw [StoredWork] at priorStored sameStored
    rw [priorStored] at sameStored
    cases sameStored
    rw [(work_by_id_iff work unique).mpr ⟨(workListed prior).mpr ⟨_, priorStored⟩, named⟩]
    simpa [Option.isSome_iff_ne_none] using accepted

theorem correction_closed_iff {findings : List FindingIndexValue}
    (listed : ∀ finding, finding ∈ findings ↔ ∃ key, contents .findings key = some (.finding finding)) (item : WorkItem) :
    correctionClosed findings item = false ↔ ∀ fields, item.kind = .correctArtifact fields → ∃ key finding,
      contents .findings key = some (.finding finding) ∧ finding.finding.findingId = fields.findingId ∧ finding.status = .open := by
  rw [correctionClosed.eq_def]
  split
  · rename_i fields isCorrection
    simp only [isCorrection, WorkKind.correctArtifact.injEq, forall_eq', decide_eq_false_iff_not, ne_eq, not_not, Option.map_eq_some_iff]
    constructor
    · rintro ⟨finding, found, isOpen⟩
      obtain ⟨key, stored⟩ := (listed finding).mp (List.mem_of_find?_eq_some found)
      exact ⟨key, finding, stored, by simpa using List.find?_some found, isOpen⟩
    · rintro ⟨key, finding, stored, named, isOpen⟩
      have present : (findings.find? fun value => value.finding.findingId = fields.findingId).isSome := by
        rw [List.find?_isSome]
        exact ⟨finding, (listed finding).mpr ⟨key, stored⟩, by simpa using named⟩
      obtain ⟨first, found⟩ := Option.isSome_iff_exists.mp present
      obtain ⟨firstKey, firstStored⟩ := (listed first).mp (List.mem_of_find?_eq_some found)
      have firstNamed : first.finding.findingId = fields.findingId := by simpa using List.find?_some found
      have same := finding_unique own firstStored stored (firstNamed.trans named.symm)
      exact ⟨first, found, same ▸ isOpen⟩
  · rename_i other
    simp only [true_iff]
    intro fields isCorrection
    exact absurd isCorrection (other fields)

omit own

omit [Hashing] in
theorem candidate_differs_iff (state : RunState) (item : WorkItem) :
    candidateDiffers state item = false ↔ ∀ root plan, item.kind = .verifyCandidate root plan →
      state.currentCandidate.map CurrentCandidateState.tree = some root := by
  rw [candidateDiffers.eq_def]
  split
  · rename_i root plan isVerification
    simp [isVerification]
  · rename_i other
    simp only [true_iff]
    intro root plan isVerification
    exact absurd isVerification (other root plan)

omit [Hashing] in
theorem outside_plan_iff (state : RunState) (entry : WorkIndexValue) : outsidePlan state entry = false ↔
      (state.phase = .execution → state.currentPlan.map CurrentPlanState.planRootId = some entry.workItem.planRootId) := by
  simp [outsidePlan]

include reads own in
theorem complete_work_nodup {work : List WorkIndexValue} (listed : completeWork state = some work) : work.Nodup := by
  obtain ⟨values, complete, rfl⟩ := Option.map_eq_some_iff.mp listed
  obtain ⟨hot, rfl⟩ := index_values_some complete
  have exactly := (reads .work).exactly
  -- the key of an entry is a function of its value, and the keys are distinct
  have keyed : (state.indexes .work).hot.map Prod.fst = ((state.indexes .work).hot.map Prod.snd).map fun value =>
      indexKey .work ((embeddedIdentity .work value).getD []) := by
    rw [List.map_map]
    refine List.map_congr_left fun entry member => ?_
    obtain ⟨identity, embedded, same⟩ := own .work entry.1 entry.2 ((exactly.listed hot entry.1 entry.2).mp member)
    simp [embedded, same]
  have distinct := exactly.distinct
  rw [keyed] at distinct
  refine (List.Nodup.filter _ (List.Nodup.of_map _ distinct)).filterMap ?_
  intro first second entry firstSelected secondSelected
  rw [Option.mem_def, work_of_some] at firstSelected secondSelected
  rw [firstSelected, secondSelected]

include reads own in
theorem ready_work_exact (ordered : EdgesOrdered contents) (apart : KeysApart contents) (live : state.terminal = none)
    (active : state.suspension = .active) {frontier : List WorkIndexValue} (ready : readyWork state = .ready frontier) :
    frontier.Nodup ∧ ∀ entry, entry ∈ frontier ↔ Ready state contents entry := by
  rw [readyWork, live, active] at ready
  simp only [Option.isSome_none, isSuspended, Bool.or_self, Bool.false_eq_true, if_false] at ready
  split at ready
  · rename_i work dependencies findings workComplete dependenciesComplete findingsComplete
    cases ready
    have workListed := mem_complete (reads .work).exactly .work workOf .work (fun _ => rfl) work_of_some work workComplete
    have dependenciesListed := mem_complete (reads .dependencies).exactly .dependency dependencyOf .dependency (fun _ => rfl)
      dependency_of_some dependencies dependenciesComplete
    have findingsListed := mem_complete (reads .findings).exactly .finding findingOf .finding (fun _ => rfl)
      finding_of_some findings findingsComplete
    refine ⟨?_, fun entry => ?_⟩
    · rw [(sorted_by_text_perm _).nodup_iff]
      exact (complete_work_nodup reads own workComplete).filter _
    · rw [mem_sorted_by_text, List.mem_filter, workListed]
      simp only [isReady, Bool.and_eq_true, Bool.not_eq_true', Option.isNone_iff_eq_none, outside_plan_iff,
        waits_iff own ordered apart workListed dependenciesListed,
        correction_closed_iff own findingsListed, candidate_differs_iff]
      constructor
      · rintro ⟨stored, ⟨⟨⟨waiting, inPlan⟩, done⟩, corrects⟩, verifies⟩
        exact ⟨stored, waiting, inPlan, corrects, verifies, done⟩
      · intro isReady
        exact ⟨isReady.stored, ⟨⟨⟨isReady.waiting, isReady.inPlan⟩, isReady.done⟩, isReady.corrects⟩, isReady.verifies⟩
  · cases ready

def PlanPending (contents : Contents) (plan : CurrentPlanState) : Set WorkIndexValue :=
  { entry | (∃ key, contents .work key = some (.work entry)) ∧ entry.acceptedOutput = none ∧
    entry.workItem.planRootId = plan.planRootId }

include own in
-- Pending work of least rank is ready: what it depends on belongs to its plan, ranks lower and so is not pending.
theorem pending_plan_ready (ordered : EdgesOrdered contents) (apart : KeysApart contents) {plan : CurrentPlanState}
    (current : state.currentPlan = some plan) (pending : (PlanPending contents plan).Nonempty)
    (plain : ∀ entry ∈ PlanPending contents plan, (∀ fields, entry.workItem.kind ≠ .correctArtifact fields) ∧
      ∀ root validation, entry.workItem.kind ≠ .verifyCandidate root validation) :
    ∃ entry, Ready state contents entry := by
  have increasing (first second : WorkIndexValue) (edge : Edge contents first.workItem.workItemId second.workItem.workItemId) :
      rankOf contents first.workItem.workItemId < rankOf contents second.workItem.workItemId := edge_ranked ordered _ _ edge
  obtain ⟨entry, member, least⟩ := ranked_frontier increasing pending
  obtain ⟨⟨key, stored⟩, waiting, inPlan⟩ := member
  refine ⟨entry, ⟨key, stored⟩, waiting, fun _ => ?_, ?_, ?_, ?_⟩
  · rw [current, inPlan]
    rfl
  · intro fields isCorrection
    exact absurd isCorrection ((plain entry ⟨⟨key, stored⟩, waiting, inPlan⟩).1 fields)
  · intro root validation isVerification
    exact absurd isVerification ((plain entry ⟨⟨key, stored⟩, waiting, inPlan⟩).2 root validation)
  · intro dependency edge
    obtain ⟨work, workStored, named⟩ := edge_dependency own ordered apart edge
    refine ⟨work, workStored, ?_⟩
    by_contra unaccepted
    have pendingWork : work.acceptedOutput = none := by simpa using unaccepted
    refine least work ⟨⟨_, workStored⟩, pendingWork, ?_⟩ (named.symm ▸ edge)
    obtain ⟨edgeKey, value, found, rfl, isDependent⟩ := edge
    obtain ⟨_, first, second, same, edgeOrdered⟩ := ordered edgeKey _ found
    cases same
    obtain ⟨sameWork, sameStored, firstItem⟩ := edgeOrdered.dependencyDeclared
    obtain ⟨sameEntry, entryStored, secondItem⟩ := edgeOrdered.dependentDeclared
    rw [StoredWork] at workStored sameStored entryStored
    rw [workStored] at sameStored
    cases sameStored
    rw [isDependent, ← work_key own stored, stored] at entryStored
    cases entryStored
    have entryPlan : entry.workItem.planRootId = second.planRootId := congrArg (fun item : WorkItem => item.planRootId) secondItem
    rw [firstItem, edgeOrdered.dependencyPlan, ← edgeOrdered.dependentPlan, ← entryPlan]
    exact inPlan

end Frontier

section Frontier

variable [Hashing]

theorem ready_frontier_sound (collisionFree : CollisionFree IndexValue) (genesis : RunGenesis) (records : List JournalRecord)
    (state : RunState) (accepted : foldMany (initialState genesis) records = .ok state) :
    ∃ contents, Reads state contents ∧ (∀ key value, contents .dependencies key = some value → ∃ edge dependency dependent,
        value = .dependency edge ∧ Ordered contents edge dependency dependent) ∧
      (∀ workItemId, ¬ Relation.TransGen (Edge contents) workItemId workItemId) ∧
      ((∀ record ∈ records, ∀ fact ∈ recordFacts record, NamedCorrection fact.body) → KeysApart contents →
        state.terminal = none → state.suspension = .active → ∀ frontier, readyWork state = .ready frontier →
          frontier.Nodup ∧ (∀ entry, entry ∈ frontier ↔ Ready state contents entry) ∧
          ∀ plan, state.currentPlan = some plan → (PlanPending contents plan).Nonempty →
            (∀ entry ∈ PlanPending contents plan, (∀ fields, entry.workItem.kind ≠ .correctArtifact fields) ∧
              ∀ root validation, entry.workItem.kind ≠ .verifyCandidate root validation) → frontier ≠ []) := by
  have noEdges : EdgesOrdered fun _ _ => none := by
    intro key value stored
    cases stored
  obtain ⟨contents, reads, ordered⟩ := run_keeps edges_ordered_preserved collisionFree noEdges accepted
  refine ⟨contents, reads, ordered, fun workItemId => ranked_acyclic (edge_ranked ordered), ?_⟩
  intro named apart live active frontier ready
  have noEntries : OwnIdentity fun _ _ => none := by
    intro name key value stored
    cases stored
  obtain ⟨again, readsAgain, own⟩ := run_keeps_when own_identity_preserved collisionFree noEntries accepted named
  obtain rfl := reads_unique collisionFree reads readsAgain
  obtain ⟨distinct, exactly⟩ := ready_work_exact reads own ordered apart live active ready
  refine ⟨distinct, exactly, fun plan current pending plain => ?_⟩
  obtain ⟨entry, isReady⟩ := pending_plan_ready own ordered apart current pending plain
  exact List.ne_nil_of_mem ((exactly entry).mpr isReady)

end Frontier

section Sample

attribute [local instance] sampleWorld

-- In this log the correction keeps its identity, so the second item waits for the first.
theorem bound_correction_ready_frontier : ∃ records contents frontier, records.length = 6 ∧
    foldMany (initialState sampleGenesis) records = .ok (resubmitted boundWork).run ∧
      Reads (resubmitted boundWork).run contents ∧ readyWork (resubmitted boundWork).run = .ready frontier ∧
      frontier.Nodup ∧ ∀ entry, entry ∈ frontier ↔ Ready (resubmitted boundWork).run contents entry := by
  have permitted : ∀ fact ∈ [FactBody.workDeclared leadingWork, .workDeclared followingWork,
      .dependencyDeclared sampleDependency, .planRootAccepted leadingPlan,
      .findingAccepted (.blockingWithCorrection (sampleCorrection boundWork) sampleFinding),
      .workOutputAccepted correctorOutput], NamedCorrection fact := by
    simp [NamedCorrection, sampleCorrection, boundWork, correctingWork]
  obtain ⟨records, counted, ran, carried⟩ := recorded_facts (resubmitted_recorded boundWork rfl rfl) permitted
  have orderly : Orderly (resubmittedBook boundWork) := tidy_orderly _ (by decide +kernel)
  have reads := on_book_reads (resubmitted boundWork).state _ orderly
  obtain ⟨contents, readsAgain, _, _, sound⟩ := ready_frontier_sound sample_collision_free sampleGenesis records _ ran
  obtain rfl := reads_unique sample_collision_free reads readsAgain
  have apart : KeysApart (entryOf (resubmittedBook boundWork)) := by
    rintro dependency dependent key work ⟨edgeKey, edge, found, rfl, rfl⟩ stored sameKey
    have isEdge : (edgeKey, IndexValue.dependency edge) ∈ [dependencyEntry] := mem_of_get_own found
    have isWork : (key, IndexValue.work work) ∈ [workEntry ⟨none, leadingWork⟩, workEntry ⟨none, followingWork⟩,
        correctedEntry boundWork (some correctorOutput.acceptedOutput)] := mem_of_get_own stored
    simp only [List.mem_cons, List.not_mem_nil, or_false, dependencyEntry, workEntry, correctedEntry, Prod.mk.injEq,
      IndexValue.dependency.injEq, IndexValue.work.injEq] at isEdge isWork
    obtain ⟨_, rfl⟩ := isEdge
    rcases isWork with ⟨_, rfl⟩ | ⟨_, rfl⟩ | ⟨_, rfl⟩
    · rfl
    · exact absurd sameKey (by decide +kernel)
    · exact absurd sameKey (by decide +kernel)
  obtain ⟨distinct, exactly, _⟩ := sound carried apart rfl rfl [⟨none, leadingWork⟩] rfl
  exact ⟨records, _, _, counted, ran, reads, rfl, distinct, exactly⟩

-- The correction embeds the identity of the first item, whose place it takes in the Map once its output is accepted.
theorem straying_correction_ready : ∃ records state contents frontier,
    foldMany (initialState sampleGenesis) records = .ok state ∧ Reads state contents ∧ state.terminal = none ∧
      state.suspension = .active ∧ readyWork state = .ready frontier ∧
      ∃ entry ∈ frontier, ∃ dependency work, Edge contents dependency entry.workItem.workItemId ∧
        StoredWork contents dependency work ∧ work.acceptedOutput = none := by
  obtain ⟨records, _, ran⟩ := resubmitted_recorded strayingWork rfl rfl
  have reads := on_book_reads (resubmitted strayingWork).state _ (tidy_orderly (resubmittedBook strayingWork) (by decide +kernel))
  exact ⟨records, _, _, [⟨none, leadingWork⟩, ⟨none, followingWork⟩], ran, reads, rfl, rfl, rfl, ⟨none, followingWork⟩,
    by simp, leadingWork.workItemId, ⟨none, leadingWork⟩,
    ⟨dependencyEntry.1, ⟨leadingWork.workItemId, followingWork.workItemId, samplePlanRoot, sampleGenesis.runId⟩, rfl, rfl, rfl⟩,
    rfl, rfl⟩

end Sample

end Scheduling

end PiAutopilot.Authority
